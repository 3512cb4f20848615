import ConfigTables.File.Payload
import ConfigTables.Proofs.Programs

/-!
# Payloads without a JSON text

A payload has no JSON text exactly if something that cannot be written is somewhere in it, however
deep: a value without a JSON form, a value that fails when it is looked at, a key that is none, or
an integer with too many digits. Wherever there is such a part there is a failure
(`Payload.Holds.exists_jsonPoints`), and what is reported is such a part
(`Payload.holds_of_jsonPoints`).

The parts of a payload are written by passes over lists, which are brought into the form that the
lemmas on programs speak of first. Then one direction is an induction on where the offending part
is, and the other a recursion into the payload.
-/

namespace ConfigTables.Payload

/-- Something that cannot be written for the given reason is somewhere in a payload. -/
inductive Holds : PayloadFault → Payload → Prop where
  | shapeless (shape : String) : Holds (.shapeless shape) (.shapeless shape)
  | failing (kind message : String) : Holds (.own kind message) (.failing kind message)
  | int {n : Int} (long : Datum.isWritable n = false) : Holds .tooManyDigits (.int n)
  /-- What is in the box has no JSON form by itself. -/
  | boxed {shape : String} {content : Payload} (compound : content.isScalar = false) :
      Holds (.shapeless shape) (.boxed shape content)
  | content {fault : PayloadFault} {shape : String} {content : Payload}
      (scalar : content.isScalar = true) (h : Holds fault content) :
      Holds fault (.boxed shape content)
  | item {fault : PayloadFault} {items : List Payload} {p : Payload} (hmem : p ∈ items)
      (h : Holds fault p) : Holds fault (.list items)
  | member {fault : PayloadFault} {members : List Payload} {p : Payload} (hmem : p ∈ members)
      (h : Holds fault p) : Holds fault (.set members)
  | entry {fault : PayloadFault} {entries : List (LooseText × Payload)}
      {entry : LooseText × Payload} (hmem : entry ∈ entries) (h : Holds fault entry.2) :
      Holds fault (.object entries)
  | key {fault : PayloadFault} {entries : List (PayloadKey × Payload)}
      {entry : PayloadKey × Payload} (hmem : entry ∈ entries)
      (h : keyText entry.1 = .error fault) : Holds fault (.keyed entries)
  | value {fault : PayloadFault} {entries : List (PayloadKey × Payload)}
      {entry : PayloadKey × Payload} (hmem : entry ∈ entries) (h : Holds fault entry.2) :
      Holds fault (.keyed entries)

variable {fault : PayloadFault} {depth : Nat}

/-! ### Passes over parts -/

/-- Items are written one by one. -/
theorem jsonItems_eq_mapM (depth : Nat) (items : List Payload) :
    jsonItems depth items = items.mapM (jsonPoints depth) := by
  induction items with
  | nil => rfl
  | cons p items ih =>
    rw [jsonItems, List.mapM_cons, ih]
    cases jsonPoints depth p with
    | error fault => rfl
    | ok part => cases items.mapM (jsonPoints depth) <;> rfl

theorem jsonEntries_eq_map (depth : Nat) (entries : List (LooseText × Payload)) :
    jsonEntries depth entries = entries.map fun entry ↦ (entry.1, jsonPoints depth entry.2) := by
  induction entries with
  | nil => rfl
  | cons entry entries ih => rw [jsonEntries, ih, List.map_cons]

/-- The JSON text of an entry, which is that of its key and then that of its value. -/
def keyedEntry (depth : Nat) (entry : PayloadKey × Payload) : Except PayloadFault LooseText := do
  let key ← keyText entry.1
  let value ← jsonPoints depth entry.2
  return jsonEntry key value

/-- Entries with other keys than texts are written one by one. -/
theorem jsonKeyed_eq_mapM (depth : Nat) (entries : List (PayloadKey × Payload)) :
    jsonKeyed depth entries = entries.mapM (keyedEntry depth) := by
  induction entries with
  | nil => rfl
  | cons entry entries ih =>
    rw [jsonKeyed, List.mapM_cons, ih, keyedEntry]
    cases keyText entry.1 with
    | error fault => rfl
    | ok key =>
      cases jsonPoints depth entry.2 with
      | error fault => rfl
      | ok value => cases entries.mapM (keyedEntry depth) <;> rfl

theorem keyedEntry_eq_error_iff {entry : PayloadKey × Payload} :
    keyedEntry depth entry = .error fault ↔ keyText entry.1 = .error fault ∨
      ∃ key, keyText entry.1 = .ok key ∧ jsonPoints depth entry.2 = .error fault := by
  simp only [keyedEntry, Except.bind_eq_error_iff, pure, Except.pure, reduceCtorEq, and_false,
    exists_false, or_false]

/-- An entry without a text leaves its object without one. -/
theorem exists_gather_eq_error {entries : List (LooseText × Except PayloadFault LooseText)}
    {key : LooseText} (h : (key, .error fault) ∈ entries) :
    ∃ first, gather entries = .error first :=
  Except.exists_mapM_eq_error (List.mem_mergeSort.2 h) rfl

/-- An object without a text has an entry without one. -/
theorem mem_of_gather_eq_error {entries : List (LooseText × Except PayloadFault LooseText)}
    (h : gather entries = .error fault) : ∃ key, (key, .error fault) ∈ entries := by
  obtain ⟨⟨key, value⟩, hmem, hvalue⟩ := Except.exists_of_mapM_eq_error h
  obtain rfl := Except.map_eq_error_iff.1 hvalue
  exact ⟨key, List.mem_mergeSort.1 hmem⟩

/-! ### What is in the way of a text -/

/-- Wherever something that cannot be written is, there is no text for the whole. -/
theorem Holds.exists_jsonPoints {p : Payload} (h : p.Holds fault) (depth : Nat) :
    ∃ first, jsonPoints depth p = .error first := by
  induction h generalizing depth with
  | shapeless shape => exact ⟨_, rfl⟩
  | failing kind message => exact ⟨_, rfl⟩
  | int long => exact ⟨.tooManyDigits, by simp [jsonPoints, jsonInt, long]⟩
  | boxed compound => exact ⟨_, by rw [jsonPoints, compound, if_neg Bool.false_ne_true]⟩
  | content scalar _ ih =>
    obtain ⟨first, hfirst⟩ := ih depth
    exact ⟨first, by rw [jsonPoints, if_pos scalar, hfirst]⟩
  | item hmem _ ih | member hmem _ ih =>
    obtain ⟨other, hother⟩ := ih (depth + 1)
    obtain ⟨first, hfirst⟩ := Except.exists_mapM_eq_error hmem hother
    exact ⟨first, Except.map_eq_error_iff.2 (jsonItems_eq_mapM _ _ ▸ hfirst)⟩
  | @entry _ entries entry hmem _ ih =>
    obtain ⟨other, hother⟩ := ih (depth + 1)
    have hpart : (entry.1, .error other) ∈ jsonEntries (depth + 1) entries := by
      rw [jsonEntries_eq_map]
      exact List.mem_map.2 ⟨entry, hmem, by rw [hother]⟩
    obtain ⟨first, hfirst⟩ := exists_gather_eq_error hpart
    exact ⟨first, Except.map_eq_error_iff.2 hfirst⟩
  | key hmem hkey =>
    obtain ⟨first, hfirst⟩ := Except.exists_mapM_eq_error hmem
      (keyedEntry_eq_error_iff.2 (.inl hkey))
    exact ⟨first, Except.map_eq_error_iff.2 (jsonKeyed_eq_mapM _ _ ▸ hfirst)⟩
  | @value _ entries entry hmem _ ih =>
    obtain ⟨other, hother⟩ := ih (depth + 1)
    have hentry : ∃ fault, keyedEntry (depth + 1) entry = .error fault := by
      cases hkey : keyText entry.1 with
      | error fault => exact ⟨fault, keyedEntry_eq_error_iff.2 (.inl hkey)⟩
      | ok key => exact ⟨other, keyedEntry_eq_error_iff.2 (.inr ⟨key, hkey, hother⟩)⟩
    obtain ⟨fault, hfault⟩ := hentry
    obtain ⟨first, hfirst⟩ := Except.exists_mapM_eq_error hmem hfault
    exact ⟨first, Except.map_eq_error_iff.2 (jsonKeyed_eq_mapM _ _ ▸ hfirst)⟩

theorem sizeOf_snd_lt_of_mem {α β : Type} [SizeOf α] [SizeOf β] {entries : List (α × β)}
    {entry : α × β} (hmem : entry ∈ entries) : sizeOf entry.2 < sizeOf entries := by
  have hentry := List.sizeOf_lt_of_mem hmem
  obtain ⟨key, value⟩ := entry
  rw [Prod.mk.sizeOf_spec] at hentry
  dsimp only
  omega

/-- What is reported of a payload without a text is in the payload. -/
theorem holds_of_jsonPoints (p : Payload) (depth : Nat) (h : jsonPoints depth p = .error fault) :
    p.Holds fault := by
  match p with
  | .null | .bool _ | .float _ | .text _ | .path _ | .moment _ => cases h
  | .int n =>
    rw [jsonPoints, jsonInt] at h
    split at h
    · cases h
    · next hlong =>
      cases h
      exact .int (Bool.eq_false_iff.2 hlong)
  | .shapeless shape =>
    cases h
    exact .shapeless shape
  | .failing kind message =>
    cases h
    exact .failing kind message
  | .boxed shape content =>
    rw [jsonPoints] at h
    split at h
    · next hscalar => exact .content hscalar (holds_of_jsonPoints content depth h)
    · next hcompound =>
      cases h
      exact .boxed (Bool.eq_false_iff.2 hcompound)
  | .list items =>
    have hitems := Except.map_eq_error_iff.1 h
    rw [jsonItems_eq_mapM] at hitems
    obtain ⟨q, hmem, hq⟩ := Except.exists_of_mapM_eq_error hitems
    exact .item hmem (holds_of_jsonPoints q (depth + 1) hq)
  | .set members =>
    have hmembers := Except.map_eq_error_iff.1 h
    rw [jsonItems_eq_mapM] at hmembers
    obtain ⟨q, hmem, hq⟩ := Except.exists_of_mapM_eq_error hmembers
    exact .member hmem (holds_of_jsonPoints q (depth + 1) hq)
  | .object entries =>
    obtain ⟨key, hkey⟩ := mem_of_gather_eq_error (Except.map_eq_error_iff.1 h)
    rw [jsonEntries_eq_map] at hkey
    obtain ⟨entry, hmem, hentry⟩ := List.mem_map.1 hkey
    exact .entry hmem (holds_of_jsonPoints entry.2 (depth + 1) (Prod.mk.inj hentry).2)
  | .keyed entries =>
    have hentries := Except.map_eq_error_iff.1 h
    rw [jsonKeyed_eq_mapM] at hentries
    obtain ⟨entry, hmem, hentry⟩ := Except.exists_of_mapM_eq_error hentries
    rcases keyedEntry_eq_error_iff.1 hentry with hkey | ⟨key, -, hvalue⟩
    · exact .key hmem hkey
    · exact .value hmem (holds_of_jsonPoints entry.2 (depth + 1) hvalue)
termination_by p
decreasing_by
  all_goals first
    | (have hlt := List.sizeOf_lt_of_mem hmem; simp only [list.sizeOf_spec, set.sizeOf_spec]; omega)
    | (have hlt := sizeOf_snd_lt_of_mem hmem
       simp only [object.sizeOf_spec, keyed.sizeOf_spec]
       omega)
    | (simp only [boxed.sizeOf_spec]; omega)

end ConfigTables.Payload
