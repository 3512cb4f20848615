import ConfigTables.Proofs.Datum.Texts
import ConfigTables.Proofs.File.Artifact
import ConfigTables.Proofs.File.Payload
import Mathlib.Data.List.Sort
import Mathlib.Data.String.Basic

/-!
# Data written as JSON

A datum that is handed over to be written is a payload in which all texts are loose ones without a
surrogate. Entries are sorted by their keys in either form, and the keys stand in the same order
(`LooseText.ofString_le_iff`). So the payload is written as the datum itself
(`Payload.jsonPoints_ofDatum`), unless an integer in it has too many digits. That is the only thing
in the way of a datum, and it is just what leaves the datum without a text to be shown
(`Payload.not_hasText_of_holds`, `Payload.holds_of_not_hasText`).
-/

namespace ConfigTables

/-! ### Entries under distinct keys -/

/-- In a list of entries with distinct keys, each entry is what is found under its key. -/
theorem lookup_of_mem {entries : List (String × Datum)} (h : (entries.map Prod.fst).Nodup)
    {entry : String × Datum} (hmem : entry ∈ entries) :
    entries.lookup entry.1 = some entry.2 := by
  induction entries with
  | nil => cases hmem
  | cons first entries ih =>
    obtain ⟨key, value⟩ := first
    rw [List.map_cons, List.nodup_cons] at h
    rcases List.mem_cons.1 hmem with rfl | hmem
    · simp
    · have hne : entry.1 ≠ key := by
        intro heq
        have hkey := List.mem_map_of_mem (f := Prod.fst) hmem
        rw [heq] at hkey
        exact h.1 hkey
      rw [List.lookup_cons, beq_eq_false_iff_ne.2 hne]
      exact ih h.2 hmem

/-- The entries of a list with distinct keys are what is found under keys. -/
theorem mem_iff_lookup {entries : List (String × Datum)} (h : (entries.map Prod.fst).Nodup)
    {key : String} {d : Datum} : (key, d) ∈ entries ↔ entries.lookup key = some d := by
  refine ⟨lookup_of_mem h, fun hlookup ↦ ?_⟩
  obtain ⟨before, after, rfl, -⟩ := List.lookup_eq_some_iff.1 hlookup
  simp

namespace Datum

/-! ### Entries in the order of their keys -/

section Sorting

variable {α β : Type}

/-- Sorted entries stand in the order of their keys. -/
theorem pairwise_sortByKey (entries : List (String × α)) :
    (sortByKey entries).Pairwise fun a b ↦ a.1 ≤ b.1 := by
  have h : (sortByKey entries).Pairwise fun a b ↦ decide (a.1 ≤ b.1) = true := by
    refine List.pairwise_mergeSort (fun a b c hab hbc ↦ ?_) (fun a b ↦ ?_) entries
    · exact decide_eq_true ((of_decide_eq_true hab).trans (of_decide_eq_true hbc))
    · simpa using le_total a.1 b.1
  exact h.imp of_decide_eq_true

theorem sortByKey_sortByKey (entries : List (String × α)) :
    sortByKey (sortByKey entries) = sortByKey entries :=
  List.mergeSort_of_pairwise ((pairwise_sortByKey entries).imp decide_eq_true)

/-- Sorting does not look at values, and new keys in the same order make no difference to it. -/
theorem sortByKey_map_key {κ κ' : Type} [LE κ] [DecidableLE κ] [LE κ'] [DecidableLE κ']
    {g : κ → κ'} (hkeys : ∀ a b, g a ≤ g b ↔ a ≤ b) (f : κ × α → β) (entries : List (κ × α)) :
    sortByKey (entries.map fun entry ↦ (g entry.1, f entry)) =
      (sortByKey entries).map fun entry ↦ (g entry.1, f entry) :=
  (List.map_mergeSort fun a _ b _ ↦ decide_eq_decide.2 (hkeys a.1 b.1).symm).symm

theorem sortByKey_map (f : String × α → β) (entries : List (String × α)) :
    sortByKey (entries.map fun entry ↦ (entry.1, f entry)) =
      (sortByKey entries).map fun entry ↦ (entry.1, f entry) :=
  sortByKey_map_key (g := id) (fun _ _ ↦ Iff.rfl) f entries

end Sorting

/-- Objects whose entries are equal up to the order of their keys have one JSON text. -/
theorem jsonChars_sortByKey {entries entries' : List (String × Datum)} {depth : Nat}
    (h : jsonEntries (depth + 1) entries' = jsonEntries (depth + 1) entries) :
    jsonChars depth (.object (sortByKey entries')) = jsonChars depth (.object entries) := by
  have hsorted : sortByKey (jsonEntries (depth + 1) (sortByKey entries')) =
      sortByKey (jsonEntries (depth + 1) entries) := by
    rw [← h, jsonEntries_eq_map, jsonEntries_eq_map, sortByKey_map, sortByKey_map,
      sortByKey_sortByKey]
  rw [jsonChars, jsonChars, hsorted]

end Datum

/-! ### Characters as code points -/

namespace LooseText

theorem ofChars_append (cs ds : List Char) : ofChars (cs ++ ds) = ofChars cs ++ ofChars ds :=
  List.map_append

/-- Characters as code points stand in the order in which they stand as characters. -/
theorem ofChars_lt_iff {cs ds : List Char} : ofChars cs < ofChars ds ↔ cs < ds := by
  induction cs generalizing ds with
  | nil => cases ds <;> simp [ofChars]
  | cons c cs ih =>
    cases ds with
    | nil => simp [ofChars]
    | cons d ds =>
      have hchar : CodePoint.char c < CodePoint.char d ↔ c < d := Iff.rfl
      rw [ofChars, ofChars, List.map_cons, List.map_cons, List.cons_lt_cons_iff,
        List.cons_lt_cons_iff, ← ofChars, ← ofChars, ih, hchar, CodePoint.char.injEq]

/-- As loose texts, texts stand in the order in which they stand as texts. -/
theorem ofString_le_iff (s t : String) : ofString s ≤ ofString t ↔ s ≤ t := by
  rw [← not_iff_not]
  exact not_not.trans (ofChars_lt_iff.trans not_not.symm)

/-- A text is quoted as a loose text just as it is quoted as a text. -/
theorem jsonText_ofString (s : String) :
    Payload.jsonText (ofString s) = ofChars (Datum.jsonText s) := by
  have hbody (cs : List Char) : (ofChars cs).flatMap Payload.jsonPoint =
      ofChars (cs.flatMap Datum.jsonChar) := by
    induction cs with
    | nil => rfl
    | cons c cs ih =>
      rw [ofChars, List.map_cons, List.flatMap_cons, ← ofChars, ih, List.flatMap_cons,
        ofChars_append, Payload.jsonPoint]
  rw [Payload.jsonText, ofString, hbody, Datum.jsonText]
  simp [ofChars]

end LooseText

/-- What stands between brackets may be taken for something else before or afterwards. -/
theorem Datum.map_bracketed {α : Type} (embed : Char → α) (opening closing : Char) (depth : Nat)
    (parts : List (List Char)) :
    (bracketed id opening closing depth parts).map embed =
      bracketed embed opening closing depth (parts.map (List.map embed)) := by
  cases parts with
  | nil => rfl
  | cons part parts =>
    simp [bracketed, List.map_flatMap, List.flatMap_map]

/-! ### Data as payloads -/

namespace Payload

open Datum

theorem ofItems_eq_map (ds : List Datum) : ofItems ds = ds.map ofDatum := by
  induction ds with
  | nil => rfl
  | cons d ds ih => rw [ofItems, ih, List.map_cons]

theorem ofEntries_eq_map (entries : List (String × Datum)) :
    ofEntries entries = entries.map fun entry ↦ (.ofString entry.1, ofDatum entry.2) := by
  induction entries with
  | nil => rfl
  | cons entry entries ih => rw [ofEntries, ih, List.map_cons]

/-! ### What is in the way of writing a datum -/

/-- Nothing can be in the way but an integer with too many digits. -/
theorem not_hasText_of_holds {p : Payload} {fault : PayloadFault} (h : p.Holds fault) {d : Datum}
    (hp : ofDatum d = p) : fault = .tooManyDigits ∧ ¬d.HasText := by
  induction h generalizing d with
  | shapeless | failing | boxed | content | member | key | value => cases d <;> cases hp
  | int hlong =>
    cases d <;> cases hp
    exact ⟨rfl, by simp [HasText, display?, hlong]⟩
  | item hmem _ ih =>
    cases d <;> cases hp
    rw [ofItems_eq_map] at hmem
    obtain ⟨d, hd, heq⟩ := List.mem_map.1 hmem
    exact (ih heq).imp_right fun hnone hall ↦ hnone (hasText_list_iff.1 hall d hd)
  | entry hmem _ ih =>
    cases d <;> cases hp
    rw [ofEntries_eq_map] at hmem
    obtain ⟨entry, hentry, rfl⟩ := List.mem_map.1 hmem
    exact (ih rfl).imp_right fun hnone hall ↦ hnone (hasText_object_iff.1 hall entry hentry)

/-- A datum without a text has such an integer in it. -/
theorem holds_of_not_hasText (d : Datum) (h : ¬d.HasText) : (ofDatum d).Holds .tooManyDigits := by
  match d with
  | .null | .bool true | .bool false | .float _ | .text _ => exact absurd rfl h
  | .int n =>
    refine .int (Bool.eq_false_iff.2 fun hshort ↦ h ?_)
    rw [HasText, display?, if_pos hshort]
    rfl
  | .list items =>
    rw [hasText_list_iff, not_forall] at h
    obtain ⟨d, hd⟩ := h
    obtain ⟨hmem, hnone⟩ := Classical.not_imp.1 hd
    refine .item (p := ofDatum d) ?_ (holds_of_not_hasText d hnone)
    rw [ofItems_eq_map]
    exact List.mem_map_of_mem hmem
  | .object entries =>
    rw [hasText_object_iff, not_forall] at h
    obtain ⟨entry, hentry⟩ := h
    obtain ⟨hmem, hnone⟩ := Classical.not_imp.1 hentry
    have hentries : (.ofString entry.1, ofDatum entry.2) ∈ ofEntries entries := by
      rw [ofEntries_eq_map]
      exact List.mem_map_of_mem hmem
    exact .entry hentries (holds_of_not_hasText entry.2 hnone)
termination_by d
decreasing_by
  · have := List.sizeOf_lt_of_mem hmem
    simp only [Datum.list.sizeOf_spec]
    omega
  · have := sizeOf_snd_lt_of_mem hmem
    simp only [Datum.object.sizeOf_spec]
    omega

/-- A datum without a text has no JSON text, and for that reason. -/
theorem jsonPoints_ofDatum_of_not_hasText {d : Datum} (h : ¬d.HasText) (depth : Nat) :
    jsonPoints depth (ofDatum d) = .error .tooManyDigits := by
  obtain ⟨first, hfirst⟩ := (holds_of_not_hasText d h).exists_jsonPoints depth
  rw [hfirst, (not_hasText_of_holds (holds_of_jsonPoints _ depth hfirst) rfl).1]

/-! ### What a datum is written as -/

/-- The entries of an object are gathered as those of the datum are, if all of them have texts. -/
theorem gather_ofChars (entries : List (String × List Char)) :
    gather (entries.map fun entry ↦ (.ofString entry.1, .ok (.ofChars entry.2))) =
      .ok ((sortByKey entries).map fun entry ↦
        LooseText.ofChars (Datum.jsonText entry.1 ++ ':' :: ' ' :: entry.2)) := by
  rw [gather, sortByKey_map_key LooseText.ofString_le_iff, Except.mapM_eq_ok_iff,
    List.forall₂_map_left_iff, List.forall₂_map_right_iff]
  refine List.forall₂_same.2 fun entry _ ↦ congrArg Except.ok ?_
  rw [jsonEntry, LooseText.jsonText_ofString, LooseText.ofChars_append]
  rfl

/-- **Data as payloads**: a datum that has a text is written as its own JSON text, at any depth. -/
theorem jsonPoints_ofDatum {d : Datum} (h : d.HasText) (depth : Nat) :
    jsonPoints depth (ofDatum d) = .ok (.ofChars (d.jsonChars depth)) := by
  match d with
  | .null | .bool true | .bool false | .float _ => rfl
  | .int n =>
    have hshort : isWritable n = true := by
      rw [HasText, display?] at h
      by_contra hlong
      rw [if_neg hlong] at h
      cases h
    rw [ofDatum, jsonPoints, jsonInt, if_pos hshort, jsonChars]
  | .text s => exact congrArg Except.ok (LooseText.jsonText_ofString s)
  | .list items =>
    have hitems : jsonItems (depth + 1) (ofItems items) =
        .ok ((Datum.jsonItems (depth + 1) items).map LooseText.ofChars) := by
      rw [jsonItems_eq_mapM, ofItems_eq_map, Datum.jsonItems_eq_map, Except.mapM_eq_ok_iff,
        List.forall₂_map_left_iff, List.map_map, List.forall₂_map_right_iff]
      exact List.forall₂_same.2 fun d hmem ↦
        jsonPoints_ofDatum (hasText_list_iff.1 h d hmem) (depth + 1)
    rw [ofDatum, jsonPoints, hitems, jsonChars, LooseText.ofChars, map_bracketed]
    rfl
  | .object entries =>
    have hentries : jsonEntries (depth + 1) (ofEntries entries) =
        (Datum.jsonEntries (depth + 1) entries).map fun entry ↦
          (.ofString entry.1, .ok (.ofChars entry.2)) := by
      rw [jsonEntries_eq_map, ofEntries_eq_map, Datum.jsonEntries_eq_map, List.map_map,
        List.map_map]
      exact List.map_congr_left fun entry hmem ↦ congrArg (Prod.mk _)
        (jsonPoints_ofDatum (hasText_object_iff.1 h entry hmem) (depth + 1))
    rw [ofDatum, jsonPoints, hentries, gather_ofChars, jsonChars, LooseText.ofChars, map_bracketed,
      List.map_map]
    rfl
termination_by d
decreasing_by
  · have := List.sizeOf_lt_of_mem hmem
    simp only [Datum.list.sizeOf_spec]
    omega
  · have := sizeOf_snd_lt_of_mem hmem
    simp only [Datum.object.sizeOf_spec]
    omega

end Payload

namespace Artifact

/-- What a datum with a text is written as: its JSON text and a line break. -/
theorem text_ofDatum {d : Datum} (h : d.HasText) : text (.ofDatum d) = .ok (d.json ++ "\n") := by
  have hline : (Payload.ofDatum d).json = .ok (.ofChars (d.jsonChars 0 ++ ['\n'])) := by
    rw [Payload.json, Payload.jsonPoints_ofDatum h, LooseText.ofChars_append]
    rfl
  rw [text, hline, Except.bind_ok, Payload.encode, LooseText.string?_ofChars, String.ofList_append]
  rfl

/-- A datum without a text is not written. -/
theorem text_ofDatum_of_not_hasText {d : Datum} (h : ¬d.HasText) :
    text (.ofDatum d) = .error .tooManyDigits := by
  rw [text, Payload.json, Payload.jsonPoints_ofDatum_of_not_hasText h]
  rfl

/-- Just the data with texts are written, and as their JSON texts. -/
theorem text_ofDatum_eq_ok_iff {d : Datum} {content : String} :
    text (.ofDatum d) = .ok content ↔ d.HasText ∧ content = d.json ++ "\n" := by
  by_cases h : d.HasText
  · rw [text_ofDatum h, Except.ok.injEq, eq_comm]
    exact (and_iff_right h).symm
  · rw [text_ofDatum_of_not_hasText h]
    simp [h]

/-- All data without a text are written alike: the writing fails at one place. -/
theorem write_ofDatum_of_not_hasText {d d' : Datum} (h : ¬d.HasText) (h' : ¬d'.HasText)
    (target : Path) : write target (.ofDatum d) = write target (.ofDatum d') := by
  have hjson : (Payload.ofDatum d).json = (Payload.ofDatum d').json := by
    rw [Payload.json, Payload.json, Payload.jsonPoints_ofDatum_of_not_hasText h,
      Payload.jsonPoints_ofDatum_of_not_hasText h']
  rw [write, write, hjson]

/-- **Writing data**: a datum that is written has a text and stands at the target as its JSON text
and a line break. -/
theorem written_of_write_ofDatum {d : Datum} {target path : Path} {before after : FileTree}
    (h : write target (.ofDatum d) before = .ok path after) :
    d.HasText ∧ path = target ∧
      ∃ directory, Written target (d.json ++ "\n") directory before after := by
  obtain ⟨hpath, content, directory, htext, hwritten⟩ := written_of_write h
  obtain ⟨hd, rfl⟩ := text_ofDatum_eq_ok_iff.1 htext
  exact ⟨hd, hpath, directory, hwritten⟩

end Artifact

end ConfigTables
