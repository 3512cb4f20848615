import ConfigTables.Proofs.Datum.Ordering
import ConfigTables.Proofs.Datum.Reader
import Mathlib.Data.List.TakeDrop
import Mathlib.Data.List.TakeWhile

/-!
# JSON texts are read back

The text of a datum leads the reader from any state in which a value is to come to the state in
which it has been read (`JsonReader.leadsOn_jsonChars`), whatever is open around it. Only the end of
a number is not seen before something else follows, so what is said of pieces of text is said of
what comes after them, too (`JsonReader.LeadsOn`). The induction is on the datum; lists and objects
have one law for the parts between their brackets (`JsonReader.Bracket.leads_bracketed`).

The text of a datum is therefore read back as its sorted form (`Datum.Regular.ofJson?_json`), and
two data have one text just if they are the same value (`Datum.Regular.json_eq_iff`).
-/

namespace ConfigTables

namespace JsonReader

open Datum

/-! ### Texts -/

/-- Characters that are no halves of a pair stand for themselves. -/
theorem joinUnits_map_toNat (cs : List Char) : joinUnits (cs.map Char.toNat) = some cs := by
  induction cs with
  | nil => rfl
  | cons c cs ih =>
    have hvalid : c.toNat.isValidChar := c.valid
    rcases cs with _ | ⟨c', cs⟩
    · rw [List.map_singleton, joinUnits, if_pos hvalid, Char.ofNat_toNat]
    · rw [List.map_cons, List.map_cons, joinUnits, if_pos hvalid, ← List.map_cons, ih,
        Option.map_some, Char.ofNat_toNat]

theorem units_shortEscape {c d : Char} (h : shortEscape? c = some d) (cs : List Char) :
    units ('\\' :: c :: cs) = (units cs).map (d.toNat :: ·) := by
  rw [units, h]
  · rcases units cs with _ | ns <;> rfl
  · rintro _ _ _ _ _ rfl
    cases h

/-- An escape of four digits stands for the number that they write. -/
theorem hexValue?_hexDigits : ∀ n < 0x20, hexValue? (Text.hexDigits 4 n) = some n := by
  decide

/-- What is written for a character stands for it. -/
theorem units_jsonChar (c : Char) (cs : List Char) :
    units (jsonChar c ++ cs) = (units cs).map (c.toNat :: ·) := by
  unfold jsonChar
  split_ifs with hself hn hr ht hf hb hcontrol
  · have hescape : shortEscape? c = some c := by
      rcases Bool.or_eq_true_iff.1 hself with h | h <;> cases of_decide_eq_true h <;> rfl
    exact units_shortEscape hescape cs
  · exact units_shortEscape (hn ▸ rfl) cs
  · exact units_shortEscape (hr ▸ rfl) cs
  · exact units_shortEscape (ht ▸ rfl) cs
  · exact units_shortEscape (hf ▸ rfl) cs
  · exact units_shortEscape (hb ▸ rfl) cs
  · have hvalue := hexValue?_hexDigits c.toNat hcontrol
    simp only [Text.hexDigits, List.nil_append, List.cons_append] at hvalue ⊢
    rw [units, hvalue]
    rcases units cs with _ | ns <;> rfl
  · have hbackslash : c ≠ '\\' := by
      rintro rfl
      exact hself rfl
    rw [List.singleton_append, units, if_neg hbackslash]
    · exact fun _ _ _ _ _ h _ ↦ hbackslash h
    · exact fun _ _ h _ ↦ hbackslash h

/-- What is escaped for a text is read back as the text. -/
theorem unescape?_flatMap_jsonChar (s : String) :
    unescape? (s.toList.flatMap jsonChar) = some s := by
  have hunits : ∀ cs : List Char, units (cs.flatMap jsonChar) = some (cs.map Char.toNat) := by
    intro cs
    induction cs with
    | nil => rfl
    | cons c cs ih => rw [List.flatMap_cons, units_jsonChar, ih, Option.map_some, List.map_cons]
  rw [unescape?, hunits, Option.bind_some, joinUnits_map_toNat, Option.map_some,
    String.ofList_toList]

/-! ### Reading in pieces -/

/-- A text may be read piece by piece. -/
theorem readAll_append (s : State) (cs cs' : List Char) :
    readAll s (cs ++ cs') = (readAll s cs).bind (readAll · cs') :=
  List.foldlM_append

theorem readAll_cons {s t : State} {c : Char} (h : step s c = some t) (cs : List Char) :
    readAll s (c :: cs) = readAll t cs := by
  rw [readAll, List.foldlM_cons, h]
  rfl

/-- Reading a piece of text leads from one state to another. -/
def Leads (cs : List Char) (s t : State) : Prop :=
  readAll s cs = some t

/-- A text does not begin with a character that could belong to a number before it. -/
def Ends (rest : List Char) : Prop :=
  rest.head?.any (fun c ↦ !inNumber c) = true

/-- Reading a piece of text leads from one state to another, as far as can be told when something
follows that ends it. -/
def LeadsOn (cs : List Char) (s t : State) : Prop :=
  ∀ rest, Ends rest → readAll s (cs ++ rest) = readAll t rest

/-- Where one text leads, the rest is read from there. -/
theorem Leads.append {cs : List Char} {s t : State} (h : Leads cs s t) (rest : List Char) :
    readAll s (cs ++ rest) = readAll t rest := by
  rw [readAll_append, h]
  rfl

theorem Leads.cons {c : Char} {cs : List Char} {s t u : State} (h : step s c = some t)
    (h' : Leads cs t u) : Leads (c :: cs) s u :=
  (readAll_cons h cs).trans h'

/-- A state that is reached at once is also reached before whatever ends a value. -/
theorem Leads.leadsOn {cs : List Char} {s t : State} (h : Leads cs s t) : LeadsOn cs s t :=
  fun rest _ ↦ h.append rest

theorem Leads.trans {cs cs' : List Char} {s t u : State} (h : Leads cs s t) (h' : Leads cs' t u) :
    Leads (cs ++ cs') s u :=
  (h.append cs').trans h'

theorem Leads.trans_leadsOn {cs cs' : List Char} {s t u : State} (h : Leads cs s t)
    (h' : LeadsOn cs' t u) : LeadsOn (cs ++ cs') s u := by
  intro rest hrest
  rw [List.append_assoc, h.append, h' rest hrest]

/-- A number is complete when what comes next ends it. -/
theorem LeadsOn.trans {cs cs' : List Char} {s t u : State} (h : LeadsOn cs s t) (hends : Ends cs')
    (h' : Leads cs' t u) : Leads (cs ++ cs') s u :=
  (h cs' hends).trans h'

/-- A state that white space leads back to. -/
def Waits (s : State) : Prop :=
  ∀ c, isSpace c = true → step s c = some s

/-- A reader that waits for a value skips a line break and the spaces behind it. -/
theorem Waits.newLine {s : State} (h : Waits s) (depth : Nat) : Leads (newLine depth) s s := by
  have hspaces : ∀ n, Leads (List.replicate n ' ') s s := by
    intro n
    induction n with
    | zero => rfl
    | succ n ih => exact .cons (h ' ' rfl) ih
  exact .cons (h '\n' rfl) (hspaces (2 * depth))

/-! ### Parts in brackets -/

/-- How the parts between two brackets are read: the states before a part, after one, and after the
closing bracket, by the parts that are there already. -/
structure Bracket (α : Type) where
  closing : Char
  next : List α → State
  full : List α → α → State
  closed : List α → State
  next_waits : ∀ items, Waits (next items)
  full_waits : ∀ items a, Waits (full items a)
  comma : ∀ items a, step (full items a) ',' = some (next (items ++ [a]))
  close : ∀ items a, step (full items a) closing = some (closed (items ++ [a]))
  empty : step (next []) closing = some (closed [])

/-- Lists within others. -/
def Bracket.list (frames : List Frame) : Bracket Datum where
  closing := ']'
  next items := { phase := .value, frames := .list items :: frames }
  full items d := { phase := .done d, frames := .list items :: frames }
  closed items := { phase := .done (.list items), frames }
  next_waits _ _ h := if_pos h
  full_waits _ _ _ h := if_pos h
  comma _ _ := rfl
  close _ _ := rfl
  empty := rfl

/-- Objects within others. -/
def Bracket.object (frames : List Frame) : Bracket (String × Datum) where
  closing := '\x7d'
  next entries := { phase := .key entries, frames }
  full entries entry := { phase := .done entry.2, frames := .object entries entry.1 :: frames }
  closed entries := { phase := .done (.object entries), frames }
  next_waits _ _ h := if_pos h
  full_waits _ _ _ h := if_pos h
  comma _ _ := rfl
  close _ _ := rfl
  empty := rfl

/-- What follows a part in brackets: the other parts and the closing bracket. -/
def partsLeft (closing : Char) (depth : Nat) (parts : List (List Char)) : List Char :=
  parts.flatMap (fun more ↦ ',' :: newLine (depth + 1) ++ more) ++ newLine depth ++ [closing]

theorem ends_partsLeft (closing : Char) (depth : Nat) (parts : List (List Char)) :
    Ends (partsLeft closing depth parts) := by
  rcases parts with _ | ⟨part, parts⟩ <;> rfl

/-- Behind a comma and a line break comes the next part. -/
theorem partsLeft_cons (closing : Char) (depth : Nat) (part : List Char)
    (parts : List (List Char)) : partsLeft closing depth (part :: parts) =
      ',' :: (newLine (depth + 1) ++ (part ++ partsLeft closing depth parts)) := by
  simp [partsLeft]

/-- Behind the bracket and a line break comes the first part. -/
theorem bracketed_cons (opening closing : Char) (depth : Nat) (part : List Char)
    (parts : List (List Char)) : bracketed id opening closing depth (part :: parts) =
      opening :: (newLine (depth + 1) ++ (part ++ partsLeft closing depth parts)) := by
  simp [bracketed, partsLeft]

section Parts

variable {α : Type} (bracket : Bracket α) {depth : Nat} {parts : List (List Char)} {items : List α}

/-- A part is read as an item after any others. -/
def Bracket.Reads (part : List Char) (a : α) : Prop :=
  ∀ before, LeadsOn part (bracket.next before) (bracket.full before a)

theorem Bracket.leads_partsLeft (h : List.Forall₂ bracket.Reads parts items) (before : List α)
    (a : α) : Leads (partsLeft bracket.closing depth parts) (bracket.full before a)
      (bracket.closed (before ++ a :: items)) := by
  induction h generalizing before a with
  | nil =>
    have hline := (bracket.full_waits before a).newLine depth
    exact hline.trans (.cons (bracket.close before a) rfl)
  | @cons part b parts items hpart _ ih =>
    have hline := (bracket.next_waits (before ++ [a])).newLine (depth + 1)
    have hrest := (hpart (before ++ [a])).trans (ends_partsLeft _ depth parts)
      (ih (before ++ [a]) b)
    rw [partsLeft_cons, List.append_cons]
    exact .cons (bracket.comma before a) (hline.trans hrest)

/-- **Parts**: parts in brackets are read one by one, whatever they are, if each can be read after
any others. -/
theorem Bracket.leads_bracketed (h : List.Forall₂ bracket.Reads parts items) {opening : Char}
    {s : State} (hopen : step s opening = some (bracket.next [])) :
    Leads (bracketed id opening bracket.closing depth parts) s (bracket.closed items) := by
  rcases h with _ | ⟨hpart, hparts⟩
  · exact .cons hopen (.cons bracket.empty rfl)
  · have hline := (bracket.next_waits []).newLine (depth + 1)
    have hrest := (hpart []).trans (ends_partsLeft _ depth _) (bracket.leads_partsLeft hparts [] _)
    rw [bracketed_cons]
    exact .cons hopen (hline.trans hrest)

end Parts

/-! ### Texts between quotation marks -/

section Text

variable (entries? : Option (List (String × Datum))) (frames : List Frame)

/-- Characters that need no escape are taken into the text as they are. -/
theorem leads_plain {cs : List Char}
    (h : ∀ c ∈ cs, c ≠ '"' ∧ c ≠ '\\' ∧ ¬c.toNat < 0x20) (raw : List Char) :
    Leads cs { phase := .text entries? raw false, frames }
      { phase := .text entries? (raw ++ cs) false, frames } := by
  induction cs generalizing raw with
  | nil => rw [List.append_nil]; rfl
  | cons c cs ih =>
    rw [List.forall_mem_cons] at h
    obtain ⟨⟨hquote, hbackslash, hcontrol⟩, hcs⟩ := h
    have hstep : step { phase := .text entries? raw false, frames } c =
        some { phase := .text entries? (raw ++ [c]) false, frames } := by
      simp [step, inText, hquote, hbackslash, hcontrol]
    rw [List.append_cons]
    exact .cons hstep (ih hcs (raw ++ [c]))

/-- A backslash takes the character behind it into the text with it. -/
theorem leads_escape (c : Char) (raw : List Char) :
    Leads ['\\', c] { phase := .text entries? raw false, frames }
      { phase := .text entries? (raw ++ ['\\', c]) false, frames } := by
  rw [List.append_cons]
  exact .cons rfl (.cons rfl rfl)

theorem plain_hexDigits (width n : Nat) : ∀ c ∈ Text.hexDigits width n,
    c ≠ '"' ∧ c ≠ '\\' ∧ ¬c.toNat < 0x20 := by
  have hdigit : ∀ m < 16, Nat.digitChar m ≠ '"' ∧ Nat.digitChar m ≠ '\\' ∧
      ¬(Nat.digitChar m).toNat < 0x20 := by
    decide
  induction width generalizing n with
  | zero => exact List.forall_mem_nil _
  | succ width ih =>
    exact List.forall_mem_append.2
      ⟨ih (n / 16), List.forall_mem_singleton.2 (hdigit _ (Nat.mod_lt n (by decide)))⟩

/-- What is written for a character is gone through as a whole. -/
theorem leads_jsonChar (c : Char) (raw : List Char) :
    Leads (jsonChar c) { phase := .text entries? raw false, frames }
      { phase := .text entries? (raw ++ jsonChar c) false, frames } := by
  unfold jsonChar
  split_ifs with hself hn hr ht hf hb hcontrol
  iterate 6 exact leads_escape entries? frames _ raw
  · have hdigits := leads_plain entries? frames (plain_hexDigits 4 c.toNat)
      (raw ++ ['\\', 'u'])
    simpa using (leads_escape entries? frames 'u' raw).trans hdigits
  · rw [Bool.or_eq_true, decide_eq_true_eq, decide_eq_true_eq, not_or] at hself
    exact leads_plain entries? frames (List.forall_mem_singleton.2 ⟨hself.1, hself.2, hcontrol⟩) raw

/-- The escaped characters of a text are all taken into the text. -/
theorem leads_jsonChars (cs raw : List Char) :
    Leads (cs.flatMap jsonChar) { phase := .text entries? raw false, frames }
      { phase := .text entries? (raw ++ cs.flatMap jsonChar) false, frames } := by
  induction cs generalizing raw with
  | nil => rw [List.flatMap_nil, List.append_nil]; rfl
  | cons c cs ih =>
    rw [List.flatMap_cons, ← List.append_assoc]
    exact (leads_jsonChar entries? frames c raw).trans (ih _)

/-- A text that is a value. -/
theorem leads_jsonText (s : String) :
    Leads (jsonText s) { phase := .value, frames } { phase := .done (.text s), frames } := by
  have hclose : step { phase := .text none (s.toList.flatMap jsonChar) false, frames } '"' =
      some { phase := .done (.text s), frames } := by
    simp [step, inText, unescape?_flatMap_jsonChar]
  exact .cons rfl ((leads_jsonChars none frames s.toList []).trans (.cons hclose rfl))

/-- A text that is a key, and the colon after it. -/
theorem leads_key (entries : List (String × Datum)) (key : String) :
    Leads (jsonText key ++ [':', ' ']) { phase := .key entries, frames }
      { phase := .value, frames := .object entries key :: frames } := by
  have hclose : step { phase := .text (some entries) (key.toList.flatMap jsonChar) false, frames }
      '"' = some { phase := .colon entries key, frames } := by
    simp [step, inText, unescape?_flatMap_jsonChar]
  have htext : Leads (jsonText key) { phase := .key entries, frames }
      { phase := .colon entries key, frames } :=
    .cons rfl ((leads_jsonChars (some entries) frames key.toList []).trans (.cons hclose rfl))
  exact htext.trans (.cons rfl (.cons rfl rfl))

end Text

/-! ### Numbers -/

/-- A positive number does not begin with a zero. -/
theorem head?_toDigits_ne {n : Nat} (h : 0 < n) : (Nat.toDigits 10 n).head? ≠ some '0' := by
  induction n using Nat.strongRecOn with
  | ind n ih =>
    rcases Nat.lt_or_ge n 10 with hlt | hge
    · rw [Nat.toDigits_of_lt_base hlt, List.head?_singleton, Ne, Option.some.injEq,
        Nat.digitChar_eq_zero]
      omega
    · rw [Nat.toDigits_of_base_le (by decide) hge,
        List.head?_append_of_ne_nil _ Nat.toDigits_ne_nil]
      exact ih (n / 10) (by omega) (by omega)

theorem unsigned?_toDigits (negative : Bool) (n : Nat) :
    unsigned? negative (Nat.toDigits 10 n) = some (.int (if negative then -n else n)) := by
  have hdigits : ∀ c ∈ Nat.toDigits 10 n, c.isDigit = true :=
    fun c hc ↦ Nat.isDigit_of_mem_toDigits (by decide) (by decide) hc
  have hspan : (Nat.toDigits 10 n).span Char.isDigit = (Nat.toDigits 10 n, []) := by
    rw [List.span_eq_takeWhile_dropWhile, List.takeWhile_eq_self_iff.2 hdigits,
      List.dropWhile_eq_nil_iff.2 hdigits]
  have hzero : ¬((Nat.toDigits 10 n).head? = some '0' ∧ Nat.toDigits 10 n ≠ ['0']) := by
    rintro ⟨hhead, hne⟩
    rcases Nat.eq_zero_or_pos n with rfl | hpos
    · exact hne (Nat.toDigits_zero 10)
    · exact head?_toDigits_ne hpos hhead
  rw [unsigned?, hspan]
  split
  · next heq =>
    exact absurd (Prod.mk.inj heq).1 Nat.toDigits_ne_nil
  · next heq =>
    cases heq
    rw [if_neg hzero, if_pos rfl, Nat.ofDigitChars_ten_toDigits]

/-- An integer is read back from its decimal notation. -/
theorem number?_intChars (n : Int) : number? (intChars n) = some (.int n) := by
  unfold intChars
  split_ifs with hneg
  · change unsigned? true (Nat.toDigits 10 n.natAbs) = _
    rw [unsigned?_toDigits]
    simp only [if_true]
    congr 2
    omega
  · rw [List.nil_append, number?, unsigned?_toDigits]
    · simp only [Bool.false_eq_true, if_false]
      congr 2
      omega
    · intro cs heq
      have hmem : '-' ∈ Nat.toDigits 10 n.natAbs := by
        rw [heq]
        exact List.mem_cons_self
      exact absurd (Nat.isDigit_of_mem_toDigits (by decide) (by decide) hmem) (by decide)

/-- The first character of a number tells that it is one. -/
theorem step_value_of_number {c : Char} (h : c = '-' ∨ c.isDigit = true) (frames : List Frame) :
    step { phase := .value, frames } c = some { phase := .number [c], frames } := by
  have hspace : isSpace c = false := by
    rw [Bool.eq_false_iff, isSpace]
    intro hspace
    simp only [Bool.or_eq_true, decide_eq_true_eq] at hspace
    rcases hspace with ((rfl | rfl) | rfl) | rfl <;> exact absurd h (by decide)
  have hclosing : c ≠ ']' := by
    rintro rfl
    exact absurd h (by decide)
  simp [step, hspace, hclosing, begin, h]

theorem leads_number {cs : List Char} (h : ∀ c ∈ cs, inNumber c = true) (before : List Char)
    (frames : List Frame) : Leads cs { phase := .number before, frames }
      { phase := .number (before ++ cs), frames } := by
  induction cs generalizing before with
  | nil => rw [List.append_nil]; rfl
  | cons c cs ih =>
    rw [List.forall_mem_cons] at h
    rw [List.append_cons]
    exact .cons (if_pos h.1) (ih h.2 (before ++ [c]))

/-- A number is read to its end, wherever a value may stand. -/
theorem leadsOn_intChars (n : Int) (frames : List Frame) :
    LeadsOn (intChars n) { phase := .value, frames } { phase := .done (.int n), frames } := by
  have hall : ∀ c ∈ intChars n, c = '-' ∨ c.isDigit = true := by
    intro c hc
    rw [intChars, List.mem_append] at hc
    rcases hc with hc | hc
    · split_ifs at hc
      · exact .inl (List.mem_singleton.1 hc)
      · cases hc
    · exact .inr (Nat.isDigit_of_mem_toDigits (by decide) (by decide) hc)
  have hnumber := number?_intChars n
  rcases hchars : intChars n with _ | ⟨c, cs⟩
  · rw [hchars] at hnumber
    cases hnumber
  · rw [hchars] at hall hnumber
    rw [List.forall_mem_cons] at hall
    have hcs : ∀ c ∈ cs, inNumber c = true := by
      intro c hc
      rcases hall.2 c hc with rfl | hdigit
      · rfl
      · simp [inNumber, hdigit]
    have hleads :
        Leads (c :: cs) { phase := .value, frames } { phase := .number (c :: cs), frames } :=
      .cons (step_value_of_number hall.1 frames) (leads_number hcs [c] frames)
    -- A number has no end of its own: it is complete when another character comes.
    intro rest hrest
    rw [hleads.append]
    rcases rest with _ | ⟨e, rest⟩
    · cases hrest
    · have hends : inNumber e = false := by simpa [Ends] using hrest
      rw [readAll, readAll, List.foldlM_cons, List.foldlM_cons]
      simp [step, hends, hnumber]

/-! ### Data -/

/-- **Reading what was written**: where a value is to come, the text of a datum is read as its
sorted form, however deep it stands. -/
theorem leadsOn_jsonChars {d : Datum} (h : d.Regular) (depth : Nat) (frames : List Frame) :
    LeadsOn (d.jsonChars depth) { phase := .value, frames }
      { phase := .done d.sorted, frames } := by
  -- The frames are those of the brackets that are open around the value.
  induction h generalizing depth frames with
  | null => exact Leads.leadsOn rfl
  | bool value => cases value <;> exact Leads.leadsOn rfl
  | int n => exact leadsOn_intChars n frames
  | text s => exact (leads_jsonText frames s).leadsOn
  | @list items hitems ih =>
    have hparts : List.Forall₂ (Bracket.list frames).Reads
        (items.map (jsonChars (depth + 1))) (items.map sorted) := by
      rw [List.forall₂_map_left_iff, List.forall₂_map_right_iff, List.forall₂_same]
      exact fun d hd before ↦ ih d hd (depth + 1) (.list before :: frames)
    rw [jsonChars, sorted_list, jsonItems_eq_map]
    exact ((Bracket.list frames).leads_bracketed hparts rfl).leadsOn
  | @object entries hkeys hvalues ih =>
    have hparts : List.Forall₂ (Bracket.object frames).Reads
        ((sortByKey entries).map fun entry ↦
          jsonText entry.1 ++ ':' :: ' ' :: entry.2.jsonChars (depth + 1))
        ((sortByKey entries).map fun entry ↦ (entry.1, entry.2.sorted)) := by
      rw [List.forall₂_map_left_iff, List.forall₂_map_right_iff, List.forall₂_same]
      intro entry hentry before
      have hvalue := ih entry ((perm_sortByKey entries).mem_iff.1 hentry) (depth + 1)
        (.object before entry.1 :: frames)
      have hpart := (leads_key frames before entry.1).trans_leadsOn hvalue
      rw [List.append_assoc] at hpart
      exact hpart
    rw [jsonChars, sorted_object, jsonEntries_eq_map,
      sortByKey_map fun entry : String × Datum ↦ entry.2.jsonChars (depth + 1), List.map_map]
    exact ((Bracket.object frames).leads_bracketed hparts rfl).leadsOn

end JsonReader

namespace Datum

/-- The text of a datum and a line break are read back as its sorted form. -/
theorem Regular.ofJson?_json {d : Datum} (h : d.Regular) :
    ofJson? (d.json ++ "\n") = some d.sorted := by
  have hread := JsonReader.leadsOn_jsonChars h 0 [] ['\n'] rfl
  rw [ofJson?, json, String.toList_append, String.toList_ofList]
  change (JsonReader.readAll {} (d.jsonChars 0 ++ ['\n'])).bind _ = _
  rw [hread]
  rfl

/-- **One text for one value**: two data have the same JSON text if and only if they are the same
value. -/
theorem Regular.json_eq_iff {d e : Datum} (hd : d.Regular) (he : e.Regular) :
    d.json = e.json ↔ SameValue d e := by
  rw [hd.sameValue_iff_sorted_eq he]
  constructor
  · intro h
    rw [← Option.some.injEq, ← hd.ofJson?_json, ← he.ofJson?_json, h]
  · intro h
    rw [json, json, ← hd.jsonChars_sorted, ← he.jsonChars_sorted, h]

end Datum

end ConfigTables
