import ConfigTables.Proofs.Programs
import ConfigTables.Proofs.Text.Trimming
import ConfigTables.Proofs.Value.Elements
import Mathlib.Data.Nat.Digits.Defs
import Mathlib.Data.Nat.Digits.Lemmas
import Mathlib.Data.Set.List

/-!
# Integers, by their grammar

Which texts are integers, and which ones, is said without the scanner: a digit is a character at
most nine places behind the zero of a script (`Text.IsDigit`), and a `Numeral` is an optional sign
and 1 to 17 digits, whose value is the sum of the digits by place. The scanner reads exactly the
numerals (`readInteger_eq_some_iff`), and a number of at most 17 digits is read from its own decimal
text (`numeral_toString`).

In the list of zeros each is at least ten behind the one before, so no character is a digit of two
scripts, and the first run that a character lies in is the only one.
-/

namespace ConfigTables

/-! ### Digits -/

namespace Text

/-- A character is the digit of a script that has the given value. -/
def IsDigit (c : Char) (value : Nat) : Prop :=
  value < 10 ∧ ∃ start ∈ digitZeros, c.toNat = start + value

theorem isChain_digitZeros : digitZeros.IsChain fun start next ↦ start + 10 ≤ next := by
  decide +kernel

/-- The digits of two scripts are ten code points apart. -/
theorem digitZeros_apart {start other : Nat} (hstart : start ∈ digitZeros)
    (hother : other ∈ digitZeros) (hne : start ≠ other) :
    start + 10 ≤ other ∨ other + 10 ≤ start := by
  have : Trans (fun start next : Nat ↦ start + 10 ≤ next) (fun start next ↦ start + 10 ≤ next)
      (fun start next ↦ start + 10 ≤ next) := ⟨fun h h' ↦ by omega⟩
  have : Std.Symm fun start other : Nat ↦ start + 10 ≤ other ∨ other + 10 ≤ start :=
    ⟨fun _ _ ↦ Or.symm⟩
  have hpairs : digitZeros.Pairwise fun start other ↦ start + 10 ≤ other ∨ other + 10 ≤ start :=
    (List.isChain_iff_pairwise.1 isChain_digitZeros).imp .inl
  exact hpairs.forall hstart hother hne

/-- The table finds the value of every digit and nothing else. -/
theorem digitValue?_eq_some_iff {c : Char} {value : Nat} :
    digitValue? c = some value ↔ IsDigit c value := by
  constructor
  · intro h
    refine ⟨digitValue?_lt h, ?_⟩
    obtain ⟨start, hfind, rfl⟩ := Option.map_eq_some_iff.1 h
    have hrun : start ≤ c.toNat ∧ c.toNat < start + 10 := by simpa using List.find?_some hfind
    exact ⟨start, List.mem_of_find?_eq_some hfind, by omega⟩
  · rintro ⟨hvalue, start, hstart, hc⟩
    have hthere : (digitZeros.find? fun z ↦ z ≤ c.toNat && c.toNat < z + 10).isSome := by
      rw [List.find?_isSome]
      exact ⟨start, hstart, by simp [hc, hvalue]⟩
    obtain ⟨found, hfind⟩ := Option.isSome_iff_exists.1 hthere
    have hrun : found ≤ c.toNat ∧ c.toNat < found + 10 := by simpa using List.find?_some hfind
    have heq : found = start := by
      by_contra hne
      have := digitZeros_apart (List.mem_of_find?_eq_some hfind) hstart hne
      omega
    rw [digitValue?, hfind, Option.map_some, heq, hc, Nat.add_sub_cancel_left]

end Text

namespace Value

/-! ### Numerals -/

/-- A text is 1 to 17 digits that denote a number. -/
def Natural (cs : List Char) (n : Nat) : Prop :=
  (1 ≤ cs.length ∧ cs.length ≤ 17) ∧
    ∃ values, List.Forall₂ Text.IsDigit cs values ∧ n = Nat.ofDigits 10 values.reverse

/-- A text is an optional sign and 1 to 17 digits that denote an integer. -/
inductive Numeral : List Char → Int → Prop where
  | unsigned {cs : List Char} {n : Nat} (h : Natural cs n) : Numeral cs n
  | plus {cs : List Char} {n : Nat} (h : Natural cs n) : Numeral ('+' :: cs) n
  | minus {cs : List Char} {n : Nat} (h : Natural cs n) : Numeral ('-' :: cs) (-n)

theorem ofDigits_eq (values : List Nat) : ofDigits values = Nat.ofDigits 10 values.reverse := by
  rw [Nat.ofDigits_eq_foldr, List.foldr_reverse, ofDigits]
  congr 1
  funext n value
  simp [Nat.add_comm]

/-- Characters have values one by one. -/
theorem mapM_digitValue?_eq_some_iff {cs : List Char} {values : List Nat} :
    cs.mapM Text.digitValue? = some values ↔ List.Forall₂ Text.IsDigit cs values := by
  induction cs generalizing values with
  | nil => simp [eq_comm]
  | cons c cs ih =>
    rw [List.mapM_cons, List.forall₂_cons_left_iff]
    simp only [Option.bind_eq_bind, Option.bind_eq_some_iff, Option.pure_def, Option.some.injEq, ih,
      Text.digitValue?_eq_some_iff]
    exact ⟨fun ⟨value, hc, rest, hrest, heq⟩ ↦ ⟨value, rest, hc, hrest, heq.symm⟩,
      fun ⟨value, rest, hc, hrest, heq⟩ ↦ ⟨value, hc, rest, hrest, heq.symm⟩⟩

/-- Digits are read just where a natural number of bounded length is written. -/
theorem readDigits_eq_some_iff {cs : List Char} {n : Nat} :
    readDigits cs = some n ↔ Natural cs n := by
  rw [readDigits, Natural]
  split
  · next h =>
    refine iff_of_false nofun ?_
    rintro ⟨⟨hpos, hlength⟩, -⟩
    rcases h with rfl | h
    · cases hpos
    · exact absurd hlength (not_le.2 h)
  · next h =>
    rw [not_or, not_lt] at h
    have hpos : 1 ≤ cs.length := List.length_pos_iff.2 h.1
    rw [and_iff_right (show 1 ≤ cs.length ∧ cs.length ≤ 17 from ⟨hpos, h.2⟩),
      Option.map_eq_some_iff]
    refine exists_congr fun values ↦ ?_
    rw [mapM_digitValue?_eq_some_iff, ofDigits_eq, eq_comm (a := n)]

/-- A sign is no digit. -/
theorem not_isDigit_sign {c : Char} (h : c = '+' ∨ c = '-') (value : Nat) :
    ¬Text.IsDigit c value := by
  rw [← Text.digitValue?_eq_some_iff]
  rcases h with rfl | rfl
  · rw [show Text.digitValue? '+' = none by decide]
    nofun
  · rw [show Text.digitValue? '-' = none by decide]
    nofun

/-- Digits do not begin with a sign. -/
theorem not_natural_sign {c : Char} (h : c = '+' ∨ c = '-') {cs : List Char} {n : Nat} :
    ¬Natural (c :: cs) n := by
  rintro ⟨-, values, hvalues, -⟩
  obtain ⟨value, -, hvalue, -⟩ := List.forall₂_cons_left_iff.1 hvalues
  exact not_isDigit_sign h value hvalue

/-- **Reading integers**: the scanner reads the numerals and nothing else. -/
theorem readInteger_eq_some_iff {cs : List Char} {n : Int} :
    readInteger cs = some n ↔ Numeral cs n := by
  unfold readInteger
  -- A sign is no digit, so a numeral that begins with one is no other.
  split
  · next cs =>
    rw [Option.map_eq_some_iff]
    constructor
    · rintro ⟨m, hm, rfl⟩
      exact .plus (readDigits_eq_some_iff.1 hm)
    · intro h
      cases h with
      | unsigned h => exact absurd h (not_natural_sign (.inl rfl))
      | plus h => exact ⟨_, readDigits_eq_some_iff.2 h, rfl⟩
  · next cs =>
    rw [Option.map_eq_some_iff]
    constructor
    · rintro ⟨m, hm, rfl⟩
      exact .minus (readDigits_eq_some_iff.1 hm)
    · intro h
      cases h with
      | unsigned h => exact absurd h (not_natural_sign (.inr rfl))
      | minus h => exact ⟨_, readDigits_eq_some_iff.2 h, rfl⟩
  · next hplus hminus =>
    rw [Option.map_eq_some_iff]
    constructor
    · rintro ⟨m, hm, rfl⟩
      exact .unsigned (readDigits_eq_some_iff.1 hm)
    · intro h
      cases h with
      | unsigned h => exact ⟨_, readDigits_eq_some_iff.2 h, rfl⟩
      | plus h => exact absurd rfl (hplus _)
      | minus h => exact absurd rfl (hminus _)

/-! ### The size of integers -/

/-- A number of bounded length is bounded. -/
theorem Natural.lt {cs : List Char} {n : Nat} (h : Natural cs n) : n < 10 ^ 17 := by
  obtain ⟨⟨-, hlength⟩, values, hvalues, rfl⟩ := h
  have hdigits : ∀ value ∈ values.reverse, value < 10 := by
    intro value hvalue
    obtain ⟨c, -, hc⟩ := hvalues.flip.exists_of_mem (List.mem_reverse.1 hvalue)
    exact hc.1
  have hsize := Nat.ofDigits_lt_base_pow_length (by decide) hdigits
  rw [List.length_reverse, ← hvalues.length_eq] at hsize
  exact hsize.trans_le (Nat.pow_le_pow_right (by decide) hlength)

/-- Integers in cells are smaller than the power of ten with 17 zeros. -/
theorem Numeral.lt {cs : List Char} {n : Int} (h : Numeral cs n) : -10 ^ 17 < n ∧ n < 10 ^ 17 := by
  cases h with
  | unsigned h => have := h.lt; omega
  | plus h => have := h.lt; omega
  | minus h => have := h.lt; omega

/-! ### Decimal texts -/

theorem isDigit_digitChar {value : Nat} (h : value < 10) : Text.IsDigit value.digitChar value := by
  refine ⟨h, 0x30, List.mem_cons_self, ?_⟩
  interval_cases value <;> rfl

/-- The digits of a number denote it. -/
theorem exists_values_toDigits (n : Nat) :
    ∃ values, List.Forall₂ Text.IsDigit (Nat.toDigits 10 n) values ∧
      n = Nat.ofDigits 10 values.reverse := by
  induction n using Nat.strong_induction_on with
  | _ n ih =>
    by_cases hn : n < 10
    · rw [Nat.toDigits_of_lt_base hn]
      exact ⟨[n], .cons (isDigit_digitChar hn) .nil, by simp⟩
    · obtain ⟨values, hvalues, hvalue⟩ := ih (n / 10) (by omega)
      rw [Nat.toDigits_of_base_le (by decide) (by omega)]
      have hlast : Text.IsDigit (n % 10).digitChar (n % 10) :=
        isDigit_digitChar (Nat.mod_lt n (by decide))
      refine ⟨values ++ [n % 10], List.rel_append hvalues (.cons hlast .nil), ?_⟩
      rw [List.reverse_append, List.reverse_singleton, List.singleton_append, Nat.ofDigits_cons,
        ← hvalue]
      exact (Nat.mod_add_div n 10).symm

/-- A number below the bound is written by its decimal digits. -/
theorem natural_toDigits {n : Nat} (h : n < 10 ^ 17) : Natural (Nat.toDigits 10 n) n :=
  ⟨⟨Nat.length_toDigits_pos, (Nat.length_toDigits_le_iff (by decide) (by decide)).2 h⟩,
    exists_values_toDigits n⟩

/-- **Decimal texts**: the decimal text of a number that is small enough is a numeral for it. -/
theorem numeral_toString {n : Int} (h : -10 ^ 17 < n ∧ n < 10 ^ 17) :
    Numeral (toString n).toList n := by
  rw [Int.toString_eq_repr]
  cases n with
  | ofNat m =>
    rw [Int.repr, Nat.repr_eq_ofList_toDigits, String.toList_ofList]
    exact .unsigned (natural_toDigits (by have := h.2; simp at this; omega))
  | negSucc m =>
    have htext : (Int.repr (.negSucc m)).toList = '-' :: Nat.toDigits 10 m.succ := by
      simp [Int.repr, Nat.repr_eq_ofList_toDigits]
    rw [htext]
    exact .minus (natural_toDigits (by omega))

/-! ### White space -/

/-- Digits of all scripts are apart from white space. -/
theorem digitZeros_apart_blankRanges : ∀ start ∈ Text.digitZeros, ∀ range ∈ Text.blankRanges,
    start + 10 ≤ range.1 ∨ range.2 < start := by
  decide +kernel

theorem isBlankChar_eq_false_of_isDigit {c : Char} {value : Nat} (h : Text.IsDigit c value) :
    Text.isBlankChar c = false := by
  obtain ⟨hvalue, start, hstart, hc⟩ := h
  rw [Text.isBlankChar, ← Bool.not_eq_true, Text.CodeRanges.contains_iff]
  rintro ⟨range, hrange, hin⟩
  have hapart := digitZeros_apart_blankRanges start hstart range hrange
  omega

/-- No digit of a number is white space. -/
theorem Natural.visible {cs : List Char} {n : Nat} (h : Natural cs n) :
    ∀ c ∈ cs, Text.isBlankChar c = false := by
  obtain ⟨-, values, hvalues, -⟩ := h
  intro c hc
  obtain ⟨value, -, hvalue⟩ := hvalues.exists_of_mem hc
  exact isBlankChar_eq_false_of_isDigit hvalue

/-- A numeral has no white space in it. -/
theorem Numeral.visible {cs : List Char} {n : Int} (h : Numeral cs n) :
    ∀ c ∈ cs, Text.isBlankChar c = false := by
  cases h with
  | unsigned h => exact h.visible
  | plus h => exact List.forall_mem_cons.2 ⟨by decide, h.visible⟩
  | minus h => exact List.forall_mem_cons.2 ⟨by decide, h.visible⟩

/-! ### Integer columns -/

section Columns

variable {column row : Option Int} {delimiter : String}

/-- A numeral is converted, white space around it aside. -/
theorem ofCellAt_int_of_numeral (cell : Option String) {n : Int}
    (h : Numeral (Text.trim (cell.getD "")).toList n) :
    ofCellAt column row delimiter (.scalar .int) (.ofCell cell) = .ok (.int n) := by
  refine ofCellAt_of_ok ?_
  have hread := readInteger_eq_some_iff.2 h
  rw [Text.trim, String.toList_ofList] at hread
  cases cell with
  | none => cases hread
  | some s =>
    rw [Option.getD_some] at hread
    rw [Datum.ofCell_some, ofCell, ofScalar, hread]

/-- A text that is no numeral has a fault in its place. -/
theorem ofCellAt_int_of_not_numeral (cell : Option String)
    (h : ∀ n, ¬Numeral (Text.trim (cell.getD "")).toList n) :
    ofCellAt column row delimiter (.scalar .int) (.ofCell cell) =
      .error (.fault { fault := .notInteger cell, column, row }) := by
  refine ofCellAt_of_fault ?_
  cases cell with
  | none => rfl
  | some s =>
    have hread : readInteger (Text.trimChars s.toList) = none := by
      rw [Option.eq_none_iff_forall_ne_some]
      intro n hn
      refine h n ?_
      rw [Text.trim, String.toList_ofList]
      exact readInteger_eq_some_iff.1 hn
    rw [Datum.ofCell_some, ofCell, ofScalar, hread]

/-- An integer column takes the cells that hold a numeral, as its value. -/
theorem ofCellAt_int_eq_ok_iff {cell : Option String} {d : Datum} :
    ofCellAt column row delimiter (.scalar .int) (.ofCell cell) = .ok d ↔
      ∃ n, Numeral (Text.trim (cell.getD "")).toList n ∧ d = .int n := by
  constructor
  · intro h
    by_cases hnumeral : ∃ n, Numeral (Text.trim (cell.getD "")).toList n
    · obtain ⟨n, hn⟩ := hnumeral
      rw [ofCellAt_int_of_numeral cell hn] at h
      exact ⟨n, hn, (Except.ok.inj h).symm⟩
    · rw [ofCellAt_int_of_not_numeral cell (not_exists.1 hnumeral)] at h
      cases h
  · rintro ⟨n, hn, rfl⟩
    exact ofCellAt_int_of_numeral cell hn

/-- White space around a numeral does not matter. -/
theorem ofCellAt_int_of_padded {cs : List Char} {n : Int} {s : String} (h : Numeral cs n)
    (hpadded : Text.Padded cs s.toList) :
    ofCellAt column row delimiter (.scalar .int) (.text s) = .ok (.int n) := by
  refine ofCellAt_int_of_numeral (some s) ?_
  rw [Option.getD_some, Text.trim, String.toList_ofList,
    (Text.trimChars_eq_iff (Text.trimChars_eq_self h.visible)).2 hpadded]
  exact h

/-- An array is converted element by element, as the cells of a column of the element type are. -/
theorem ofCellAt_array {t : ScalarType} {cell : Datum} {parts : List String}
    (h : elements delimiter cell = .ok parts) :
    ofCellAt column row delimiter (.array t) cell =
      (parts.mapM fun part ↦ ofCellAt column row delimiter (.scalar t) (.text part)).map .list := by
  have hsteps :=
    Except.mapError_mapM (·.placed column row) (fun part ↦ ofScalar t (.text part)) parts
  have hcell : ofCell delimiter (.array t) cell =
      (parts.mapM fun part ↦ ofScalar t (.text part)).map .list := by
    rw [ofCell, h]
    rfl
  rw [ofCellAt, hcell]
  change _ = (parts.mapM fun part ↦ (ofScalar t (.text part)).mapError _).map _
  rw [← hsteps]
  cases parts.mapM fun part ↦ ofScalar t (.text part) <;> rfl

variable {parts : List String}

/-- An array of integers is converted element by element. -/
theorem map_list_mapM_int_eq_ok_iff {d : Datum} :
    (parts.mapM fun part ↦ ofCellAt column row delimiter (.scalar .int) (.text part)).map .list =
        .ok d ↔
      ∃ numbers : List Int, d = .list (numbers.map .int) ∧ List.Forall₂ (fun part n ↦
        ofCellAt column row delimiter (.scalar .int) (.text part) = .ok (.int n)) parts numbers := by
  rw [Except.map_eq_ok_iff]
  constructor
  · rintro ⟨values, hvalues, rfl⟩
    have hints : values ∈ Set.range (List.map Datum.int) := by
      rw [Set.range_list_map]
      intro value hvalue
      obtain ⟨part, -, hpart⟩ := (Except.mapM_eq_ok_iff.1 hvalues).flip.exists_of_mem hvalue
      obtain ⟨n, -, rfl⟩ := ofCellAt_int_eq_ok_iff.1 (Datum.ofCell_some part ▸ hpart)
      exact ⟨n, rfl⟩
    obtain ⟨numbers, rfl⟩ := hints
    rw [Except.mapM_eq_ok_iff, List.forall₂_map_right_iff] at hvalues
    exact ⟨numbers, rfl, hvalues⟩
  · rintro ⟨numbers, rfl, hnumbers⟩
    refine ⟨numbers.map .int, ?_, rfl⟩
    rwa [Except.mapM_eq_ok_iff, List.forall₂_map_right_iff]

/-- An array fails for its first element that is no numeral. -/
theorem mapM_int_eq_error_iff {failure : Failure PlacedFault} :
    (parts.mapM fun part ↦ ofCellAt column row delimiter (.scalar .int) (.text part)) =
        .error failure ↔
      ∃ before part after, parts = before ++ part :: after ∧
        (∀ earlier ∈ before, ∃ n, Numeral (Text.trim earlier).toList n) ∧
        (∀ n, ¬Numeral (Text.trim part).toList n) ∧
        failure = .fault { fault := .notInteger (some part), column, row } := by
  have hok (part : String) :
      (∃ d, ofCellAt column row delimiter (.scalar .int) (.text part) = .ok d) ↔
        ∃ n, Numeral (Text.trim part).toList n := by
    simp only [← Datum.ofCell_some, ofCellAt_int_eq_ok_iff, Option.getD_some]
    exact ⟨fun ⟨_, n, hn, _⟩ ↦ ⟨n, hn⟩, fun ⟨n, hn⟩ ↦ ⟨_, n, hn, rfl⟩⟩
  have herror (part : String) :
      ofCellAt column row delimiter (.scalar .int) (.text part) = .error failure ↔
        (∀ n, ¬Numeral (Text.trim part).toList n) ∧
          failure = .fault { fault := .notInteger (some part), column, row } := by
    by_cases hnumeral : ∃ n, Numeral (Text.trim part).toList n
    · obtain ⟨n, hn⟩ := hnumeral
      rw [← Datum.ofCell_some, ofCellAt_int_of_numeral (some part) hn]
      exact iff_of_false nofun fun h ↦ h.1 n hn
    · rw [← Datum.ofCell_some,
        ofCellAt_int_of_not_numeral (some part) (not_exists.1 hnumeral),
        Except.error.injEq, eq_comm]
      exact (and_iff_right (not_exists.1 hnumeral)).symm
  rw [Except.mapM_eq_error_iff]
  simp only [hok, herror]

end Columns

/-- **Integer columns**: at every place,
* a cell is converted exactly if its trimmed text is an optional sign and 1 to 17 digits of any
  scripts, and then to the number that they denote; any other cell fails with its place;
* these numbers are below ten to the power of 17, so they fit into 64 bits;
* every number below that is what its own decimal text is converted to, whatever white space stands
  around it;
* an array cell is converted exactly if all of its elements are, to a number for each in their
  order, and fails with its place as the first of them that does. -/
theorem integers_exact (delimiter : Delimiter) (column row : Option Int) :
    (∀ (cell : Option String) (d : Datum),
      ofCellAt column row delimiter.text (.scalar .int) (.ofCell cell) = .ok d ↔
        ∃ n, Numeral (Text.trim (cell.getD "")).toList n ∧ d = .int n) ∧
    (∀ cell : Option String, (∀ n, ¬Numeral (Text.trim (cell.getD "")).toList n) →
      ofCellAt column row delimiter.text (.scalar .int) (.ofCell cell) =
        .error (.fault { fault := .notInteger cell, column, row })) ∧
    (∀ cs n, Numeral cs n → (-10 ^ 17 < n ∧ n < 10 ^ 17) ∧ -2 ^ 63 ≤ n ∧ n < 2 ^ 63) ∧
    (∀ (n : Int) (s : String), -10 ^ 17 < n ∧ n < 10 ^ 17 →
      Text.Padded (toString n).toList s.toList →
      ofCellAt column row delimiter.text (.scalar .int) (.text s) = .ok (.int n)) ∧
    ∀ cell : Option String, ∃ parts, elements delimiter.text (.ofCell cell) = .ok parts ∧
      (∀ d, ofCellAt column row delimiter.text (.array .int) (.ofCell cell) = .ok d ↔
        ∃ numbers : List Int, d = .list (numbers.map .int) ∧ List.Forall₂ (fun part n ↦
          ofCellAt column row delimiter.text (.scalar .int) (.text part) = .ok (.int n))
          parts numbers) ∧
      ∀ failure, ofCellAt column row delimiter.text (.array .int) (.ofCell cell) = .error failure ↔
        ∃ before part after, parts = before ++ part :: after ∧
          (∀ earlier ∈ before, ∃ n, Numeral (Text.trim earlier).toList n) ∧
          (∀ n, ¬Numeral (Text.trim part).toList n) ∧
          failure = .fault { fault := .notInteger (some part), column, row } := by
  refine ⟨fun cell d ↦ ofCellAt_int_eq_ok_iff, ofCellAt_int_of_not_numeral,
    fun cs n h ↦ ⟨h.lt, ?_⟩, fun n s hn ↦ ofCellAt_int_of_padded (numeral_toString hn),
    fun cell ↦ ⟨_, elements_ofCell delimiter cell, fun d ↦ ?_, fun failure ↦ ?_⟩⟩
  · have hsize := h.lt
    omega
  · rw [ofCellAt_array (elements_ofCell delimiter cell), map_list_mapM_int_eq_ok_iff]
  · rw [ofCellAt_array (elements_ofCell delimiter cell), Except.map_eq_error_iff,
      mapM_int_eq_error_iff]

/-- Digits may come from several scripts. -/
example : ofCellAt none none "," (.scalar .int) (.text " -1٢3 ") = .ok (.int (-123)) := by
  rfl

end Value

end ConfigTables
