import ConfigTables.Column.Name
import ConfigTables.Column.ScopeFlags
import ConfigTables.Column.TypeExpression
import ConfigTables.Proofs.Datum.Texts
import ConfigTables.Proofs.Programs
import ConfigTables.Proofs.Text.Trimming
import Mathlib.Data.List.TakeDrop
import Mathlib.Tactic.SplitIfs
import Mathlib.Tactic.Tauto

/-!
# The grammars of header cells

Names, scopes and types each have a grammar that is said here without the function that reads it:
`Name.Form`, `Scope.Letters` and `ColumnType.Spelling`. For each of them the reader accepts exactly
the grammar, and where there is something to read, it reads what the grammar says the text denotes.

* A scope denotes the audiences whose letters it has, so its two spellings denote the same.
* A type is denoted by a word, or by two words with a colon between them. The reader splits at the
  first colon of the text; since neither a word nor white space has a colon, that is the one of the
  grammar (`span_colon_of_notMem`).
-/

namespace ConfigTables

/-! ### Names -/

namespace Name

/-- A letter of the Latin alphabet without marks, an underscore or a dollar sign. -/
def FormStart (c : Char) : Prop :=
  ('a' ≤ c ∧ c ≤ 'z') ∨ ('A' ≤ c ∧ c ≤ 'Z') ∨ c = '_' ∨ c = '$'

/-- The texts that are names. -/
def Form (cs : List Char) : Prop :=
  ∃ c rest, cs = c :: rest ∧ FormStart c ∧
    (∀ d ∈ rest, FormStart d ∨ ('0' ≤ d ∧ d ≤ '9')) ∧ rest.length ≤ 200

/-- The first character of a name is as the form of names says. -/
theorem isStart_iff (c : Char) : isStart c = true ↔ FormStart c := by
  have hupper : c.isUpper = true ↔ 'A' ≤ c ∧ c ≤ 'Z' := decide_eq_true_iff
  have hlower : c.isLower = true ↔ 'a' ≤ c ∧ c ≤ 'z' := by
    show (decide ('a' ≤ c) && decide (c ≤ 'z')) = true ↔ _
    rw [Bool.and_eq_true, decide_eq_true_iff, decide_eq_true_iff]
  show (c.isUpper || c.isLower || decide (c = '_') || decide (c = '$')) = true ↔ _
  rw [Bool.or_eq_true, Bool.or_eq_true, Bool.or_eq_true, hupper, hlower, decide_eq_true_iff,
    decide_eq_true_iff, FormStart]
  tauto

/-- So are the others. -/
theorem isRest_iff (c : Char) : isRest c = true ↔ FormStart c ∨ ('0' ≤ c ∧ c ≤ '9') := by
  rw [isRest, Bool.or_eq_true, isStart_iff]
  simp [Char.isDigit, Char.le_def]

/-- The check of names accepts exactly the names. -/
theorem isValid_iff {name : String} : isValid name = true ↔ Form name.toList := by
  rw [isValid, Form]
  cases name.toList with
  | nil => simp
  | cons c rest =>
    rw [Bool.and_eq_true, Bool.and_eq_true, List.all_eq_true, decide_eq_true_iff, and_assoc]
    simp only [isStart_iff, isRest_iff, maxRest, List.cons.injEq]
    exact ⟨fun h ↦ ⟨c, rest, ⟨rfl, rfl⟩, h⟩, by rintro ⟨d, others, ⟨rfl, rfl⟩, h⟩; exact h⟩

theorem Form.ne_empty {name : String} (h : Form name.toList) : name ≠ "" := by
  rintro rfl
  obtain ⟨c, rest, hnil, -⟩ := h
  simp at hnil

end Name

/-! ### Scopes -/

namespace Scope

/-- The words of one or two different letters, each of which stands for an audience. -/
def Letters (cs : List Char) : Prop :=
  cs ≠ [] ∧ cs.length ≤ 2 ∧ cs.Nodup ∧ ∀ c ∈ cs, c = 's' ∨ c = 'c'

theorem isSome_ofFlag?_iff (c : Char) : (Audience.ofFlag? c).isSome ↔ c = 's' ∨ c = 'c' := by
  constructor
  · intro h
    obtain ⟨a, ha⟩ := Option.isSome_iff_exists.1 h
    rw [← Audience.flag_of_ofFlag? ha]
    cases a <;> simp [Audience.flag]
  · rintro (rfl | rfl) <;> decide

/-- The audiences of some letters are those whose flags are among them. -/
theorem mem_filterMap_ofFlag? {cs : List Char} {a : Audience} :
    a ∈ cs.filterMap Audience.ofFlag? ↔ a.flag ∈ cs := by
  rw [List.mem_filterMap]
  constructor
  · rintro ⟨c, hc, ha⟩
    rwa [Audience.flag_of_ofFlag? ha]
  · exact fun h ↦ ⟨a.flag, h, Audience.ofFlag?_flag a⟩

theorem includes_ofList_iff {audiences : List Audience} {a : Audience} :
    (ofList audiences).includes a = true ↔ a ∈ audiences := by
  rw [includes_ofList, List.contains_iff_mem]

/-- A scope is given by the audiences that it includes. -/
theorem ext_includes {x y : Scope} (h : ∀ a, x.includes a = y.includes a) : x = y := by
  have hserver := h .server
  have hclient := h .client
  cases x
  cases y
  simp_all [includes]

/-- A scope is not empty just if somebody is in it. -/
theorem isEmpty_eq_false_iff {scope : Scope} :
    scope.isEmpty = false ↔ ∃ a, scope.includes a = true := by
  constructor
  · intro h
    by_contra hnone
    have hserver : ¬scope.server := fun hs ↦ hnone ⟨.server, hs⟩
    have hclient : ¬scope.client := fun hc ↦ hnone ⟨.client, hc⟩
    simp [isEmpty, hserver, hclient] at h
  · rintro ⟨a, ha⟩
    cases a <;> simp_all [isEmpty, includes]

/-- The scope that has the audiences of the given letters. -/
theorem exists_includes_iff (letters : List Char) :
    ∃ scope : Scope, ∀ a, scope.includes a = true ↔ a.flag ∈ letters :=
  ⟨ofList (letters.filterMap Audience.ofFlag?), fun _ ↦ by
    rw [includes_ofList_iff, mem_filterMap_ofFlag?]⟩

/-- The reader of letters accepts exactly the words of letters, apart from the empty one, and the
scope that it returns includes the audiences whose letters are there. -/
theorem parseFlags_eq_ok_iff {cell : String} {letters : List Char} {scope : Scope}
    (hne : letters ≠ []) :
    parseFlags cell letters = .ok scope ↔
      Letters letters ∧ ∀ a, scope.includes a = true ↔ a.flag ∈ letters := by
  -- The third check passes just if every letter stands for somebody.
  have hknown : letters.find? (fun c ↦ (Audience.ofFlag? c).isNone) = none ↔
      ∀ c ∈ letters, c = 's' ∨ c = 'c' := by
    simp only [List.find?_eq_none, Option.isNone_iff_eq_none, ← ne_eq,
      ← Option.isSome_iff_ne_none, isSome_ofFlag?_iff]
  have hscope : (∀ a, scope.includes a = true ↔ a.flag ∈ letters) ↔
      ofList (letters.filterMap Audience.ofFlag?) = scope := by
    constructor
    · intro h
      refine ext_includes fun a ↦ Bool.eq_iff_iff.2 ?_
      rw [includes_ofList_iff, mem_filterMap_ofFlag?, h a]
    · rintro rfl a
      rw [includes_ofList_iff, mem_filterMap_ofFlag?]
  have hlength : Audience.all.length = 2 := rfl
  rw [hscope, Letters, parseFlags, hlength]
  split_ifs with hlong hrepeats
  · simp; omega
  · split
    · -- A letter that stands for nobody is found.
      next c hfound =>
      have : ¬∀ c ∈ letters, c = 's' ∨ c = 'c' := by
        rw [← hknown, hfound]
        simp
      simp [this]
    · next hnone =>
      have hshort : letters.length ≤ 2 := by omega
      have hall := hknown.1 hnone
      simp only [Except.ok.injEq, ne_eq, hne, not_false_iff, hshort, hrepeats, true_and]
      exact ⟨fun h ↦ ⟨hall, h⟩, And.right⟩
  · simp [hrepeats]

/-- **Scope cells**: the reader accepts a blank cell, which is the scope of nobody, and a text that
trims to a word of letters, which is the scope of their audiences. -/
theorem parse_eq_ok_iff {cell : Datum} {scope : Scope} :
    parse cell = .ok scope ↔ (cell.isBlank = true ∧ scope = empty) ∨
      (cell.isBlank = false ∧ ∃ s, cell = .text s ∧ Letters (Text.trimChars s.toList) ∧
        ∀ a, scope.includes a = true ↔ a.flag ∈ Text.trimChars s.toList) := by
  cases hblank : cell.isBlank with
  | true =>
    simp [parse_of_isBlank hblank, Eq.comm (a := empty)]
  | false =>
    unfold parse
    rw [if_neg (by simp [hblank])]
    cases cell with
    | text s =>
      have hne : Text.trimChars s.toList ≠ [] := by
        rw [ne_eq, Text.trimChars_eq_nil_iff]
        simpa [Datum.isBlank, Text.isBlank] using hblank
      simp [Except.mapError_eq_ok_iff, parseFlags_eq_ok_iff hne]
    | _ => simp

/-- A cell with letters in it is not blank. -/
theorem isBlank_eq_false_of_letters {s : String} (h : Letters (Text.trimChars s.toList)) :
    (Datum.text s).isBlank = false := by
  rw [Bool.eq_false_iff, ne_eq, Datum.isBlank, Text.isBlank, ← Text.trimChars_eq_nil_iff]
  exact h.1

/-- A cell is read as a scope exactly if it is blank or trims to a word of letters. -/
theorem exists_parse_eq_ok_iff {cell : Datum} :
    (∃ scope, parse cell = .ok scope) ↔
      cell.isBlank = true ∨ ∃ s, cell = .text s ∧ Letters (Text.trimChars s.toList) := by
  simp only [parse_eq_ok_iff]
  constructor
  · rintro ⟨scope, ⟨hblank, -⟩ | ⟨-, s, hs, hletters, -⟩⟩
    · exact Or.inl hblank
    · exact Or.inr ⟨s, hs, hletters⟩
  · rintro (hblank | ⟨s, rfl, hletters⟩)
    · exact ⟨empty, Or.inl ⟨hblank, rfl⟩⟩
    · obtain ⟨scope, hscope⟩ := exists_includes_iff (Text.trimChars s.toList)
      exact ⟨scope, Or.inr ⟨isBlank_eq_false_of_letters hletters, s, rfl, hletters, hscope⟩⟩

/-- Only a cell without a text stops the reader for good: its message cannot show the cell. -/
theorem parse_eq_abort_iff {cell : Datum} {cause : Abort} :
    parse cell = .error (.abort cause) ↔ ¬cell.HasText ∧ cause = .tooManyDigits := by
  cases cell with
  | null => simp [parse, Datum.isBlank, Datum.hasText_null]
  | text s =>
    simp only [Datum.hasText_text, not_true, false_and, iff_false]
    unfold parse
    split_ifs
    · rintro ⟨⟩
    · simp [Except.mapError_eq_error_iff]
  | _ => simp [parse, Datum.isBlank, Failure.quoting_eq_abort_iff]

end Scope

/-! ### Types -/

namespace ColumnType

/-- The texts that denote a column type: the word for a scalar type, or `array`, a colon and the
word for a scalar type, with white space allowed around each word. -/
inductive Spelling : ColumnType → List Char → Prop where
  | scalar {t : ScalarType} {cs : List Char} (word : Text.Padded t.name.toList cs) :
    Spelling (.scalar t) cs
  | array {t : ScalarType} {main element : List Char}
      (mainWord : Text.Padded arrayWord.toList main)
      (elementWord : Text.Padded t.name.toList element) :
    Spelling (.array t) (main ++ ':' :: element)

theorem trimChars_name (t : ScalarType) : Text.trimChars t.name.toList = t.name.toList := by
  cases t <;> decide

theorem trimChars_arrayWord : Text.trimChars arrayWord.toList = arrayWord.toList := by
  decide

theorem name_ne_nil (t : ScalarType) : t.name.toList ≠ [] := by
  cases t <;> decide

/-- A word that is trimmed to the characters of a text is that text padded. -/
theorem ofList_trimChars_eq_iff {cs : List Char} {word : String}
    (hword : Text.trimChars word.toList = word.toList) :
    String.ofList (Text.trimChars cs) = word ↔ Text.Padded word.toList cs := by
  rw [← Text.trimChars_eq_iff hword]
  exact ⟨fun h ↦ by simp [← h], fun h ↦ by simp [h]⟩

/-- A scalar type is read just from its word. -/
theorem parseScalar_eq_ok_iff {expression word : String} {t : ScalarType} :
    parseScalar expression word = .ok t ↔ word = t.name := by
  rw [← ScalarType.ofName?_eq_some_iff, parseScalar]
  cases ScalarType.ofName? word <;> simp

/-- The words of a type expression and the white space around them have no colon. -/
theorem colon_notMem_of_padded {word cs : List Char} (hword : ':' ∉ word)
    (h : Text.Padded word cs) : ':' ∉ cs := by
  obtain ⟨before, after, hbefore, hafter, rfl⟩ := h
  have hcolon : Text.isBlankChar ':' = false := by decide
  have hrun : ∀ {run : List Char}, Text.BlankRun run → ':' ∉ run := fun hblank hmem ↦ by
    simp [hblank _ hmem] at hcolon
  simp [hword, hrun hbefore, hrun hafter]

/-- What stands before the first colon has none itself. -/
theorem span_colon_of_notMem {main rest : List Char} (hmain : ':' ∉ main)
    (hrest : rest = [] ∨ ∃ element, rest = ':' :: element) :
    (main ++ rest).span (· != ':') = (main, rest) := by
  have hall : ∀ c ∈ main, (c != ':') = true := fun c hc ↦ by
    simpa using fun heq : c = ':' ↦ hmain (heq ▸ hc)
  rw [List.span_eq_takeWhile_dropWhile, List.takeWhile_append_of_pos hall,
    List.dropWhile_append_of_pos hall]
  rcases hrest with rfl | ⟨element, rfl⟩ <;> simp

/-- A text without a colon, or what stands before and after its first colon. -/
theorem span_colon_cases (cs : List Char) :
    (cs.span (· != ':') = (cs, []) ∧ ':' ∉ cs) ∨
      ∃ main element, cs = main ++ ':' :: element ∧
        cs.span (· != ':') = (main, ':' :: element) := by
  by_cases hcolon : ':' ∈ cs
  · obtain ⟨main, element, rfl, hmain⟩ := List.eq_append_cons_of_mem hcolon
    exact Or.inr ⟨main, element, rfl, span_colon_of_notMem hmain (Or.inr ⟨element, rfl⟩)⟩
  · refine Or.inl ⟨?_, hcolon⟩
    simpa using span_colon_of_notMem hcolon (Or.inl rfl)

theorem colon_notMem_name (t : ScalarType) : ':' ∉ t.name.toList := by
  cases t <;> decide

/-- Without a colon, the whole text is read as the word for a scalar type. -/
theorem parseExpression_of_notMem {expression : String} (h : ':' ∉ expression.toList) :
    parseExpression expression = (parseScalar expression
      (String.ofList (Text.trimChars expression.toList))).map .scalar := by
  have hspan := span_colon_of_notMem h (Or.inl rfl)
  rw [List.append_nil] at hspan
  rw [parseExpression, hspan]

/-- The word of a scalar type neither is the word for arrays nor begins as an array type, so the
reader does not take an element for a nested array. -/
theorem parseExpression_of_array {expression : String} {main element : List Char}
    (hmain : Text.Padded arrayWord.toList main) (heq : expression.toList = main ++ ':' :: element)
    {t : ScalarType} (helement : Text.Padded t.name.toList element) :
    parseExpression expression = .ok (.array t) := by
  have hcolon := colon_notMem_of_padded (by decide) hmain
  have hword : Text.trimChars element = t.name.toList :=
    Text.trimChars_eq_of_padded (trimChars_name t) helement
  have hnested : (String.ofList t.name.toList = arrayWord ||
      (arrayWord ++ ":").toList.isPrefixOf t.name.toList) = false := by
    cases t <;> decide
  rw [parseExpression, heq, span_colon_of_notMem hcolon (Or.inr ⟨element, rfl⟩)]
  simp only [(ofList_trimChars_eq_iff trimChars_arrayWord).2 hmain, hword, hnested]
  rw [String.ofList_toList, parseScalar_eq_ok_iff.2 rfl]
  rfl

/-- What is read as a type spells it. -/
theorem spelling_of_parseExpression {expression : String} {type : ColumnType}
    (h : parseExpression expression = .ok type) : Spelling type expression.toList := by
  rcases span_colon_cases expression.toList with ⟨-, hcolon⟩ | ⟨main, element, heq, hspan⟩
  · rw [parseExpression_of_notMem hcolon] at h
    obtain ⟨t, ht, rfl⟩ := Except.map_eq_ok_iff.1 h
    exact .scalar ((ofList_trimChars_eq_iff (trimChars_name t)).1 (parseScalar_eq_ok_iff.1 ht))
  · rw [parseExpression, hspan] at h
    simp only at h
    split_ifs at h with hmain hnested
    obtain ⟨t, ht, rfl⟩ := Except.map_eq_ok_iff.1 h
    rw [heq]
    exact .array ((ofList_trimChars_eq_iff trimChars_arrayWord).1 (not_not.1 hmain))
      ((ofList_trimChars_eq_iff (trimChars_name t)).1 (parseScalar_eq_ok_iff.1 ht))

/-- **Type expressions**: the reader accepts exactly the texts that denote a type, and returns the
type that they denote. -/
theorem parseExpression_eq_ok_iff {expression : String} {type : ColumnType} :
    parseExpression expression = .ok type ↔ Spelling type expression.toList := by
  refine ⟨spelling_of_parseExpression, fun h ↦ ?_⟩
  generalize hcs : expression.toList = cs at h
  cases h with
  | @scalar t cs word =>
    have hcolon := colon_notMem_of_padded (colon_notMem_name t) word
    rw [parseExpression_of_notMem (hcs ▸ hcolon), hcs,
      (ofList_trimChars_eq_iff (trimChars_name t)).2 word, parseScalar_eq_ok_iff.2 rfl]
    rfl
  | array mainWord elementWord => exact parseExpression_of_array mainWord hcs elementWord

/-- A text that spells a type is not blank. -/
theorem isBlank_eq_false_of_spelling {type : ColumnType} {s : String}
    (h : Spelling type s.toList) : Text.isBlank s = false := by
  rw [Bool.eq_false_iff, ne_eq, Text.isBlank_iff_blankRun]
  intro hrun
  have htrim : Text.trimChars s.toList = [] :=
    Text.trimChars_eq_of_padded rfl ⟨s.toList, [], hrun, .nil, by simp⟩
  generalize hcs : s.toList = cs at h
  cases h with
  | @scalar t cs word =>
    rw [hcs, Text.trimChars_eq_of_padded (trimChars_name t) word] at htrim
    exact name_ne_nil t htrim
  | array mainWord elementWord =>
    have hcolon : Text.isBlankChar ':' = true := hrun ':' (by simp [hcs])
    exact absurd hcolon (by decide)

/-- **Type cells**: the reader accepts exactly the texts that denote a type. -/
theorem parse_eq_ok_iff {cell : Datum} {type : ColumnType} :
    parse cell = .ok type ↔ ∃ s, cell = .text s ∧ Spelling type s.toList := by
  cases hblank : cell.isBlank with
  | true =>
    rw [parse_of_isBlank hblank]
    simp only [reduceCtorEq, false_iff, not_exists, not_and]
    rintro s rfl hspelling
    rw [Datum.isBlank, isBlank_eq_false_of_spelling hspelling] at hblank
    simp at hblank
  | false =>
    unfold parse
    rw [if_neg (by simp [hblank])]
    cases cell <;> simp [Except.mapError_eq_ok_iff, parseExpression_eq_ok_iff]

/-- Only a cell without a text stops the reader for good: its message cannot show the cell. -/
theorem parse_eq_abort_iff {cell : Datum} {cause : Abort} :
    parse cell = .error (.abort cause) ↔ ¬cell.HasText ∧ cause = .tooManyDigits := by
  cases cell with
  | null => simp [parse, Datum.isBlank, Datum.hasText_null]
  | text s =>
    simp only [Datum.hasText_text, not_true, false_and, iff_false]
    unfold parse
    split_ifs
    · rintro ⟨⟩
    · simp [Except.mapError_eq_error_iff]
  | _ => simp [parse, Datum.isBlank, Failure.quoting_eq_abort_iff]

end ColumnType

end ConfigTables
