import ConfigTables.Text.Blank
import Mathlib.Data.List.DropRight
import Mathlib.Data.List.TakeWhile

/-!
# What trimming leaves

`trimChars` drops white space from both ends. Read the other way round, a text whose trimmed form is
`word` is `word` with a run of white space before it and one after it (`Padded`), and the two
readings agree for every `word` that has nothing to trim (`trimChars_eq_iff`). The grammars of cells
are stated with `Padded`, so that none of them mentions the two passes of `trimChars`.
-/

namespace ConfigTables.Text

/-- A possibly empty run of white space. -/
def BlankRun (cs : List Char) : Prop :=
  ∀ c ∈ cs, isBlankChar c = true

/-- A word with white space around it. -/
def Padded (word cs : List Char) : Prop :=
  ∃ before after, BlankRun before ∧ BlankRun after ∧ cs = before ++ word ++ after

theorem BlankRun.nil : BlankRun [] := by
  simp [BlankRun]

theorem BlankRun.reverse {cs : List Char} (h : BlankRun cs) : BlankRun cs.reverse :=
  fun c hc ↦ h c (List.mem_reverse.1 hc)

theorem isBlank_iff_blankRun {s : String} : isBlank s = true ↔ BlankRun s.toList := by
  simp [isBlank, BlankRun]

/-! ### Dropping from the ends -/

/-- A list is its longest blank beginning and what is left of it. -/
theorem exists_blankRun_append_dropWhile (cs : List Char) :
    ∃ run, BlankRun run ∧ cs = run ++ cs.dropWhile isBlankChar :=
  ⟨cs.takeWhile isBlankChar, fun _ hc ↦ List.mem_takeWhile_imp hc,
    List.takeWhile_append_dropWhile.symm⟩

/-- The first pass does nothing exactly if the second one is the whole work. -/
theorem dropWhile_eq_self_of_trimChars {word : List Char} (h : trimChars word = word) :
    word.dropWhile isBlankChar = word := by
  have shorter : (trimChars word).length ≤ (word.dropWhile isBlankChar).length := by
    rw [trimChars, List.length_reverse]
    calc ((word.dropWhile isBlankChar).reverse.dropWhile isBlankChar).length
        ≤ (word.dropWhile isBlankChar).reverse.length :=
          (List.dropWhile_suffix isBlankChar).length_le
      _ = (word.dropWhile isBlankChar).length := List.length_reverse
  rw [h] at shorter
  exact (List.dropWhile_suffix isBlankChar).eq_of_length
    (le_antisymm (List.dropWhile_suffix isBlankChar).length_le shorter)

theorem reverse_dropWhile_eq_self_of_trimChars {word : List Char} (h : trimChars word = word) :
    word.reverse.dropWhile isBlankChar = word.reverse := by
  rw [trimChars, dropWhile_eq_self_of_trimChars h] at h
  exact (List.reverse_eq_iff).1 h

/-- What trimming leaves stands in the text between two runs of white space. -/
theorem padded_trimChars (cs : List Char) : Padded (trimChars cs) cs := by
  obtain ⟨before, hbefore, heq⟩ := exists_blankRun_append_dropWhile cs
  obtain ⟨after, hafter, hrest⟩ :=
    exists_blankRun_append_dropWhile (cs.dropWhile isBlankChar).reverse
  refine ⟨before, after.reverse, hbefore, hafter.reverse, ?_⟩
  have hmid : cs.dropWhile isBlankChar = trimChars cs ++ after.reverse := by
    rw [trimChars, ← List.reverse_append, ← hrest, List.reverse_reverse]
  rw [List.append_assoc, ← hmid]
  exact heq

/-- A run of white space in front of a word that does not begin with any is all that the first pass
drops, whatever stands behind the word. -/
theorem dropWhile_append_word {before word after : List Char} (hbefore : BlankRun before)
    (hafter : BlankRun after) (hword : word.dropWhile isBlankChar = word) :
    ((before ++ word ++ after).dropWhile isBlankChar) =
      if word = [] then [] else word ++ after := by
  rw [List.append_assoc, List.dropWhile_append_of_pos hbefore]
  cases word with
  | nil => simpa using dropWhile_eq_nil_iff_all.2 (List.all_eq_true.2 hafter)
  | cons c cs =>
    have hc : isBlankChar c = false := by
      by_contra hblank
      have hlen := (List.dropWhile_suffix (l := cs) isBlankChar).length_le
      rw [List.dropWhile_cons_of_pos (by simpa using hblank)] at hword
      have := congrArg List.length hword
      simp only [List.length_cons] at this
      omega
    simp [hc]

/-- Only white space is dropped. -/
theorem all_isBlankChar_trimChars (cs : List Char) :
    (trimChars cs).all isBlankChar = cs.all isBlankChar := by
  obtain ⟨before, after, hbefore, hafter, heq⟩ := padded_trimChars cs
  have hall : cs.all isBlankChar = (before ++ trimChars cs ++ after).all isBlankChar :=
    congrArg (List.all · isBlankChar) heq
  rw [hall, List.all_append, List.all_append, List.all_eq_true.2 hbefore, List.all_eq_true.2 hafter,
    Bool.true_and, Bool.and_true]

/-- What trimming leaves has nothing to trim. -/
@[simp]
theorem trimChars_trimChars (cs : List Char) : trimChars (trimChars cs) = trimChars cs := by
  have hstarts : trimChars cs <+: cs.dropWhile isBlankChar := by
    rw [trimChars, ← List.reverse_suffix, List.reverse_reverse]
    exact List.dropWhile_suffix isBlankChar
  have hfront : (trimChars cs).dropWhile isBlankChar = trimChars cs := by
    rcases hword : trimChars cs with _ | ⟨c, word⟩
    · rfl
    · obtain ⟨rest, hrest⟩ := hstarts
      have hhead := List.head?_dropWhile_not isBlankChar cs
      rw [← hrest, hword] at hhead
      exact List.dropWhile_cons_of_neg (by simpa using hhead)
  rw [trimChars, hfront, trimChars, List.reverse_reverse, List.dropWhile_idempotent]

/-- What trimming leaves does not begin with white space. -/
theorem isBlankChar_of_head?_trimChars {cs : List Char} {c : Char}
    (h : (trimChars cs).head? = some c) : isBlankChar c = false := by
  have hhead := List.head?_dropWhile_not isBlankChar (trimChars cs)
  rw [dropWhile_eq_self_of_trimChars (trimChars_trimChars cs), h] at hhead
  simpa using hhead

/-- Nor does it end with white space. -/
theorem isBlankChar_of_getLast?_trimChars {cs : List Char} {c : Char}
    (h : (trimChars cs).getLast? = some c) : isBlankChar c = false := by
  have hhead := List.head?_dropWhile_not isBlankChar (trimChars cs).reverse
  rw [reverse_dropWhile_eq_self_of_trimChars (trimChars_trimChars cs), List.head?_reverse,
    h] at hhead
  simpa using hhead

theorem trimChars_eq_of_padded {word cs : List Char} (hword : trimChars word = word)
    (h : Padded word cs) : trimChars cs = word := by
  obtain ⟨before, after, hbefore, hafter, rfl⟩ := h
  rw [trimChars, dropWhile_append_word hbefore hafter (dropWhile_eq_self_of_trimChars hword)]
  by_cases hnil : word = []
  · simp [hnil]
  · have hback := reverse_dropWhile_eq_self_of_trimChars hword
    have := dropWhile_append_word hafter.reverse BlankRun.nil hback
    rw [if_neg (by simpa using hnil), List.append_nil, List.append_nil] at this
    rw [if_neg hnil, List.reverse_append, this, List.reverse_reverse]

/-- A text without white space has nothing to trim. -/
theorem trimChars_eq_self {cs : List Char} (h : ∀ c ∈ cs, isBlankChar c = false) :
    trimChars cs = cs := by
  have hself {word : List Char} (hword : ∀ c ∈ word, isBlankChar c = false) :
      word.dropWhile isBlankChar = word := by
    rw [List.dropWhile_eq_self_iff]
    exact fun hpos ↦ by simp [hword _ (List.getElem_mem hpos)]
  rw [trimChars, hself h, hself fun c hc ↦ h c (List.mem_reverse.1 hc), List.reverse_reverse]

/-- **Trimming**: a text has the trimmed form `word` exactly if it is `word` with white space around
it, where `word` is a text with nothing to trim. -/
theorem trimChars_eq_iff {word cs : List Char} (hword : trimChars word = word) :
    trimChars cs = word ↔ Padded word cs :=
  ⟨fun h ↦ h ▸ padded_trimChars cs, trimChars_eq_of_padded hword⟩

end ConfigTables.Text
