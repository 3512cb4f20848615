import ConfigTables.Text.Ranges

/-!
# White space

Cells are trimmed, and a cell with nothing but white space counts as empty. White space is a fixed
set of Unicode characters, wider than ASCII: `isBlankChar` decides it, `trim` removes it from both
ends of a text, `squeeze` removes it everywhere, and `isBlank` holds of the texts that have nothing
else. The zero-width space and the byte order mark are not white space.

A text is blank exactly when nothing is left of it after trimming (`trimChars_eq_nil_iff`).
-/

namespace ConfigTables.Text

/-- The white-space characters. -/
def blankRanges : CodeRanges :=
  [(0x9, 0xD), (0x1C, 0x20), (0x85, 0x85), (0xA0, 0xA0), (0x1680, 0x1680), (0x2000, 0x200A),
    (0x2028, 0x2029), (0x202F, 0x202F), (0x205F, 0x205F), (0x3000, 0x3000)]

/-- Whether a character is white space. -/
def isBlankChar (c : Char) : Bool :=
  blankRanges.contains c

/-- The characters of a text without the white space at either end. -/
def trimChars (cs : List Char) : List Char :=
  ((cs.dropWhile isBlankChar).reverse.dropWhile isBlankChar).reverse

/-- A text without the white space at either end. -/
def trim (s : String) : String :=
  String.ofList (trimChars s.toList)

/-- A text without any of its white space. -/
def squeeze (s : String) : String :=
  String.ofList (s.toList.filter fun c ↦ !isBlankChar c)

/-- Whether a text has nothing but white space. -/
def isBlank (s : String) : Bool :=
  s.toList.all isBlankChar

/-! ### Trimming -/

theorem dropWhile_eq_nil_iff_all {p : Char → Bool} {cs : List Char} :
    cs.dropWhile p = [] ↔ cs.all p = true := by
  induction cs with
  | nil => simp
  | cons c cs ih => by_cases h : p c <;> simp [h, ih]

/-- A text that still has a character after dropping its leading white space has one that is
no white space, so the second pass cannot remove everything. -/
theorem trimChars_eq_nil_iff {cs : List Char} :
    trimChars cs = [] ↔ cs.all isBlankChar = true := by
  rw [trimChars, List.reverse_eq_nil_iff, dropWhile_eq_nil_iff_all, List.all_reverse]
  induction cs with
  | nil => simp
  | cons c cs ih => by_cases h : isBlankChar c <;> simp [h, ih]

end ConfigTables.Text
