/-!
# Loose texts

Texts that are handed over by callers may hold surrogates, which are code points and no characters.
A `LooseText` is a list of code points, and is ordered by them as lists are. It is a text just if no
surrogate is in it (`LooseText.string?`), and only then can it be encoded in UTF-8.
-/

namespace ConfigTables

/-- A code point: a character, or the surrogate so many places after U+D800. -/
inductive CodePoint where
  | char (c : Char)
  | surrogate (offset : Fin 0x800)
  deriving DecidableEq, Repr

namespace CodePoint

/-- The number of a code point. -/
def value : CodePoint → Nat
  | char c => c.toNat
  | surrogate offset => 0xD800 + offset

/-- The character that a code point is. -/
def char? : CodePoint → Option Char
  | char c => some c
  | surrogate _ => none

/-- Code points are ordered by their numbers. -/
instance : LT CodePoint :=
  ⟨fun a b ↦ a.value < b.value⟩

instance : DecidableLT CodePoint := fun a b ↦
  inferInstanceAs (Decidable (a.value < b.value))

end CodePoint

/-- A text in which surrogates may stand. -/
abbrev LooseText := List CodePoint

namespace LooseText

/-- Characters as a loose text. -/
def ofChars (cs : List Char) : LooseText :=
  cs.map .char

/-- A text as a loose text. -/
def ofString (s : String) : LooseText :=
  ofChars s.toList

/-- The text that a loose text is, if no surrogate is in it. -/
def string? (text : LooseText) : Option String :=
  (text.mapM CodePoint.char?).map String.ofList

/-- The first surrogates of a loose text: how many characters stand before them, and those that
follow one another from there on. -/
def surrogates (text : LooseText) : Nat × List CodePoint :=
  let before := text.takeWhile (·.char?.isSome)
  (before.length, (text.drop before.length).takeWhile (·.char?.isNone))

theorem mapM_char?_ofChars (cs : List Char) : (ofChars cs).mapM CodePoint.char? = some cs := by
  induction cs with
  | nil => rfl
  | cons c cs ih =>
    rw [ofChars, List.map_cons, List.mapM_cons, ← ofChars, ih]
    rfl

theorem string?_ofChars (cs : List Char) : string? (ofChars cs) = some (String.ofList cs) := by
  rw [string?, mapM_char?_ofChars, Option.map_some]

/-- Characters after a loose text add no surrogates to it. -/
theorem string?_append_ofChars (text : LooseText) (cs : List Char) :
    string? (text ++ ofChars cs) = (string? text).map (· ++ String.ofList cs) := by
  rw [string?, string?, List.mapM_append, mapM_char?_ofChars]
  cases text.mapM CodePoint.char? with
  | none => rfl
  | some before => exact congrArg some String.ofList_append

end LooseText

end ConfigTables
