import ConfigTables.Text.LowerCase.Table

/-!
# Lower case

The lower-case form of a text, by the full Unicode mapping. All characters map on their own,
except two: the dotted capital I becomes two characters, and a capital sigma becomes the final
form when a letter stands before it and none after it, characters of no case aside.
-/

namespace ConfigTables.Text

/-- Whether the nearest character that is not passed over has case. -/
def casedNext (cs : List Char) : Bool :=
  match cs.dropWhile caseIgnorableRanges.contains with
  | [] => false
  | c :: _ => casedRanges.contains c

/-- The lower-case form of one character, given the reversed text before it and the text after. -/
def lowerChar (before : List Char) (c : Char) (after : List Char) : List Char :=
  if c = 'Σ' then
    if casedNext before && !casedNext after then ['ς'] else ['σ']
  else if c = 'İ' then
    ['i', '\u0307']
  else
    match caseRuns.find? (·.covers c.toNat) with
    | some run => [Char.ofNat (c.toNat + run.shift).toNat]
    | none => [c]

/-- Lower-cases the characters of a text, carrying the part already read in reverse. -/
def lowerChars (before : List Char) : List Char → List Char
  | [] => []
  | c :: cs => lowerChar before c cs ++ lowerChars (c :: before) cs

/-- The lower-case form of a text. -/
def lower (s : String) : String :=
  String.ofList (lowerChars [] s.toList)

end ConfigTables.Text
