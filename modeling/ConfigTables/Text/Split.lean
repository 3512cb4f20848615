/-!
# Splitting at a delimiter

`splitChars d` cuts a text at the occurrences of `d`, found from the left and without overlap. The
recursion is on the text: after a hit the remaining characters of the delimiter are counted down,
so no measure is needed.
-/

namespace ConfigTables.Text

/-- Puts a character in front of the first piece. -/
def consFirst (c : Char) : List (List Char) → List (List Char)
  | [] => [[c]]
  | piece :: pieces => (c :: piece) :: pieces

/-- Splits a text of which the first `skip` characters still belong to a delimiter. -/
def splitSkip (delimiter : List Char) : Nat → List Char → List (List Char)
  | _, [] => [[]]
  | skip + 1, _ :: cs => splitSkip delimiter skip cs
  | 0, c :: cs =>
    if delimiter.isPrefixOf (c :: cs) then
      [] :: splitSkip delimiter (delimiter.length - 1) cs
    else
      consFirst c (splitSkip delimiter 0 cs)

/-- The pieces of a text between the occurrences of a delimiter. -/
def splitChars (delimiter cs : List Char) : List (List Char) :=
  splitSkip delimiter 0 cs

/-- The pieces of a text between the occurrences of a delimiter, which is taken not to be empty. -/
def split (delimiter s : String) : List String :=
  (splitChars delimiter.toList s.toList).map String.ofList

end ConfigTables.Text
