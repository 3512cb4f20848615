import ConfigTables.Datum.Basic

/-!
# Valid names

Output names and class names are used as identifiers by the readers of an export. A valid name
begins with an ASCII letter, an underscore or a dollar sign, goes on with these and digits, and has
at most 201 characters.
-/

namespace ConfigTables.Name

/-- Whether a character may begin a name. -/
def isStart (c : Char) : Bool :=
  c.isAlpha || c = '_' || c = '$'

/-- Whether a character may stand after the first one. -/
def isRest (c : Char) : Bool :=
  isStart c || c.isDigit

/-- The greatest number of characters after the first one. -/
def maxRest : Nat := 200

/-- Whether a text is a valid name. -/
def isValid (name : String) : Bool :=
  match name.toList with
  | [] => false
  | c :: cs => isStart c && cs.all isRest && cs.length ≤ maxRest

/-- Whether a datum is a text that is a valid name. -/
def isValidDatum : Datum → Bool
  | .text name => isValid name
  | _ => false

end ConfigTables.Name
