import ConfigTables.Fault
import ConfigTables.Text.Split
import ConfigTables.Value.Integer

/-!
# Typed values

`Value.ofCell` turns the cell of a column into a value of the column's type, and `Value.ofCellAt`
also says where the cell stands if that fails.

* A truth value is true for the word `true` in any mixture of case and false for everything else.
* An integer is read by `readInteger`; anything else in the cell is a fault.
* A text is the cell without surrounding white space. An absent cell is the empty text.
* An `any` column takes the cell as it is.
* An array is split at the delimiter, and its trimmed parts are converted one by one. A blank cell
  is the empty array.

White space around the first three does not matter. They are promised texts or absent cells; any
other datum aborts the conversion, as does splitting at an empty delimiter.
-/

namespace ConfigTables.Value

/-- Whether a text is the word `true` in any mixture of case. -/
def isTrueWord (cs : List Char) : Bool :=
  cs.map Char.toLower == ['t', 'r', 'u', 'e']

/-- Converts one cell or array element to a scalar type. -/
def ofScalar : ScalarType → Datum → Except (Failure Fault) Datum
  | .any, cell => .ok cell
  | .bool, .null => .ok (.bool false)
  | .bool, .text s => .ok (.bool (isTrueWord (Text.trimChars s.toList)))
  | .string, .null => .ok (.text "")
  | .string, .text s => .ok (.text (Text.trim s))
  | .int, .null => .error (.fault (.notInteger none))
  | .int, .text s =>
    match readInteger (Text.trimChars s.toList) with
    | some n => .ok (.int n)
    | none => .error (.fault (.notInteger (some s)))
  | _, cell => .error (.abort (.notText cell))

/-- The trimmed parts of an array cell. -/
def elements (delimiter : String) (cell : Datum) : Except Abort (List String) :=
  if delimiter = "" then .error .emptyDelimiter
  else if cell.isBlank then .ok []
  else match cell.text? with
    | some text => .ok ((Text.split delimiter text).map Text.trim)
    | none => .error .tooManyDigits

/-- Converts a cell to the type of its column. -/
def ofCell (delimiter : String) : ColumnType → Datum → Except (Failure Fault) Datum
  | .scalar element, cell => ofScalar element cell
  | .array element, cell => do
    let parts ← (elements delimiter cell).mapError .abort
    let values ← parts.mapM fun part ↦ ofScalar element (.text part)
    return .list values

/-- Converts the cell at a place, where a fault is then reported. -/
def ofCellAt (column row : Option Int) (delimiter : String) (type : ColumnType) (cell : Datum) :
    Except (Failure PlacedFault) Datum :=
  (ofCell delimiter type cell).mapError (·.placed column row)

section Places

variable {column row : Option Int} {delimiter : String} {type : ColumnType} {cell value : Datum}

theorem ofCellAt_of_ok (h : ofCell delimiter type cell = .ok value) :
    ofCellAt column row delimiter type cell = .ok value := by
  rw [ofCellAt, h]
  rfl

theorem ofCellAt_of_fault {fault : Fault} (h : ofCell delimiter type cell = .error (.fault fault)) :
    ofCellAt column row delimiter type cell = .error (.fault { fault, column, row }) := by
  rw [ofCellAt, h]
  rfl

theorem ofCellAt_of_abort {cause : Abort} (h : ofCell delimiter type cell = .error (.abort cause)) :
    ofCellAt column row delimiter type cell = .error (.abort cause) := by
  rw [ofCellAt, h]
  rfl

end Places

end ConfigTables.Value
