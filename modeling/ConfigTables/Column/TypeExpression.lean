import ConfigTables.Fault

/-!
# Type expressions

A type cell holds a scalar type, or `array:` and a scalar type, with white space allowed around each
word. `ColumnType.parse` reads it, and `ColumnType.parseAt` also says where the cell stands if that
fails. What comes after the first colon is the element, so an element with a colon of its own is no
scalar type; where it is an array type written without white space around its first colon, the
message says that arrays do not nest.
-/

namespace ConfigTables.ColumnType

/-- Reads the word for a scalar type, naming the whole expression if it is none. -/
def parseScalar (expression word : String) : Except Fault ScalarType :=
  match ScalarType.ofName? word with
  | some t => .ok t
  | none => .error (.typeUnknown expression word)

/-- Reads a type expression that is not blank. -/
def parseExpression (expression : String) : Except Fault ColumnType :=
  match expression.toList.span (· != ':') with
  | (word, []) => (parseScalar expression (String.ofList (Text.trimChars word))).map .scalar
  | (before, _ :: after) =>
    let element := Text.trimChars after
    if String.ofList (Text.trimChars before) ≠ arrayWord then
      .error (.typeNotArray expression)
    else if String.ofList element = arrayWord || (arrayWord ++ ":").toList.isPrefixOf element then
      .error (.typeNested expression)
    else
      (parseScalar expression (String.ofList element)).map .array

/-- Reads a type cell. -/
def parse (cell : Datum) : Except (Failure Fault) ColumnType :=
  if cell.isBlank then .error (.fault .typeEmpty)
  else match cell with
    | .text expression => (parseExpression expression).mapError .fault
    | other => .error (.quoting other .typeNotText)

/-- Reads the type cell of a column, where a fault is then reported. -/
def parseAt (column : Option Int) (cell : Datum) : Except (Failure PlacedFault) ColumnType :=
  (parse cell).mapError (·.placed column none)

theorem parse_of_isBlank {cell : Datum} (h : cell.isBlank = true) :
    parse cell = .error (.fault .typeEmpty) := by
  simp [parse, h]

end ConfigTables.ColumnType
