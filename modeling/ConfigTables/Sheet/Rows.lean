import ConfigTables.Sheet.Classification
import ConfigTables.Value.Conversion

/-!
# Typing the data rows

`TypedRows.ofSheet` converts the cells of every data row that is not entirely blank. A row is
kept if all its exported cells convert, and otherwise contributes all of its errors, so one bad
cell hides neither the other cells of its row nor the other rows. A row may be shorter than the
header; the cells it lacks are absent ones.
-/

namespace ConfigTables

/-- A typed row: the value of each exported column under its output name, in column order. -/
abbrev Row := List (String × Datum)

/-- The typed rows of a sheet, and the errors of the rows that could not be typed. -/
structure TypedRows where
  rows : List Row := []
  errors : List PlacedFault := []

namespace TypedRows

/-- The cell of a row at a position, absent ones included. -/
def cellAt (cells : List Datum) : Int → Datum
  | .ofNat index => cells[index]?.getD .null
  | .negSucc _ => .null

/-- Types a row: the values of the exported columns that convert, and an error for each that does
not. -/
def typeRow (delimiter : String) (line : Nat) (cells : List Datum) :
    List Column → Except Abort (Row × List PlacedFault)
  | [] => .ok ([], [])
  | column :: columns =>
    match column.output with
    | none => typeRow delimiter line cells columns
    | some output =>
      match Value.ofCellAt (some column.index) (some line) delimiter output.type
        (cellAt cells column.index) with
      | .error (.abort cause) => .error cause
      | .error (.fault error) =>
        (typeRow delimiter line cells columns).map fun rest ↦ (rest.1, error :: rest.2)
      | .ok value =>
        (typeRow delimiter line cells columns).map fun rest ↦
          ((output.name, value) :: rest.1, rest.2)

/-- Types the rows of a data block whose first row is the given line of the sheet. -/
def ofBlock (delimiter : String) (columns : List Column) :
    Nat → List (List Datum) → Except Abort TypedRows
  | _, [] => .ok {}
  | line, cells :: block =>
    if cells.all (·.isBlank) then
      ofBlock delimiter columns (line + 1) block
    else do
      let (row, errors) ← typeRow delimiter line cells columns
      let rest ← ofBlock delimiter columns (line + 1) block
      if errors.isEmpty then return { rest with rows := row :: rest.rows }
      else return { rest with errors := errors ++ rest.errors }

/-- Types the data rows of a config sheet. -/
def ofSheet (delimiter : String) (sheet : Sheet) : Except Abort TypedRows :=
  ofBlock delimiter sheet.columns headerHeight sheet.dataRows

end TypedRows

end ConfigTables
