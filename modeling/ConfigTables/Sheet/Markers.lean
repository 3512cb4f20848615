import ConfigTables.Column.Name
import ConfigTables.Fault

/-!
# Marker rows

The first two rows of a config sheet name the file and the class it is exported as. Each begins
with a label, which is recognised with any white space in and around it, and has the name in its
second cell; further cells are ignored. Rows are read one after the other, so a fault of the first
row, its file name included, comes before any fault of the second.
-/

namespace ConfigTables

/-- The names a sheet is exported under. -/
structure Markers where
  fileName : String
  className : String
  deriving DecidableEq, Repr

namespace Markers

/-- The label of the row with the file name. -/
def fileMark : String := "文件名："

/-- The label of the row with the class name. -/
def classMark : String := "类名："

/-- The trimmed value in a marker row. -/
def markerValue (line : Nat) (label : String) (row : Datum) : Except (Failure Fault) String :=
  match row.cells? with
  | none => .error (.quoting row (.markerNotList line))
  | some (key :: value :: _) => do
    let key ← Failure.readCell key
    if Text.squeeze key = label then
      let value ← Failure.readCell value
      return Text.trim value
    else .error (.fault (.markerWithoutLabel line label))
  | some cells => .error (.fault (.markerTooShort line cells.length))

/-- The file name in the first row. -/
def readFileName (row : Datum) : Except (Failure Fault) String := do
  let name ← markerValue 0 fileMark row
  if name = "" then .error (.fault .fileNameEmpty) else .ok name

/-- The class name in the second row. -/
def readClassName (row : Datum) : Except (Failure Fault) String := do
  let name ← markerValue 1 classMark row
  if Name.isValid name then .ok name else .error (.fault (.classNameInvalid name))

/-- Reads the two marker rows. -/
def read (first second : Datum) : Except (Failure Fault) Markers := do
  let fileName ← readFileName first
  let className ← readClassName second
  return { fileName, className }

end Markers

end ConfigTables
