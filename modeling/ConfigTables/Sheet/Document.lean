import ConfigTables.Sheet.Rows

/-!
# Documents

What one audience gets to see of a config sheet: the columns exported for it, in sheet order, and
of every typed row the values of just these columns. A sheet without a column for an audience has
no document for it.
-/

namespace ConfigTables

/-- A column as its readers see it. -/
structure DocumentColumn where
  name : String
  type : ColumnType
  label : String
  deriving DecidableEq, Repr

/-- The export of a sheet for one audience. -/
structure Document where
  fileName : String
  className : String
  sheetName : String
  columns : List DocumentColumn
  rows : List Row

namespace Document

/-- The columns of a schema that an audience sees. -/
def columnsFor (audience : Audience) (columns : List Column) : List DocumentColumn :=
  columns.filterMap fun column ↦
    column.output.bind fun output ↦
      if output.scope.includes audience then
        some { name := output.name, type := output.type, label := column.label }
      else none

/-- The part of a row under the given names. -/
def pick (names : List String) (row : Row) : Except Abort Row :=
  names.mapM fun name ↦
    match row.lookup name with
    | some value => .ok (name, value)
    | none => .error (.missingValue name)

/-- The document of a sheet and its typed rows for an audience, if the audience sees any column. -/
def ofSheet? (sheet : Sheet) (rows : List Row) (audience : Audience) :
    Except Abort (Option Document) :=
  match columnsFor audience sheet.columns with
  | [] => .ok none
  | columns => do
    let rows ← rows.mapM (pick (columns.map (·.name)))
    return some
      { fileName := sheet.markers.fileName
        className := sheet.markers.className
        sheetName := sheet.name
        columns
        rows }

/-- A document as a datum. -/
def toDatum (document : Document) : Datum :=
  .object
    [("fileName", .text document.fileName),
      ("className", .text document.className),
      ("sheetName", .text document.sheetName),
      ("columns", .list (document.columns.map fun column ↦
        .object
          [("name", .text column.name),
            ("type", .text column.type.expression),
            ("label", .text column.label)])),
      ("rows", .list (document.rows.map .object))]

end Document

end ConfigTables
