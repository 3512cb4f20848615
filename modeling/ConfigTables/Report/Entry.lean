import ConfigTables.Report.Field

/-!
# Report entries

A `ReportEntry` is the entry of a tab, or of an unreadable workbook, in the report of a run. It is
built from `EntryFields`, which may hold anything, by `ReportEntry.ofFields`. The checks run in a
fixed order: status, counts, lists, and last that no more rows came out than went in. The four
labels are carried as they are and not checked.
-/

namespace ConfigTables

/-- The fields of an entry before they are checked. -/
structure EntryFields where
  workbook : Datum := .text ""
  sheetName : Datum := .text ""
  status : Datum := .text SheetStatus.skipped.name
  fileName : Datum := .text ""
  className : Datum := .text ""
  rowsIn : Datum := .int 0
  rowsOut : Datum := .int 0
  errors : Datum := .list []
  outputs : Datum := .list []

namespace EntryFields

/-- Sets the field of a name. -/
def set (fields : EntryFields) (name : String) (value : Datum) :
    Except FieldFault EntryFields :=
  match name with
  | "workbook" => .ok { fields with workbook := value }
  | "sheet_name" => .ok { fields with sheetName := value }
  | "status" => .ok { fields with status := value }
  | "file_name" => .ok { fields with fileName := value }
  | "class_name" => .ok { fields with className := value }
  | "rows_in" => .ok { fields with rowsIn := value }
  | "rows_out" => .ok { fields with rowsOut := value }
  | "errors" => .ok { fields with errors := value }
  | "outputs" => .ok { fields with outputs := value }
  | _ => .error (.ofUnknown "SheetReport" name)

/-- The fields of the given names, the others at their defaults. -/
def ofEntries (entries : List (String × Datum)) : Except FieldFault EntryFields :=
  entries.foldlM (fun fields entry ↦ fields.set entry.1 entry.2) {}

end EntryFields

/-- The entry of a tab in the report of a run. -/
structure ReportEntry where
  workbook : Datum
  sheetName : Datum
  status : SheetStatus
  fileName : Datum
  className : Datum
  rowsIn : Nat
  rowsOut : Nat
  errors : List String
  outputs : List String

namespace ReportEntry

/-- Checks the fields of an entry. -/
def ofFields (fields : EntryFields) : Except FieldFault ReportEntry := do
  let status ← Field.readStatus fields.status
  let rowsIn ← Field.readCount "rows_in" fields.rowsIn
  let rowsOut ← Field.readCount "rows_out" fields.rowsOut
  let errors ← Field.readTexts "errors" fields.errors
  let outputs ← Field.readTexts "outputs" fields.outputs
  if rowsIn < rowsOut then throw .rowsExceed
  return {
    workbook := fields.workbook
    sheetName := fields.sheetName
    status
    fileName := fields.fileName
    className := fields.className
    rowsIn
    rowsOut
    errors
    outputs }

/-- Whether an entry tells of a failure. -/
def failed (entry : ReportEntry) : Bool :=
  entry.status.failed

/-- An entry as a datum. -/
def toDatum (entry : ReportEntry) : Datum :=
  .object
    [("workbook", entry.workbook),
      ("sheet_name", entry.sheetName),
      ("status", .text entry.status.name),
      ("file_name", entry.fileName),
      ("class_name", entry.className),
      ("rows_in", .int entry.rowsIn),
      ("rows_out", .int entry.rowsOut),
      ("errors", .list (entry.errors.map .text)),
      ("outputs", .list (entry.outputs.map .text))]

end ReportEntry

end ConfigTables
