import ConfigTables.File.Path
import ConfigTables.Report.Entry
import ConfigTables.Sheet.Rows
import ConfigTables.Value.Delimiter

/-!
# Converting a tab

`TabResult.ofTab` classifies a tab and types its rows if it is a config sheet. The result knows
its status and its messages, and how it is entered in a report.
-/

namespace ConfigTables

/-- The outcome of a tab: its classification, and the typed rows and errors of a config sheet. -/
structure TabResult where
  outcome : Classification
  rows : List Row := []
  errors : List PlacedFault := []

namespace TabResult

/-- Converts a tab. -/
def ofTab (delimiter : Delimiter) (name : String) (rows : List Datum) :
    Except Abort TabResult := do
  match ← Classification.ofRows name rows with
  | .rejected name rejection => return { outcome := .rejected name rejection }
  | .config sheet =>
    let typed ← TypedRows.ofSheet delimiter.text sheet
    return { outcome := .config sheet, rows := typed.rows, errors := typed.errors }

/-- The name of the tab. -/
def name (result : TabResult) : String :=
  result.outcome.name

/-- What became of the tab. -/
def status (result : TabResult) : SheetStatus :=
  match result.outcome with
  | .rejected _ (.notConfig _) => .skipped
  | .rejected _ (.malformed _) => .malformed
  | .config _ => if result.errors.isEmpty then .converted else .invalidValues

/-- What there is to say about the tab. -/
def messages (result : TabResult) : List String :=
  match result.outcome with
  | .rejected _ rejection => [rejection.reason]
  | .config _ => result.errors.map (·.text)

/-- The config sheet that the tab was found to be, if it was. -/
def sheet? (result : TabResult) : Option Sheet :=
  match result.outcome with
  | .config sheet => some sheet
  | .rejected .. => none

/-- The fields of the tab's entry in a report, with the files that were written for it. -/
def entryFields (result : TabResult) (workbook : String) (outputs : List Path) :
    EntryFields :=
  { workbook := .text workbook
    sheetName := .text result.name
    status := .text result.status.name
    fileName := .text (result.sheet?.elim "" (·.markers.fileName))
    className := .text (result.sheet?.elim "" (·.markers.className))
    rowsIn := .int (result.sheet?.elim 0 (·.dataRows.length))
    rowsOut := .int (if result.status = .converted then result.rows.length else 0)
    errors := .list (result.messages.map .text)
    outputs := .list (outputs.map fun path ↦ .text path.text) }

/-- The tab's entry in a report. -/
def entry (result : TabResult) (workbook : String) (outputs : List Path) :
    Except FieldFault ReportEntry :=
  ReportEntry.ofFields (result.entryFields workbook outputs)

end TabResult

end ConfigTables
