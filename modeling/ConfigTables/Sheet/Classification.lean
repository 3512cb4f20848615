import ConfigTables.Column.Header
import ConfigTables.Sheet.Markers

/-!
# Classifying a tab

A tab is a config sheet if its first six rows say so: two marker rows and the four header rows. A
tab with fewer rows is plain data, whatever they hold. A tab that has them and is not well formed
was meant to be a config sheet; it is rejected with the first fault found, markers before header.
-/

namespace ConfigTables

/-- A config sheet: where it goes, its columns, and its data rows cell by cell. -/
structure Sheet where
  name : String
  markers : Markers
  columns : List Column
  dataRows : List (List Datum)

/-- The columns of a sheet that are exported. -/
def Sheet.exported (sheet : Sheet) : List Column :=
  sheet.columns.filter (·.isExported)

/-- Why a tab is no config sheet. -/
inductive Rejection where
  /-- The tab is plain data, with so few rows. -/
  | notConfig (rows : Nat)
  /-- The tab was meant to be a config sheet and is faulty. -/
  | malformed (error : PlacedFault)
  deriving Repr

namespace Rejection

/-- The error behind a rejection, if there is one. -/
def error? : Rejection → Option PlacedFault
  | .notConfig _ => none
  | .malformed error => some error

/-- The column that the error behind a rejection names, if it names one. -/
def column? (rejection : Rejection) : Option Int :=
  rejection.error?.bind (·.column)

/-- The reason for a rejection in one line. -/
def reason : Rejection → String
  | .notConfig rows => (Fault.tooFewRows rows).message
  | .malformed error => error.text

/-- The word for a rejection in answers about a single tab. -/
def label : Rejection → String
  | .notConfig _ => "not_config"
  | .malformed _ => "malformed"

/-- A rejection as an error, for callers that need a config sheet. -/
def toError : Rejection → PlacedFault
  | .notConfig rows => { fault := .tooFewRows rows }
  | .malformed error => error

end Rejection

/-- What a tab turns out to be. -/
inductive Classification where
  | config (sheet : Sheet)
  | rejected (name : String) (rejection : Rejection)

namespace Classification

/-- The name of the tab. -/
def name : Classification → String
  | .config sheet => sheet.name
  | .rejected name _ => name

/-- The cells of a data row. -/
def dataCells (row : Datum) : Except Abort (List Datum) :=
  match row.members? with
  | some cells => .ok cells
  | none => .error (.notIterable row)

/-- Classifies a tab by its rows. -/
def ofRows (name : String) : List Datum → Except Abort Classification
  | first :: second :: labels :: types :: names :: scopes :: data =>
    match Markers.read first second with
    | .error (.fault fault) => .ok (.rejected name (.malformed { fault }))
    | .error (.abort cause) => .error cause
    | .ok markers =>
      match Header.compile { labels, types, names, scopes } with
      | .error (.fault error) => .ok (.rejected name (.malformed error))
      | .error (.abort cause) => .error cause
      | .ok columns => do
        let dataRows ← data.mapM dataCells
        return .config { name, markers, columns, dataRows }
  | rows => .ok (.rejected name (.notConfig rows.length))

end Classification

end ConfigTables
