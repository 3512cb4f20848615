import ConfigTables.Column.Name
import ConfigTables.Column.ScopeFlags
import ConfigTables.Column.TypeExpression

/-!
# Headers

Four parallel rows describe the columns of a config sheet: labels, types, output names and scopes.
`Header.compile` turns them into columns, or says what is the first thing wrong.

* The rows are lists of one length, which is not zero (`Header.columns`).
* Checks run in passes: all names, then all scopes, then all types. A pass asks of each column on
  its own terms what is wrong with it, if anything (`nameFailure`, `scopeFailure`, `typeFailure`),
  and `firstFailure` takes the leftmost answer. What an earlier pass finds wins over anything that a
  later one would find, wherever the columns stand.
* A column whose name cell or scope cell is blank is an annotation: it stays in the list of columns
  without an output, and its other cells are not looked at. Its name, if it has one, still counts
  when later names are compared.

The passes only look for what is wrong; what a column is follows from its own cells (`output?`).
Labels are put into texts when the passes are done, so a label without a text only counts then.
-/

namespace ConfigTables

/-- A column exported under a name, for an audience and with a type. Name and audience must not be
empty. -/
def Column.withOutput (index : Int) (label name : String) (scope : Scope) (type : ColumnType) :
    Except Abort Column :=
  if name = "" || scope.isEmpty then .error .incompleteColumn
  else .ok { index, label, output := some { name, scope, type } }

/-- A column of which nothing is exported. -/
def Column.annotation (index : Int) (label : String) : Column :=
  { index, label, output := none }

/-- The four header rows of a sheet, as they were found. -/
structure HeaderRows where
  labels : Datum
  types : Datum
  names : Datum
  scopes : Datum

/-- The cells of one column of a header. -/
structure HeaderCells where
  label : Datum
  type : Datum
  name : Datum
  scope : Datum

namespace HeaderCells

/-- The trimmed name under which the column is to be exported, if it has one. -/
def name? (cells : HeaderCells) : Option String :=
  if cells.name.isBlank then none else cells.name.text?.map Text.trim

/-- The audience of a column with a name, if its scope cell is well formed. -/
def scope? (cells : HeaderCells) : Option Scope :=
  match cells.name.isBlank, Scope.parse cells.scope with
  | false, .ok scope => some scope
  | _, _ => none

/-- What the column exports, if it is no annotation and all its cells are well formed. -/
def output? (cells : HeaderCells) : Option Output :=
  match cells.name?, cells.scope? with
  | some name, some scope =>
    if scope.isEmpty then none
    else match ColumnType.parse cells.type with
      | .ok type => some { name, scope, type }
      | .error _ => none
  | _, _ => none

/-- The compiled column at a position. -/
def toColumn (cells : HeaderCells) (index : Int) : Except Abort Column :=
  match cells.label.cellText? with
  | none => .error .tooManyDigits
  | some label =>
    match cells.output? with
    | some output => Column.withOutput index label output.name output.scope output.type
    | none => .ok (Column.annotation index label)

end HeaderCells

namespace Header

/-- The cells of four rows, column by column. -/
def zipCells : List Datum → List Datum → List Datum → List Datum → List HeaderCells
  | label :: labels, type :: types, name :: names, scope :: scopes =>
    { label, type, name, scope } :: zipCells labels types names scopes
  | _, _, _, _ => []

/-- The cells of a header row. -/
def rowCells (row : HeaderRow) (found : Datum) : Except (Failure Fault) (List Datum) :=
  match found.cells? with
  | some cells => .ok cells
  | none => .error (.quoting found (.headerRowNotList row))

/-- The columns of a header: its rows have to be lists of one length, which is not zero. -/
def columns (rows : HeaderRows) : Except (Failure Fault) (List HeaderCells) := do
  let labels ← rowCells .labels rows.labels
  let types ← rowCells .types rows.types
  let names ← rowCells .names rows.names
  let scopes ← rowCells .scopes rows.scopes
  let n := labels.length
  if types.length ≠ n ∨ names.length ≠ n ∨ scopes.length ≠ n then
    .error (.fault (.headerRowsDiffer n types.length names.length scopes.length))
  else if n = 0 then
    .error (.fault .headerEmpty)
  else
    .ok (zipCells labels types names scopes)

/-! ### The three passes -/

/-- What is wrong with the name of the column at position `i`, if it has one: it has no text, it is
not valid, or an earlier column has it. -/
def nameFailure (columns : List HeaderCells) (i : Nat) (cells : HeaderCells) :
    Option (Failure Fault) :=
  if cells.name.isBlank then none
  else match cells.name? with
    | none => some (.abort .tooManyDigits)
    | some name =>
      if !Name.isValid name then
        some (.fault (.outputNameInvalid name))
      else if name ∈ (columns.take i).filterMap HeaderCells.name? then
        some (.fault (.outputNameRepeated name))
      else none

/-- What is wrong with the scope of a column that has a name. -/
def scopeFailure (cells : HeaderCells) : Option (Failure Fault) :=
  if cells.name.isBlank then none
  else match Scope.parse cells.scope with
    | .error failure => some failure
    | .ok _ => none

/-- What is wrong with the type of a column that has a name and an audience. -/
def typeFailure (cells : HeaderCells) : Option (Failure Fault) :=
  cells.scope?.bind fun scope ↦
    if scope.isEmpty then none
    else match ColumnType.parse cells.type with
      | .error failure => some failure
      | .ok _ => none

/-- The leftmost failure that a pass finds. -/
def firstFailure (check : Nat → HeaderCells → Option (Failure Fault))
    (columns : List HeaderCells) : Option (Failure PlacedFault) :=
  columns.zipIdx.findSome? fun column ↦
    (check column.2 column.1).map (·.placed (some column.2) none)

/-- The first failure of the first pass that finds any. -/
def failure? (columns : List HeaderCells) : Option (Failure PlacedFault) :=
  (firstFailure (nameFailure columns) columns).or <|
    (firstFailure (fun _ ↦ scopeFailure) columns).or <|
      firstFailure (fun _ ↦ typeFailure) columns

/-- Compiles a header into its columns. -/
def compile (rows : HeaderRows) : Except (Failure PlacedFault) (List Column) :=
  match columns rows with
  | .error failure => .error (failure.placed none none)
  | .ok columns =>
    match failure? columns with
    | some failure => .error failure
    | none => (columns.zipIdx.mapM fun column : HeaderCells × Nat ↦
        column.1.toColumn column.2).mapError .abort

end Header

end ConfigTables
