import ConfigTables.Column.Basic
import ConfigTables.Datum.Display

/-!
# What can be wrong

A `Fault` is a defect of a sheet, given by its cause. Faults are found while a sheet is read, are
tied to a place (`PlacedFault`) and end up as messages in a report; the wording is `Fault.message`
and nothing else. An `Abort` is different: it arises where data breaks a promise that the caller
made, such as a row that is no row at all, and ends the whole operation. Where a message is to show
a datum that has no text, there is an abort in place of the fault (`Failure.quoting`).
-/

namespace ConfigTables

/-- The stages at which a sheet can be found faulty. -/
inductive FaultKind where
  | shape
  | metadata
  | name
  | scope
  | type
  | value
  deriving DecidableEq, Repr

/-- The word for a kind of fault in a report. -/
def FaultKind.label : FaultKind → String
  | .shape => "shape"
  | .metadata => "metadata"
  | .name => "name"
  | .scope => "scope"
  | .type => "type"
  | .value => "value"

/-- The four header rows, from top to bottom. -/
inductive HeaderRow where
  | labels
  | types
  | names
  | scopes
  deriving DecidableEq, Repr

/-- The name of a header row in messages. -/
def HeaderRow.title : HeaderRow → String
  | .labels => "normal names"
  | .types => "types"
  | .names => "output names"
  | .scopes => "scopes"

/-- The number of rows above the data of a config sheet. -/
def headerHeight : Nat := 6

/-- A defect of a sheet, by its cause. -/
inductive Fault where
  /-- The tab has too few rows to be a config sheet. -/
  | tooFewRows (rows : Nat)
  /-- A header row is not a list of cells, and is shown as here. -/
  | headerRowNotList (row : HeaderRow) (shown : String)
  /-- The header rows have these different lengths, from top to bottom. -/
  | headerRowsDiffer (labels types names scopes : Nat)
  /-- The header rows have no cells. -/
  | headerEmpty
  /-- A marker row is not a list of cells, and is shown as here. -/
  | markerNotList (line : Nat) (shown : String)
  /-- A marker row has too few cells. -/
  | markerTooShort (line cells : Nat)
  /-- A marker row does not begin with its label. -/
  | markerWithoutLabel (line : Nat) (label : String)
  /-- The file-name cell is empty. -/
  | fileNameEmpty
  /-- The class-name cell holds no valid name. -/
  | classNameInvalid (name : String)
  /-- The file name would lead out of its directory. -/
  | fileNameUnsafe (name : String)
  /-- The file name belongs to an earlier sheet. -/
  | fileNameTaken (name owner : String)
  /-- An output name is no valid name. -/
  | outputNameInvalid (name : String)
  /-- An output name belongs to an earlier column. -/
  | outputNameRepeated (name : String)
  /-- A scope cell is neither empty nor a text, and is shown as here. -/
  | scopeNotText (shown : String)
  /-- A scope cell has more letters than there are audiences. -/
  | scopeTooLong (cell : String)
  /-- A scope cell has a letter twice. -/
  | scopeRepeats (cell : String)
  /-- A scope cell has a letter that stands for no audience. -/
  | scopeFlagUnknown (cell : String) (flag : Char)
  /-- A type cell is empty. -/
  | typeEmpty
  /-- A type cell is not a text, and is shown as here. -/
  | typeNotText (shown : String)
  /-- A type expression uses a word that names no scalar type. -/
  | typeUnknown (expression word : String)
  /-- A type expression has a colon and does not begin as an array type. -/
  | typeNotArray (expression : String)
  /-- A type expression has an array type as its element. -/
  | typeNested (expression : String)
  /-- A cell or array element is no integer. -/
  | notInteger (cell : Option String)
  deriving DecidableEq, Repr

namespace Fault

/-- The stage at which a fault is found. -/
def kind : Fault → FaultKind
  | tooFewRows .. | headerRowNotList .. | headerRowsDiffer .. | headerEmpty => .shape
  | markerNotList .. | markerTooShort .. | markerWithoutLabel .. | fileNameEmpty
  | classNameInvalid .. | fileNameUnsafe .. | fileNameTaken .. => .metadata
  | outputNameInvalid .. | outputNameRepeated .. => .name
  | scopeNotText .. | scopeTooLong .. | scopeRepeats .. | scopeFlagUnknown .. => .scope
  | typeEmpty | typeNotText .. | typeUnknown .. | typeNotArray .. | typeNested .. => .type
  | notInteger .. => .value

/-- The beginning of most messages: what is at fault, quoted. -/
private def subject (what : String) (text : String) : String :=
  what ++ " " ++ Text.quoted text

/-- The wording of a fault. -/
def message : Fault → String
  | tooFewRows rows =>
    "not a config sheet: " ++ toString rows ++ " rows, need at least " ++ toString headerHeight
  | headerRowNotList row shown => row.title ++ " row is not a sequence: " ++ shown
  | headerRowsDiffer labels types names scopes =>
    "header rows differ in length: " ++ ", ".intercalate
      ([(HeaderRow.labels, labels), (.types, types), (.names, names), (.scopes, scopes)].map
        fun row ↦ row.1.title ++ "=" ++ toString row.2)
  | headerEmpty => "header rows are empty"
  | markerNotList line shown => "row " ++ toString line ++ " is not a sequence: " ++ shown
  | markerTooShort line cells =>
    "row " ++ toString line ++ " has " ++ toString cells ++ " cells, expected at least 2"
  | markerWithoutLabel line label =>
    "row " ++ toString line ++ " does not start with " ++ Text.quoted label
  | fileNameEmpty => "row 0 has an empty file name"
  | classNameInvalid name => "row 1 has an invalid class name: " ++ Text.quoted name
  | fileNameUnsafe name => subject "file name" name ++ " must not contain path separators"
  | fileNameTaken name owner => subject "file name" name ++ " is already used by " ++ owner
  | outputNameInvalid name => subject "output name" name ++ " is not a valid name"
  | outputNameRepeated name => subject "output name" name ++ " is duplicated"
  | scopeNotText shown => "scope " ++ shown ++ " is not text"
  | scopeTooLong cell => subject "scope" cell ++ " is longer than 2 characters"
  | scopeRepeats cell => subject "scope" cell ++ " repeats the same flag"
  | scopeFlagUnknown cell flag =>
    subject "scope" cell ++ " contains " ++ Text.quoted (String.singleton flag) ++
      "; allowed flags: " ++ ", ".intercalate (Audience.all.map (String.singleton ·.flag))
  | typeEmpty => "type is empty"
  | typeNotText shown => "type " ++ shown ++ " is not text"
  | typeUnknown expression word =>
    subject "type" expression ++ " uses an undefined type " ++ Text.quoted word ++
      "; supported types: " ++ ", ".intercalate (ScalarType.all.map (·.name))
  | typeNotArray expression =>
    subject "type" expression ++ " is not an array type but contains ':'"
  | typeNested expression =>
    subject "type" expression ++ " nests " ++ arrayWord ++ " inside " ++ arrayWord
  | notInteger cell => cell.elim "None" Text.quoted ++ " is not an integer"

end Fault

/-- What a report says about a fault: its kind, its wording, and its place as far as one is
known. -/
structure Diagnostic where
  kind : FaultKind
  message : String
  column : Option Int := none
  row : Option Int := none
  deriving DecidableEq, Repr

/-- A diagnostic in one line, the place in front. -/
def Diagnostic.text (diagnostic : Diagnostic) : String :=
  let place := (diagnostic.row.map fun r ↦ "row " ++ toString r).toList ++
    (diagnostic.column.map fun c ↦ "column " ++ toString c).toList
  if place.isEmpty then diagnostic.message
  else ", ".intercalate place ++ ": " ++ diagnostic.message

/-- A fault at a place. Columns and rows of a sheet are counted from zero, rows from its top; a
caller with data of its own may count from anywhere. -/
structure PlacedFault where
  fault : Fault
  column : Option Int := none
  row : Option Int := none
  deriving DecidableEq, Repr

/-- What a report says about an error. -/
def PlacedFault.diagnostic (error : PlacedFault) : Diagnostic :=
  { kind := error.fault.kind
    message := error.fault.message
    column := error.column
    row := error.row }

/-- An error in one line. -/
def PlacedFault.text (error : PlacedFault) : String :=
  error.diagnostic.text

/-- Why an operation cannot go on: its data is not of the form that it may rely on. -/
inductive Abort where
  /-- A data row has no members to go through. -/
  | notIterable (found : Datum)
  /-- A cell of a typed column is neither empty nor a text. -/
  | notText (found : Datum)
  /-- An array is to be split at the empty text. -/
  | emptyDelimiter
  /-- An exported column lacks its name or its audience. -/
  | incompleteColumn
  /-- A row lacks the value of a column. -/
  | missingValue (name : String)
  /-- A datum is to be put into a text and has an integer with too many digits in it. -/
  | tooManyDigits
  deriving Repr, BEq

/-- The wording of an abort. -/
def Abort.message : Abort → String
  | notIterable found => "'" ++ found.shapeName ++ "' object is not iterable"
  | notText found => "'" ++ found.shapeName ++ "' object has no attribute 'strip'"
  | emptyDelimiter => "array delimiter must not be empty"
  | incompleteColumn => "exported columns need an output name and a scope"
  | missingValue name => Text.quoted name
  | tooManyDigits => Datum.digitLimitMessage

/-- Why a step has no result: a fault of its input, which others may collect, or an abort. -/
inductive Failure (ε : Type) where
  | fault (error : ε)
  | abort (cause : Abort)
  deriving Repr

namespace Failure

/-- A failure at a place. A fault is reported there, and an abort goes on as it is. -/
def placed (column row : Option Int) : Failure Fault → Failure PlacedFault
  | fault found => fault { fault := found, column, row }
  | abort cause => abort cause

/-- The fault whose message shows a datum, or the abort if the datum has no text. -/
def quoting (found : Datum) (toFault : String → Fault) : Failure Fault :=
  match found.display? with
  | some shown => fault (toFault shown)
  | none => abort .tooManyDigits

/-- The text of a cell, or the abort if it has none. -/
def readCell {ε : Type} (cell : Datum) : Except (Failure ε) String :=
  match cell.cellText? with
  | some text => .ok text
  | none => .error (abort .tooManyDigits)

end Failure

end ConfigTables
