import ConfigTables.Run.Export
import ConfigTables.Sheet.Conversion

/-!
# Converting a directory

`Batch.convertAll` converts every tab of every workbook in a directory, workbooks in
code-point order of their names and tabs in the order of the workbook.

* A workbook that cannot be read is entered in the report and passed over.
* A config sheet claims its file name, whether or not its values convert. A later sheet with the
  same file name is rejected, and so is one whose file name would lead out of its directory
  (`Batch.claim`). A rejected sheet claims nothing.
* A converted sheet is written to the output directory, if there is one.
* What ends a run early leaves the files written and the entries made so far.
-/

namespace ConfigTables

/-- How far a run has come. -/
structure BatchState where
  tree : FileTree
  /-- The file names claimed so far, each with the sheet that claimed it. -/
  claimed : List (String × String) := []
  /-- The entries made so far. -/
  entries : List ReportEntry := []

/-- Programs of a run. -/
abbrev Batch := EStateM RunFault BatchState

namespace Batch

/-- A program on the file tree as part of a run. -/
def ofRunDisk {α : Type} (program : RunDisk α) : Batch α := fun state ↦
  match program state.tree with
  | .ok a tree => .ok a { state with tree }
  | .error fault tree => .error fault { state with tree }

/-- A file program as part of a run. -/
def ofDisk {α : Type} (program : Disk α) : Batch α :=
  ofRunDisk (RunDisk.ofDisk program)

/-- Makes an entry from the given fields. -/
def enter (fields : Except FieldFault ReportEntry) : Batch Unit := fun state ↦
  match fields with
  | .ok entry => .ok () { state with entries := state.entries ++ [entry] }
  | .error fault => .error (.field fault) state

/-! ### File names -/

/-- Whether a file name would lead out of the directory it is written to. -/
def isUnsafeName (name : String) : Bool :=
  name.toList.contains '/' || name.toList.contains '\\' || name = "." || name = ".."

/-- The result of a tab that is rejected for its file name. -/
def rejectName (result : TabResult) (fault : Fault) : TabResult :=
  { outcome := .rejected result.name (.malformed { fault }) }

/-- Lets a result claim its file name: the result, rejected if the name is not to be had, and the
names claimed from then on. -/
def claim (claimed : List (String × String)) (workbook : String) (result : TabResult) :
    TabResult × List (String × String) :=
  match result.sheet? with
  | none => (result, claimed)
  | some sheet =>
    let fileName := sheet.markers.fileName
    if isUnsafeName fileName then
      (rejectName result (.fileNameUnsafe fileName), claimed)
    else
      match claimed.lookup fileName with
      | some owner => (rejectName result (.fileNameTaken fileName owner), claimed)
      | none => (result, (fileName, workbook ++ ":" ++ result.name) :: claimed)

/-! ### Workbooks and tabs -/

/-- Converts the tabs of a workbook. -/
def tabResults (reader : WorkbookReader) (delimiter : Delimiter) (tree : FileTree)
    (path : Path) : Except RunFault (List TabResult) := do
  let tabs ← (Workbook.load reader tree path).mapError .load
  (tabs.mapM fun tab : Tab ↦ TabResult.ofTab delimiter tab.name tab.data).mapError .abort

/-- Writes the documents of a result, if it is a converted sheet. -/
def writeResult (output : Option Path) (result : TabResult) : RunDisk (List Path) :=
  match output, result.outcome with
  | some output, .config sheet =>
    if result.status = .converted then Export.writeSheet output sheet result.rows
    else return []
  | _, _ => return []

/-- Enters the result of a tab. -/
def addResult (output : Option Path) (workbook : String) (result : TabResult) :
    Batch Unit := do
  let state ← get
  let (result, claimed) := claim state.claimed workbook result
  set { state with claimed }
  let outputs ← ofRunDisk (writeResult output result)
  enter (result.entry workbook outputs)

/-- The fields of the entry of a workbook that cannot be read. -/
def unreadableFields (workbook : String) (fault : RunFault) : EntryFields :=
  { workbook := .text workbook
    status := .text SheetStatus.unreadable.name
    errors := .list [.text fault.message] }

/-- Converts a workbook and enters its results. -/
def addWorkbook (reader : WorkbookReader) (delimiter : Delimiter) (output : Option Path)
    (path : Path) : Batch Unit := do
  match tabResults reader delimiter (← get).tree path with
  | .ok results => results.forM (addResult output path.name)
  | .error fault =>
    if fault.isRecorded then enter (ReportEntry.ofFields (unreadableFields path.name fault))
    else throw fault

/-- The workbooks of an input directory. -/
def workbooksIn (tree : FileTree) (input : Path) : Except RunFault (List Path) :=
  match Workbook.find? tree input with
  | .error fault => .error (.file fault)
  | .ok none => .error (.inputMissing input)
  | .ok (some workbooks) => .ok workbooks

/-- Converts the workbooks of a directory, and exports them if there is an output directory. -/
def convertAll (reader : WorkbookReader) (delimiter : Delimiter) (input : Path)
    (output : Option Path) : Batch Report := do
  let workbooks ← ofRunDisk fun tree ↦ RunDisk.ofExcept id (workbooksIn tree input) tree
  workbooks.forM (addWorkbook reader delimiter output)
  return { workbooks := workbooks.length, entries := (← get).entries }

end Batch

end ConfigTables
