import ConfigTables.Datum.Basic
import ConfigTables.File.Disk
import ConfigTables.Text.LowerCase

/-!
# Workbooks

A workbook is a file with tabs, each a name and rows of cells. How its bytes are read is not the
business of this library: a `WorkbookReader` does that, or says why it cannot. What the library
adds is which files are workbooks (`Workbook.find`), in which form their tabs arrive
(`Tab.squared`, `Tab.distinct`), and what is said when one cannot be read (`LoadFault`).
-/

namespace ConfigTables

/-- A tab of a workbook. A cell holds a text or nothing. -/
structure Tab where
  name : String
  rows : List (List (Option String))
  deriving DecidableEq, Repr

namespace Tab

/-- The tab with all rows filled up with empty cells to the length of the longest. -/
def squared (tab : Tab) : Tab :=
  let width := (tab.rows.map List.length).foldl max 0
  { tab with rows := tab.rows.map (List.rightpad width none) }

/-- The rows of a tab as data. -/
def data (tab : Tab) : List Datum :=
  tab.rows.map fun row ↦ Datum.list (row.map Datum.ofCell)

/-- Adds a tab to others. Of two tabs with one name the later one takes the place of the earlier. -/
def put : List Tab → Tab → List Tab
  | [], tab => [tab]
  | other :: tabs, tab =>
    if other.name = tab.name then tab :: tabs else other :: put tabs tab

/-- The tabs of which no two have the same name. -/
def distinct (tabs : List Tab) : List Tab :=
  tabs.foldl put []

end Tab

/-- The workbook formats. -/
inductive WorkbookFormat where
  | xlsx
  | xls
  deriving DecidableEq, Repr

namespace WorkbookFormat

/-- All formats. -/
def all : List WorkbookFormat := [.xlsx, .xls]

/-- The suffix of the files of a format. -/
def suffix : WorkbookFormat → String
  | .xlsx => ".xlsx"
  | .xls => ".xls"

/-- The name of the package that reads a format. -/
def readerPackage : WorkbookFormat → String
  | .xlsx => "openpyxl"
  | .xls => "xlrd"

/-- The format with a suffix. -/
def ofSuffix? (s : String) : Option WorkbookFormat :=
  all.find? fun format ↦ format.suffix == s

end WorkbookFormat

/-- Why a reader gives no tabs. -/
inductive ReadFailure where
  /-- The package for the format is not there. -/
  | packageMissing
  /-- The file is no readable workbook, for the given reason. -/
  | unreadable (reason : String)
  /-- The workbook lacks a part of the given name. -/
  | partMissing (name : String)
  /-- The reader itself broke down, with an error of the given kind. -/
  | crash (kind message : String)
  deriving DecidableEq, Repr

/-- How workbooks are read: from their location and what is there. -/
abbrev WorkbookReader := Location → Entry → Except ReadFailure (List Tab)

/-- Why a workbook cannot be loaded. -/
inductive LoadFault where
  | missing (path : Path)
  | unsupported (suffix : String)
  | packageMissing (format : WorkbookFormat)
  | unreadable (path : Path) (reason : String)
  | file (fault : FileFault)
  | crash (kind message : String)
  deriving DecidableEq, Repr

namespace LoadFault

/-- The wording of a fault. -/
def message : LoadFault → String
  | missing path => "Input file not found: " ++ path.text
  | unsupported suffix =>
    "Unsupported file type: " ++ Text.quoted suffix ++ ". Use " ++
      " or ".intercalate (WorkbookFormat.all.map (·.suffix))
  | packageMissing format =>
    "Reading " ++ format.suffix ++ " files needs the " ++ Text.quoted format.readerPackage ++
      " package: pip install " ++ format.readerPackage
  | unreadable path reason => "Could not read workbook " ++ path.text ++ ": " ++ reason
  | file fault => fault.message
  | crash _ message => message

/-- Whether a fault only concerns the one workbook. A reader that breaks down ends the run. -/
def isRecorded : LoadFault → Bool
  | crash .. => false
  | _ => true

/-- What a failure of the reader means for a workbook. -/
def ofReadFailure (path : Path) (format : WorkbookFormat) : ReadFailure → LoadFault
  | .packageMissing => .packageMissing format
  | .unreadable reason => .unreadable path reason
  | .partMissing name => .unreadable path (Text.quoted name)
  | .crash kind message => .crash kind message

end LoadFault

namespace Workbook

/-- The format of a file by its name, in any mixture of case. -/
def format? (name : String) : Option WorkbookFormat :=
  WorkbookFormat.ofSuffix? (Text.lower (Path.suffixOf name))

/-- Whether a file name is that of a workbook, and not that of the lock beside an open one. -/
def isName (name : String) : Bool :=
  (format? name).isSome && !"~$".toList.isPrefixOf name.toList

/-- What is in a directory, in code-point order of the names. -/
def sortedChildren (tree : FileTree) (location : Location) : List (String × Entry) :=
  (tree.children location).mergeSort fun a b ↦ decide (a.1 ≤ b.1)

/-- Whether an entry of a directory is a workbook. -/
def isWorkbook (name : String) : Entry → Bool
  | .file _ => isName name
  | .directory => false

/-- The workbooks in a directory, and nothing if it is no directory. Everything in the directory is
looked at, so nothing in it may have too long a path. -/
def find? (tree : FileTree) (directory : Path) : Except FileFault (Option (List Path)) := do
  match ← tree.entry? directory with
  | some .directory =>
    let children := sortedChildren tree (← tree.locate directory)
    match (children.map fun child ↦ directory.entry child.1).find? Path.isTooLong with
    | some path => throw (.tooLong path)
    | none =>
      return some ((children.filter fun child ↦ isWorkbook child.1 child.2).map fun child ↦
        directory.entry child.1)
  | _ => return none

/-- The tabs of a workbook, read from what is at its location. -/
def readTabs (reader : WorkbookReader) (path : Path) (location : Location) (entry : Entry) :
    Except LoadFault (List Tab) :=
  match format? path.name with
  | none => .error (.unsupported (Text.lower path.suffix))
  | some format =>
    match reader location entry with
    | .ok tabs => .ok ((Tab.distinct tabs).map Tab.squared)
    | .error failure => .error (.ofReadFailure path format failure)

/-- Loads the tabs of a workbook. -/
def load (reader : WorkbookReader) (tree : FileTree) (path : Path) :
    Except LoadFault (List Tab) :=
  match tree.locate path with
  | .error (.tooLong path) => .error (.file (.tooLong path))
  | .error _ => .error (.missing path)
  | .ok location =>
    match tree.lookup location with
    | none => .error (.missing path)
    | some entry => readTabs reader path location entry

end Workbook

end ConfigTables
