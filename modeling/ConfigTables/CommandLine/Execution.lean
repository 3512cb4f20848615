import ConfigTables.CommandLine.Console
import ConfigTables.CommandLine.Invocation
import ConfigTables.Run.Batch
import ConfigTables.Run.Digests

/-!
# Executing commands

`CommandLine.execute` answers an argument list on a file tree: what is printed, the exit code, and
the tree afterwards. What other packages do is given by an `Environment`: how argument lists and
workbooks are read, what the markup of the console is, and what time it is.

* `run` converts a directory and writes the exports, a report and a manifest.
* `validate` does the same without writing anything.
* `inspect` shows the columns of the config sheets of one workbook.

Checks that need no work come first: an empty delimiter, then an input that is no directory. A run
that ends early is an internal error. Failures in the report change the exit code only under the
strict policy.
-/

namespace ConfigTables

/-- What commands depend on beside the file tree. -/
structure Environment where
  parser : ArgumentParser
  reader : WorkbookReader
  markup : Markup
  /-- The time of the run, in the form in which the manifest gives it. -/
  clock : String

/-- How a command ends. -/
inductive Exit where
  /-- The command was completed, or needed no work. -/
  | success
  | internalError
  /-- The usage was wrong, a check failed, or the strict policy counts failures. -/
  | failure
  deriving DecidableEq, Repr

namespace Exit

/-- The exit code. -/
def code : Exit → Nat
  | .success => 0
  | .internalError => 1
  | .failure => 2

/-- The end that the policy gives a completed report. -/
def ofReport (report : Report) (strict : Bool) : Exit :=
  if strict && report.anyFailed then .failure else .success

end Exit

/-- The answer to an argument list. -/
structure Outcome where
  exit : Exit
  console : List ConsoleEntry := []
  tree : FileTree
  /-- What broke the command off without being reported by it. -/
  uncaught : Option RunFault := none

namespace CommandLine

variable (environment : Environment)

/-- An outcome without changes to the tree. -/
def unchanged (tree : FileTree) (quiet : Bool) (exit : Exit) (notices : List Notice) : Outcome :=
  { exit, console := Notice.print environment.markup quiet notices, tree }

/-- An outcome that the command does not report itself. -/
def brokenOff (tree : FileTree) (fault : RunFault) : Outcome :=
  { exit := .internalError, tree, uncaught := some fault }

/-- The tool's name in bold, and its version. -/
def banner : String :=
  "[bold]" ++ toolName ++ "[/bold] v" ++ toolVersion

/-- Makes the checks that come before converting a directory. If they pass, the command goes on
with the delimiter. -/
def withChecks (tree : FileTree) (settings : Settings) (input : Path)
    (go : Delimiter → Outcome) : Outcome :=
  match Delimiter.ofText? settings.delimiter with
  | none =>
    unchanged environment tree settings.quiet .failure [.error Delimiter.refusal]
  | some delimiter =>
    match tree.isDirectory input with
    | .error fault => brokenOff tree (.file fault)
    | .ok false =>
      unchanged environment tree settings.quiet .failure
        [.error (RunFault.inputMissing input).message]
    | .ok true => go delimiter

/-- The outcome of a run: the notices before it, those about its entries, and those at its end. -/
def conclude {α : Type} (settings : Settings) (before : List Notice)
    (atEnd : α → List Notice) (report : α → Report) :
    EStateM.Result RunFault BatchState α → Outcome
  | .ok answer state =>
    { exit := Exit.ofReport (report answer) settings.strict
      console := Notice.print environment.markup settings.quiet
        (before ++ state.entries.flatMap (Notice.ofEntry environment.markup) ++ atEnd answer)
      tree := state.tree }
  | .error fault state =>
    { exit := .internalError
      console := Notice.print environment.markup settings.quiet
        (before ++ state.entries.flatMap (Notice.ofEntry environment.markup) ++
          [.error ("Unexpected internal error: " ++ fault.message)])
      tree := state.tree }

/-! ### The commands -/

/-- The fields of the manifest of a run. -/
def manifestFields (input output : Path) (report : Report)
    (digests : List (String × String)) : ManifestFields :=
  { version := .text toolVersion
    inputDir := .text input.text
    outputDir := .text output.text
    createdAt := .text environment.clock
    status := .text (if report.anyFailed then "failed" else "success")
    sheetsConverted := .int (report.count .converted)
    sheetsFailed := .int report.failures.length
    inputs := .object (digests.map fun digest ↦ (digest.1, .text digest.2)) }

/-- Writes the manifest of a run. The digests are those of the workbooks that are in the input
directory after the run. -/
def recordRun (input output : Path) (report : Report) :
    Batch Path := do
  let tree := (← get).tree
  let workbooks ← Batch.ofRunDisk (RunDisk.ofExcept id (Batch.workbooksIn tree input))
  let digests ← Batch.ofRunDisk (RunDisk.ofExcept .file (Digests.ofFiles tree workbooks))
  let manifest ← Batch.ofRunDisk (RunDisk.ofExcept .field
    (Manifest.ofFields (manifestFields environment input output report digests)))
  Batch.ofDisk (Export.writeManifest output manifest)

/-- What a completed run leaves: its report, and where report and manifest are. -/
structure RunFiles where
  report : Report
  reportPath : Path
  manifestPath : Path

/-- Converts a directory and writes everything there is to write. -/
def convertAndReport (delimiter : Delimiter) (input output : Path) : Batch RunFiles := do
  Batch.ofDisk (Disk.makeDirectories output)
  let report ← Batch.convertAll environment.reader delimiter input (some output)
  let reportPath ← Batch.ofDisk (Export.writeReport output report)
  let manifestPath ← recordRun environment input output report
  return { report, reportPath, manifestPath }

/-- The notices before a run. -/
def runHeading (settings : Settings) (input output : Path) : List Notice :=
  [.info (.panel (banner ++ "\nInput:  " ++ input.text ++ "\nOutput: " ++ output.text)
      "Conversion Start" "blue"),
    .line ("  Array delimiter: " ++ Text.quoted settings.delimiter ++ ", exit policy: " ++
      (if settings.strict then "strict" else "lenient"))]

/-- The notices after a run. -/
def runClosing (files : RunFiles) : List Notice :=
  [.line ("  Report   -> " ++ files.reportPath.text),
    .line ("  Manifest -> " ++ files.manifestPath.text),
    .summary files.report,
    .info (.panel
      (toString (files.report.count .converted) ++ " sheets converted, " ++
        toString files.report.failures.length ++ " failed")
      "Conversion Complete" (if files.report.anyFailed then "red" else "green"))]

/-- Runs the command `run` between two absolute paths. -/
def run (tree : FileTree) (settings : Settings) (input output : Path) : Outcome :=
  withChecks environment tree settings input fun delimiter ↦
    conclude environment settings (runHeading settings input output) runClosing RunFiles.report
      (convertAndReport environment delimiter input output { tree })

/-- The notices before a validation. -/
def validateHeading (input : Path) : List Notice :=
  [.info (.panel (banner ++ "  [dim]validate mode[/dim]\nInput: " ++ input.text)
    "Validate" "cyan")]

/-- Runs the command `validate` on an absolute path. -/
def validate (tree : FileTree) (settings : Settings) (input : Path) : Outcome :=
  withChecks environment tree settings input fun delimiter ↦
    conclude environment settings (validateHeading input) (fun report ↦ [.summary report]) id
      (Batch.convertAll environment.reader delimiter input none { tree })

/-- The row of a column in the table of a sheet. -/
def columnRow (column : Column) : List String :=
  toString column.index :: environment.markup.escape column.label ::
    match column.output with
    | some output =>
      [output.name, output.type.expression, String.ofList output.scope.flags]
    | none => ["[dim]-[/dim]", "", ""]

/-- What `inspect` prints for a tab. -/
def inspectTab : Classification → List ConsoleEntry
  | .rejected name rejection =>
    [.line ("[dim]-- " ++ environment.markup.escape name ++ ": " ++
      environment.markup.escape rejection.reason ++ "[/dim]")]
  | .config sheet =>
    [.table
      (sheet.name ++ " -> " ++ sheet.markers.fileName ++ " (" ++ sheet.markers.className ++ ")")
      ["#", "Label", "Name", "Type", "Scope"] (sheet.columns.map (columnRow environment)),
      .line ("  " ++ toString sheet.dataRows.length ++ " data rows")]

/-- Runs the command `inspect` on a workbook. -/
def inspect (tree : FileTree) (workbook : Path) : Outcome :=
  match Workbook.load environment.reader tree workbook with
  | .error fault =>
    if fault.isRecorded then unchanged environment tree false .failure [.error fault.message]
    else brokenOff tree (.load fault)
  | .ok tabs =>
    match tabs.mapM fun tab : Tab ↦ Classification.ofRows tab.name tab.data with
    | .error cause => brokenOff tree (.abort cause)
    | .ok classified =>
      { exit := .success, console := classified.flatMap (inspectTab environment), tree }

/-- Whether a path leads to a file. -/
def isFile (tree : FileTree) (path : Path) : Bool :=
  match tree.entry? path with
  | .ok (some (.file _)) => true
  | _ => false

/-- The absolute path that an operand denotes. -/
def absolute (tree : FileTree) (operand : String) : Path :=
  (Path.ofText operand).resolve tree.home

/-- Runs a command on its operands. -/
def perform (tree : FileTree) : Command → Outcome
  | .run input output settings =>
    run environment tree settings (absolute tree input) (absolute tree output)
  | .validate input settings => validate environment tree settings (absolute tree input)
  | .inspect workbook =>
    let workbook := Path.ofText workbook
    if isFile tree workbook then inspect environment tree workbook
    else unchanged environment tree false .failure []

/-- Answers an argument list. -/
def execute (tree : FileTree) (args : List String) : Outcome :=
  match environment.parser args with
  | .usageError => unchanged environment tree false .failure []
  | .help => unchanged environment tree false .success []
  | .version =>
    unchanged environment tree false .success [.line (toolName ++ " v" ++ toolVersion)]
  | .command command => perform environment tree command

end CommandLine

end ConfigTables
