import ConfigTables.CommandLine.Arguments
import ConfigTables.CommandLine.Clock
import ConfigTables.CommandLine.Execution
import ConfigTables.CommandLine.TagMarkup
import Std.Time

/-!
# The program

Runs `CommandLine.execute` on the real file system: the part of it that the operands lead to is read
into a `FileTree`, and what the command has changed in the tree is written back. Argument lists are
read by `Invocation.ofArguments`, and the markup of the console is `Markup.tags`. This build has no
package that reads workbooks, which its reader says of every one.
-/

namespace ConfigTables.Program

/-- The path of a location in the real file system. -/
def realPath (location : Location) : String :=
  "/" ++ "/".intercalate location

/-- What is really at a location, and the names of what is in it. -/
def entryAt? (location : Location) : IO (Option (Entry × List String)) := do
  try
    let items ← ((← IO.currentDir) / realPath location).readDir
    return some (.directory, items.toList.map (·.fileName))
  catch _ =>
    try
      return some (.file (← IO.FS.readBinFile (realPath location)), [])
    catch _ => return none

/-- What is really at and below a location, down to a depth. -/
def entriesBelow (location : Location) (depth : Nat) : IO (List (Location × Entry)) := do
  match ← entryAt? location with
  | none => return []
  | some (entry, names) =>
    match depth with
    | 0 => return [(location, entry)]
    | depth + 1 =>
      let inside ← names.mapM fun name ↦ entriesBelow (location ++ [name]) depth
      return (location, entry) :: inside.flatten

/-- What is really on the way to an operand, and below it down to a depth. -/
def entriesFor (home : Location) (operand : String) (depth : Nat) :
    IO (List (Location × Entry)) := do
  let path := Path.ofText operand
  let locationOf (parts : List String) : Location :=
    (Path.resolve home { path with parts }).parts
  let onTheWay ← ((List.range path.parts.length).map fun n ↦
    locationOf (path.parts.take n)).mapM fun location ↦ entriesBelow location 0
  return onTheWay.flatten ++ (← entriesBelow (locationOf path.parts) depth)

/-- The operands of a command, with the depth to which each is looked into. -/
def operands : Invocation → List (String × Nat)
  | .command (.run input output _) => [(input, 1), (output, 2)]
  | .command (.validate input _) => [(input, 1)]
  | .command (.inspect workbook) => [(workbook, 0)]
  | _ => []

/-- The part of the real file system that an argument list leads to. -/
def readTree (home : Location) (args : List String) : IO FileTree := do
  let above := (List.range (home.length + 1)).map fun n ↦ (home.take n, Entry.directory)
  let found ← (operands (Invocation.ofArguments args)).mapM fun operand ↦
    entriesFor home operand.1 operand.2
  let tree : FileTree := { home }
  return (above ++ found.flatten).foldl
    (fun tree entry ↦ if entry.1 = [] then tree else tree.insert entry.1 entry.2) tree

/-- Makes the real file system follow a change of the tree. -/
def writeChanges (before after : FileTree) : IO Unit := do
  for (location, entry) in after.entries.reverse do
    if before.lookup location ≠ some entry then
      match entry with
      | .directory => IO.FS.createDirAll (realPath location)
      | .file content => IO.FS.writeBinFile (realPath location) content
  for (location, _) in before.entries do
    if after.lookup location = none then
      IO.FS.removeFile (realPath location)

open Std.Time in
/-- The present time. -/
def now : IO UtcTime := do
  let t := DateTime.ofTimestamp (← Timestamp.now) TimeZone.ZoneRules.UTC
  return {
    year := t.year.toInt.toNat
    month := t.month.toNat
    day := t.day.toNat
    hour := t.hour.toNat
    minute := t.minute.toNat
    second := t.second.toNat
    microsecond := t.nanosecond.toNat / 1000 }

/-- Answers the arguments of the command line. -/
def answer (args : List String) : IO UInt32 := do
  let home := (Path.ofText (← IO.currentDir).toString).parts
  let tree ← readTree home args
  let environment : Environment :=
    { parser := Invocation.ofArguments
      reader := fun _ _ ↦ .error .packageMissing
      markup := .tags
      clock := (← now).isoText }
  let outcome := CommandLine.execute environment tree args
  writeChanges tree outcome.tree
  for entry in outcome.console do
    for line in entry.plainLines environment.markup do
      IO.println line
  if let some fault := outcome.uncaught then
    IO.eprintln fault.message
  return outcome.exit.code.toUInt32

end ConfigTables.Program

/-- Runs the program. -/
def main (args : List String) : IO UInt32 :=
  ConfigTables.Program.answer args
