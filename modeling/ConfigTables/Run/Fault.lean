import ConfigTables.Fault
import ConfigTables.Report.Field
import ConfigTables.Workbook.Basic

/-!
# Why a run ends early

A run goes on past faulty sheets and unreadable workbooks. What ends it is a `RunFault`: an input
that is no directory, a file operation that fails, or data that breaks a promise.
-/

namespace ConfigTables

/-- Why a run ends early. -/
inductive RunFault where
  | inputMissing (directory : Path)
  | load (fault : LoadFault)
  | file (fault : FileFault)
  | abort (cause : Abort)
  | field (fault : FieldFault)
  deriving Repr

namespace RunFault

/-- The wording of a fault. -/
def message : RunFault → String
  | inputMissing directory => "Input directory not found: " ++ directory.text
  | load fault => fault.message
  | file fault => fault.message
  | abort cause => cause.message
  | field fault => fault.message

/-- Whether a fault that arises while a workbook is converted is entered in the report instead of
ending the run. -/
def isRecorded : RunFault → Bool
  | load fault => fault.isRecorded
  | abort .emptyDelimiter | abort .incompleteColumn | abort .tooManyDigits => true
  | _ => false

end RunFault

/-- Programs of a run that work on the file tree. -/
abbrev RunDisk := EStateM RunFault FileTree

namespace RunDisk

/-- A file program as part of a run. -/
def ofDisk {α : Type} (program : Disk α) : RunDisk α := fun tree ↦
  match program tree with
  | .ok a tree => .ok a tree
  | .error fault tree => .error (.file fault) tree

/-- A result that may be a fault as part of a run. -/
def ofExcept {ε α : Type} (toFault : ε → RunFault) : Except ε α → RunDisk α
  | .ok a => pure a
  | .error e => throw (toFault e)

end RunDisk

end ConfigTables
