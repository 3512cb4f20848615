import ConfigTables.File.Payload
import ConfigTables.File.Tree

/-!
# Operations on files

Programs over a file tree are `Disk` programs. They may fail, and a failure leaves the tree as far
as the program had changed it, so what stays behind after a failure is part of the result. The
operations fail as the system calls they stand for do, and a `FileFault` says why, with the path as
the caller gave it.
-/

namespace ConfigTables

/-- Why a file operation fails. -/
inductive FileFault where
  | missing (path : Path)
  | alreadyThere (path : Path)
  | notDirectory (path : Path)
  | isDirectory (path : Path)
  /-- A path, or a name in it, is too long. -/
  | tooLong (path : Path)
  /-- A file cannot replace a directory. -/
  | replacesDirectory (source target : Path)
  /-- A file cannot be renamed to two dots. -/
  | targetBusy (source target : Path)
  /-- A name has the character U+0000. -/
  | nulCharacter
  /-- A path has no last part. -/
  | nameEmpty (path : Path)
  /-- A payload is not written. -/
  | payload (fault : PayloadFault)
  /-- More directories are missing one below the other than are made for one path. -/
  | tooManyMissing
  deriving DecidableEq, Repr

namespace FileFault

/-- A path as messages show it. -/
private def shown (path : Path) : String :=
  Text.quoted path.text

/-- The message of the operating system about one path. -/
private def systemMessage (number : Nat) (cause : String) (path : Path) : String :=
  "[Errno " ++ toString number ++ "] " ++ cause ++ ": " ++ shown path

/-- The wording of a fault. -/
def message : FileFault → String
  | missing path => systemMessage 2 "No such file or directory" path
  | alreadyThere path => systemMessage 17 "File exists" path
  | notDirectory path => systemMessage 20 "Not a directory" path
  | isDirectory path => systemMessage 21 "Is a directory" path
  | tooLong path => systemMessage 36 "File name too long" path
  | replacesDirectory source target =>
    systemMessage 21 "Is a directory" source ++ " -> " ++ shown target
  | targetBusy source target =>
    systemMessage 16 "Device or resource busy" source ++ " -> " ++ shown target
  | nulCharacter => "embedded null byte"
  | nameEmpty path => "PosixPath(" ++ shown path ++ ") has an empty name"
  | payload fault => fault.message
  | tooManyMissing => "maximum recursion depth exceeded while calling a Python object"

/-- Whether a fault comes from the operating system, and not from a check before it is asked. -/
def fromSystem : FileFault → Bool
  | nulCharacter | nameEmpty _ | payload _ | tooManyMissing => false
  | _ => true

end FileFault

namespace FileTree

/-- The location that a path leads to. Nothing need be there yet. The text of the path is looked at
before the tree is. -/
def locate (tree : FileTree) (path : Path) : Except FileFault Location :=
  if path.hasNul then .error .nulCharacter
  else if path.isTooLong then .error (.tooLong path)
  else
    match tree.follow (if path.root = .relative then tree.home else []) path.parts with
    | .ok location => .ok location
    | .error .missing => .error (.missing path)
    | .error .notDirectory => .error (.notDirectory path)
    | .error .tooLong => .error (.tooLong path)

/-- What a path leads to, if anything. Only what is too long makes the question fail. -/
def entry? (tree : FileTree) (path : Path) : Except FileFault (Option Entry) :=
  match tree.locate path with
  | .ok location => .ok (tree.lookup location)
  | .error (.tooLong path) => .error (.tooLong path)
  | .error _ => .ok none

/-- Whether a path leads to anything. -/
def isThere (tree : FileTree) (path : Path) : Except FileFault Bool :=
  (tree.entry? path).map Option.isSome

/-- Whether a path leads to a directory. -/
def isDirectory (tree : FileTree) (path : Path) : Except FileFault Bool :=
  (tree.entry? path).map (· == some .directory)

/-- The content of the file that a path leads to. -/
def read (tree : FileTree) (path : Path) : Except FileFault ByteArray := do
  let location ← tree.locate path
  match tree.lookup location with
  | none => .error (.missing path)
  | some .directory => .error (.isDirectory path)
  | some (.file content) => .ok content

/-- The tree with a new directory. -/
def makeDirectory (tree : FileTree) (path : Path) : Except FileFault FileTree := do
  let location ← tree.locate path
  match tree.lookup location with
  | some _ => .error (.alreadyThere path)
  | none => .ok (tree.insert location .directory)

/-- The tree in which a path leads to a file with the given content. -/
def write (tree : FileTree) (path : Path) (content : ByteArray) :
    Except FileFault FileTree := do
  let location ← tree.locate path
  match tree.lookup location with
  | some .directory => .error (.isDirectory path)
  | _ => .ok (tree.insert location (.file content))

/-- The tree in which a file has moved to another path, over a file that may be there. -/
def replace (tree : FileTree) (source target : Path) : Except FileFault FileTree := do
  let origin ← tree.locate source
  match tree.lookup origin with
  | some (.file content) =>
    if target.name = ".." then .error (.targetBusy source target)
    else
      let location ← tree.locate target
      match tree.lookup location with
      | some .directory => .error (.replacesDirectory source target)
      | _ => .ok ((tree.erase origin).insert location (.file content))
  | some .directory => .error (.isDirectory source)
  | none => .error (.missing source)

end FileTree

/-- Programs that work on a file tree and may fail. -/
abbrev Disk := EStateM FileFault FileTree

namespace Disk

/-- Asks something about the tree. -/
def query {α : Type} (question : FileTree → Except FileFault α) : Disk α := fun tree ↦
  match question tree with
  | .ok answer => .ok answer tree
  | .error fault => .error fault tree

/-- Changes the tree in one step, which either happens or does not. -/
def change (step : FileTree → Except FileFault FileTree) : Disk Unit := fun tree ↦
  match step tree with
  | .ok changed => .ok () changed
  | .error fault => .error fault tree

/-- Accepts that a directory could not be made if it is there. -/
def keepDirectory (path : Path) (fault : FileFault) : Disk Unit := do
  if fault.fromSystem && (← query (·.isDirectory path)) then return
  else throw fault

/-- Makes a directory unless it is there. -/
def makeDirectory (path : Path) : Disk Unit :=
  tryCatch (change (·.makeDirectory path)) (keepDirectory path)

/-- The greatest number of directories that are made for one path. For each that is missing, a call
stands inside another, and calls may only stand so deep: the number is what is left of the limit of
1000 calls where a command, run on its own, makes the directory of its output. A caller that itself
stands deeper has less left. No theorem depends on which number it is. -/
def maxMissing : Nat := 986

/-- Makes the directory with the given parts, last one first, and the directories above it, as long
as no more of them than allowed are missing. What is missing is made from the top down, so nothing
is made if it is too much. -/
def makeDirectoriesFrom (root : PathRoot) : Nat → List String → Disk Unit
  | 0, _ => throw .tooManyMissing
  | _ + 1, [] => makeDirectory { root }
  | allowed + 1, name :: above =>
    let path : Path := { root, parts := (name :: above).reverse }
    tryCatch (change (·.makeDirectory path)) fun fault ↦
      match fault with
      | .missing _ => do
        makeDirectoriesFrom root allowed above
        makeDirectory path
      | _ => keepDirectory path fault

/-- Makes a directory and the directories above it, as far as they are missing. -/
def makeDirectories (path : Path) : Disk Unit :=
  makeDirectoriesFrom path.root maxMissing path.parts.reverse

end Disk

end ConfigTables
