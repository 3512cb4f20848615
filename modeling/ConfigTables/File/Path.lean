import ConfigTables.Text.Quoted
import ConfigTables.Text.Split

/-!
# Paths

A path is a root and a list of parts. Reading a path from text drops empty parts and single dots,
so a path has one written form; double dots stay, because what they mean depends on the directories
they are applied to. Exactly two slashes in front are a root of their own, and any other number is
one slash. The path without root and parts is written as a dot.
-/

namespace ConfigTables

/-- Where a path starts. -/
inductive PathRoot where
  | relative
  | slash
  | doubleSlash
  deriving DecidableEq, Repr

/-- The written form of a root. -/
def PathRoot.text : PathRoot → String
  | .relative => ""
  | .slash => "/"
  | .doubleSlash => "//"

/-- A path. -/
structure Path where
  root : PathRoot := .relative
  parts : List String := []
  deriving DecidableEq, Repr

namespace Path

/-- The root that a text begins with. -/
def readRoot : List Char → PathRoot
  | '/' :: '/' :: '/' :: _ => .slash
  | '/' :: '/' :: _ => .doubleSlash
  | '/' :: _ => .slash
  | _ => .relative

/-- The text between slashes, in order. -/
def segments (s : String) : List String :=
  Text.split "/" s

/-- Reads a path. -/
def ofText (s : String) : Path :=
  { root := readRoot s.toList
    parts := (segments s).filter fun part ↦ part ≠ "" && part ≠ "." }

/-- The written form of a path. -/
def text (path : Path) : String :=
  if path.root = .relative && path.parts.isEmpty then "."
  else path.root.text ++ "/".intercalate path.parts

/-- A path below another one. A path with a root of its own is not moved. -/
def join (path below : Path) : Path :=
  if below.root = .relative then { path with parts := path.parts ++ below.parts } else below

/-- The path that a text denotes below another one. -/
def child (path : Path) (s : String) : Path :=
  path.join (ofText s)

/-- The entry of a directory. -/
def entry (path : Path) (name : String) : Path :=
  { path with parts := path.parts ++ [name] }

/-- The path without its last part. -/
def parent (path : Path) : Path :=
  { path with parts := path.parts.dropLast }

/-- The last part of a path, or the empty text. -/
def name (path : Path) : String :=
  path.parts.getLast?.getD ""

/-- The path with another last part. -/
def withName (path : Path) (name : String) : Path :=
  path.parent.entry name

/-- The end of a name from its last dot on, if that dot is neither its first nor its last
character. -/
def suffixOf (name : String) : String :=
  match name.toList.reverse.span (· != '.') with
  | (_ :: _, _ :: []) | ([], _) | (_, []) => ""
  | (extension, _) => String.ofList ('.' :: extension.reverse)

/-- The suffix of the last part of a path. -/
def suffix (path : Path) : String :=
  suffixOf path.name

/-- A name without its suffix. -/
def stemOf (name : String) : String :=
  String.ofList (name.toList.take (name.length - (suffixOf name).length))

/-- The path whose last part has another suffix. -/
def withSuffix (path : Path) (suffix : String) : Path :=
  path.withName (stemOf path.name ++ suffix)

/-- The greatest size of the text of a path in bytes. -/
def maxSize : Nat := 4095

/-- Whether the text of a path is larger than such texts may be. -/
def isTooLong (path : Path) : Bool :=
  maxSize < path.text.utf8ByteSize

/-- Whether a part of the path has a character that no name may have. -/
def hasNul (path : Path) : Bool :=
  path.parts.any (·.toList.contains '\x00')

/-- The absolute path without double dots that a path denotes from a directory, by its text
alone. -/
def resolve (home : List String) (path : Path) : Path :=
  let start := if path.root = .relative then home else []
  { root := .slash
    parts := path.parts.foldl
      (fun parts part ↦ if part = ".." then parts.dropLast else parts ++ [part]) start }

end Path

end ConfigTables
