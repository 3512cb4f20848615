import ConfigTables.File.Path

/-!
# File trees

A `FileTree` is the state of a file system as far as the library is concerned with it: which
locations hold a file or a directory, what the files hold, and from which directory relative paths
start. A location is the list of names from the root down. `FileTree.lookup` is the view through
which everything else is described.

`FileTree.follow` walks along names as an operating system does: every name but the last has to be
that of a directory, and two dots lead up from a directory that is really there.
-/

namespace ConfigTables

/-- The names from the root of a tree to an entry. -/
abbrev Location := List String

/-- What a location holds. -/
inductive Entry where
  | file (content : ByteArray)
  | directory

/-- Two files are compared by their bytes. -/
instance : DecidableEq Entry
  | .directory, .directory => isTrue rfl
  | .directory, .file _ => isFalse Entry.noConfusion
  | .file _, .directory => isFalse Entry.noConfusion
  | .file ⟨a⟩, .file ⟨b⟩ => decidable_of_iff (a = b) (by simp)

/-- Files and directories by their location. The root is always a directory and not listed. -/
structure FileTree where
  entries : List (Location × Entry) := []
  home : Location := []

/-- Why a walk through a tree does not arrive. -/
inductive Obstacle where
  /-- A name on the way is that of nothing. -/
  | missing
  /-- A name on the way is that of a file. -/
  | notDirectory
  /-- A name is longer than names may be. -/
  | tooLong
  deriving DecidableEq, Repr

namespace FileTree

/-- What a location holds, if anything. -/
def lookup (tree : FileTree) (location : Location) : Option Entry :=
  if location = [] then some .directory else tree.entries.lookup location

/-- The tree without what a location holds. -/
def erase (tree : FileTree) (location : Location) : FileTree :=
  { tree with entries := tree.entries.filter fun entry ↦ entry.1 != location }

/-- The tree in which a location holds the given entry. -/
def insert (tree : FileTree) (location : Location) (entry : Entry) : FileTree :=
  { tree with entries := (location, entry) :: (tree.erase location).entries }

/-- The greatest size of a name in bytes. -/
def maxNameSize : Nat := 255

/-- The location that a walk along names arrives at. Nothing need be there yet. -/
def follow (tree : FileTree) : Location → List String → Except Obstacle Location
  | location, [] => .ok location
  | location, name :: names =>
    match tree.lookup location with
    | none => .error .missing
    | some (.file _) => .error .notDirectory
    | some .directory =>
      if name.utf8ByteSize > maxNameSize then .error .tooLong
      else if name = ".." then tree.follow location.dropLast names
      else if name = "." || name = "" then tree.follow location names
      else tree.follow (location ++ [name]) names

/-- The entries directly in a directory, by name. -/
def children (tree : FileTree) (location : Location) : List (String × Entry) :=
  tree.entries.filterMap fun entry ↦
    match entry.1.getLast? with
    | some name => if entry.1.dropLast = location then some (name, entry.2) else none
    | none => none

/-- All entries below a location, by the names that lead there from it. -/
def below (tree : FileTree) (location : Location) : List (Location × Entry) :=
  tree.entries.filterMap fun entry ↦
    if location.isPrefixOf entry.1 && location.length < entry.1.length then
      some (entry.1.drop location.length, entry.2)
    else none

/-! ### Lookup after a change -/

@[simp] theorem lookup_nil (tree : FileTree) : tree.lookup [] = some .directory := rfl

theorem lookup_erase_of_ne (tree : FileTree) {location other : Location} (h : other ≠ location) :
    (tree.erase location).lookup other = tree.lookup other := by
  unfold lookup erase
  split
  · rfl
  · induction tree.entries with
    | nil => rfl
    | cons entry entries ih =>
      obtain ⟨l, e⟩ := entry
      by_cases hl : l = location
      · simp [List.lookup_cons, hl, beq_eq_false_iff_ne.2 h, ih]
      · simp only [List.filter_cons, bne_iff_ne, ne_eq, hl, not_false_iff, if_true,
          List.lookup_cons, ih]

theorem lookup_insert_self (tree : FileTree) {location : Location} (h : location ≠ [])
    (entry : Entry) : (tree.insert location entry).lookup location = some entry := by
  simp [lookup, insert, h]

theorem lookup_insert_of_ne (tree : FileTree) {location other : Location} (h : other ≠ location)
    (entry : Entry) : (tree.insert location entry).lookup other = tree.lookup other := by
  rw [← lookup_erase_of_ne tree h]
  simp [lookup, insert, List.lookup_cons, beq_eq_false_iff_ne.2 h]

end FileTree

end ConfigTables
