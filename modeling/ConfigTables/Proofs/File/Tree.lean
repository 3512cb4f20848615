import ConfigTables.File.Disk
import ConfigTables.Proofs.Programs
import Mathlib.Data.List.Nodup
import Mathlib.Tactic.SplitIfs

/-!
# Walks through trees

Where a path leads is decided name by name, and a walk looks only at the directories on its way. So
a tree in which all directories of another one are still there leads every path that led somewhere
to the same place (`KeepsDirectories`, `locate_of_keeps`): files may have come and gone, and entries
may be listed in another order.

The last name of a path is not looked at in the tree at all. The location of an entry of a directory
therefore depends only on the location of the directory and on the name (`locate_entry`).
-/

namespace ConfigTables

namespace FileTree

/-- No location is listed twice. -/
def Distinct (tree : FileTree) : Prop :=
  (tree.entries.map Prod.fst).Nodup

/-- Every directory of a tree is one of another tree, and relative paths start from the same
directory. -/
structure KeepsDirectories (before after : FileTree) : Prop where
  home : after.home = before.home
  directory : ∀ location, before.lookup location = some .directory →
    after.lookup location = some .directory

theorem KeepsDirectories.refl (tree : FileTree) : KeepsDirectories tree tree :=
  ⟨rfl, fun _ h ↦ h⟩

/-- Changes that lose no directory can follow one another. -/
theorem KeepsDirectories.trans {first second third : FileTree} (h : KeepsDirectories first second)
    (h' : KeepsDirectories second third) : KeepsDirectories first third :=
  ⟨h'.home.trans h.home, fun location hdir ↦ h'.directory location (h.directory location hdir)⟩

/-! ### Lookup and the list of entries -/

/-- In a tree that lists no location twice, the entries are what lookup finds. -/
theorem mem_entries_iff_lookup {tree : FileTree} (h : tree.Distinct) {location : Location}
    (hne : location ≠ []) {entry : Entry} :
    (location, entry) ∈ tree.entries ↔ tree.lookup location = some entry := by
  rw [lookup, if_neg hne]
  rw [Distinct] at h
  generalize tree.entries = entries at h
  induction entries with
  | nil => simp
  | cons first entries ih =>
    obtain ⟨l, e⟩ := first
    rw [List.map_cons, List.nodup_cons] at h
    rw [List.mem_cons, List.lookup_cons, ih h.2, Prod.mk.injEq]
    by_cases hl : location = l
    · subst hl
      -- The place is entered once, so the entries behind have none for it.
      have hnone : entries.lookup location = none := by
        rw [List.lookup_eq_none_iff]
        rintro ⟨l, e'⟩ hmem
        rw [bne_iff_ne]
        rintro rfl
        exact h.1 (List.mem_map.2 ⟨_, hmem, rfl⟩)
      simp [hnone, eq_comm]
    · simp [hl, beq_eq_false_iff_ne.2 hl]

theorem isSome_lookup_of_mem {tree : FileTree} {location : Location} {entry : Entry}
    (h : (location, entry) ∈ tree.entries) : (tree.lookup location).isSome := by
  rw [lookup]
  split_ifs
  · rfl
  · rw [List.lookup_isSome_iff]
    exact ⟨_, h, by simp⟩

/-- The order in which a tree lists its entries does not matter for lookup. -/
theorem lookup_eq_of_perm {tree other : FileTree} (h : tree.Distinct)
    (hperm : tree.entries.Perm other.entries) (location : Location) :
    other.lookup location = tree.lookup location := by
  have hother : other.Distinct := (hperm.map Prod.fst).nodup_iff.1 h
  by_cases hne : location = []
  · simp [hne]
  · refine Option.ext fun entry ↦ ?_
    rw [← mem_entries_iff_lookup hother hne, ← mem_entries_iff_lookup h hne, hperm.mem_iff]

/-! ### Walking -/

/-- A way may be followed piece by piece. -/
theorem follow_append {tree : FileTree} {location : Location} (names more : List String) :
    tree.follow location (names ++ more) =
      tree.follow location names >>= fun reached ↦ tree.follow reached more := by
  induction names generalizing location with
  | nil => simp [follow, Except.bind_ok]
  | cons name names ih =>
    rw [List.cons_append, follow, follow]
    split
    · rfl
    · rfl
    · split_ifs
      · rfl
      · exact ih
      · exact ih
      · exact ih

/-- Where no directory is lost, every way leads where it led before. -/
theorem follow_of_keeps {before after : FileTree} (h : KeepsDirectories before after)
    {location reached : Location} {names : List String}
    (hfollow : before.follow location names = .ok reached) :
    after.follow location names = .ok reached := by
  induction names generalizing location with
  | nil => rwa [follow] at hfollow ⊢
  | cons name names ih =>
    rw [follow] at hfollow ⊢
    split at hfollow
    · simp at hfollow
    · simp at hfollow
    · next hdir =>
      rw [h.directory location hdir]
      simp only
      split_ifs at hfollow ⊢
      · exact ih hfollow
      · exact ih hfollow
      · exact ih hfollow

/-- Where a path leads, its text and its limits aside. -/
def walk (tree : FileTree) (path : Path) : Except Obstacle Location :=
  tree.follow (if path.root = .relative then tree.home else []) path.parts

theorem walk_entry (tree : FileTree) (directory : Path) (name : String) :
    tree.walk (directory.entry name) =
      tree.walk directory >>= fun reached ↦ tree.follow reached [name] :=
  follow_append directory.parts [name]

theorem walk_of_keeps {before after : FileTree} (h : KeepsDirectories before after) {path : Path}
    {location : Location} (hwalk : before.walk path = .ok location) :
    after.walk path = .ok location := by
  rw [walk, h.home]
  exact follow_of_keeps h hwalk

/-- A path leads somewhere if it can be a path at all and its way can be followed. -/
theorem locate_eq_ok_iff {tree : FileTree} {path : Path} {location : Location} :
    tree.locate path = .ok location ↔
      path.hasNul = false ∧ path.isTooLong = false ∧ tree.walk path = .ok location := by
  rw [locate, walk]
  generalize (if path.root = .relative then tree.home else []) = start
  cases path.hasNul with
  | true => simp
  | false =>
    cases path.isTooLong with
    | true => simp
    | false =>
      simp only [Bool.false_eq_true, if_false, true_and]
      split <;> simp_all

/-- Where no directory is lost, every path leads where it led before. -/
theorem locate_of_keeps {before after : FileTree} (h : KeepsDirectories before after)
    {path : Path} {location : Location} (hlocate : before.locate path = .ok location) :
    after.locate path = .ok location := by
  obtain ⟨hnul, hlong, hwalk⟩ := locate_eq_ok_iff.1 hlocate
  exact locate_eq_ok_iff.2 ⟨hnul, hlong, walk_of_keeps h hwalk⟩

theorem entry?_eq_directory_iff {tree : FileTree} {path : Path} :
    tree.entry? path = .ok (some .directory) ↔
      ∃ location, tree.locate path = .ok location ∧ tree.lookup location = some .directory := by
  unfold FileTree.entry?
  split <;> simp_all

/-! ### Entries of a directory -/

/-- A name that stands for an entry of its own, and not for a way through the tree. -/
def Ordinary (name : String) : Prop :=
  name ≠ "" ∧ name ≠ "." ∧ name ≠ ".."

/-- A name of three characters or more is that of an entry. -/
theorem ordinary_of_length {name : String} (h : 3 ≤ name.length) : Ordinary name := by
  refine ⟨?_, ?_, ?_⟩ <;> rintro rfl <;> exact absurd h (by decide)

/-- An ordinary name leads from a directory to its place in it, if it is not too long. -/
theorem follow_ordinary {tree : FileTree} {location : Location} {name : String}
    (hdir : tree.lookup location = some .directory) (hname : Ordinary name) :
    tree.follow location [name] =
      if name.utf8ByteSize > maxNameSize then .error .tooLong else .ok (location ++ [name]) := by
  obtain ⟨hempty, hdot, hdots⟩ := hname
  rw [follow, hdir]
  simp [hempty, hdot, hdots, follow]

/-- A step to an entry starts at a directory. -/
theorem follow_ordinary_eq_ok {tree : FileTree} {location reached : Location} {name : String}
    (hname : Ordinary name) (h : tree.follow location [name] = .ok reached) :
    tree.lookup location = some .directory ∧ reached = location ++ [name] := by
  have hdir : tree.lookup location = some .directory := by
    rw [follow] at h
    split at h
    · cases h
    · cases h
    · assumption
  refine ⟨hdir, ?_⟩
  rw [follow_ordinary hdir hname] at h
  split_ifs at h
  exact (Except.ok.inj h).symm

/-- Where the path of an entry leads, if the path of its directory leads to the given location. -/
def entryLocation (directory : Path) (location : Location) (name : String) :
    Except FileFault Location :=
  let path := directory.entry name
  if path.hasNul then .error .nulCharacter
  else if path.isTooLong || name.utf8ByteSize > maxNameSize then .error (.tooLong path)
  else .ok (location ++ [name])

/-- An entry of a directory can be reached if nothing about its name or its path forbids it. -/
theorem entryLocation_eq_ok_iff {directory : Path} {location reached : Location} {name : String} :
    entryLocation directory location name = .ok reached ↔
      ((directory.entry name).hasNul = false ∧ (directory.entry name).isTooLong = false ∧
        name.utf8ByteSize ≤ maxNameSize) ∧ reached = location ++ [name] := by
  unfold entryLocation
  rw [← Nat.not_lt]
  cases hnul : (directory.entry name).hasNul <;>
    cases hlong : (directory.entry name).isTooLong <;>
    by_cases hsize : name.utf8ByteSize > maxNameSize <;> simp [hnul, hlong, hsize, eq_comm]

/-- An entry of a directory is reached by way of the directory. -/
theorem locate_entry {tree : FileTree} {directory : Path} {location : Location} {name : String}
    (hlocate : tree.locate directory = .ok location)
    (hdir : tree.lookup location = some .directory) (hname : Ordinary name) :
    tree.locate (directory.entry name) = entryLocation directory location name := by
  obtain ⟨-, -, hreached⟩ := locate_eq_ok_iff.1 hlocate
  have hwalk : tree.walk (directory.entry name) = if name.utf8ByteSize > maxNameSize then
      .error .tooLong else .ok (location ++ [name]) := by
    rw [walk_entry, hreached, Except.bind_ok, follow_ordinary hdir hname]
  rw [walk] at hwalk
  unfold locate entryLocation
  rw [hwalk]
  cases hnul : (directory.entry name).hasNul <;>
    cases hlong : (directory.entry name).isTooLong <;>
    by_cases hsize : name.utf8ByteSize > maxNameSize <;> simp [hnul, hlong, hsize]

end FileTree

end ConfigTables
