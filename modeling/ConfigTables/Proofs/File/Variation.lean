import ConfigTables.Proofs.File.Artifact

/-!
# One text in the place of another

Which text is written to a file decides what the file holds afterwards, and nothing else: whether
the text can be written, why not, and what becomes of all other files is the same for every text
(`Artifact.parallel_writeText`). Where writing breaks off between its two steps, the text is left in
the temporary file, and so is another one.

Trees that differ in such a file lead every path to the same place (`FileTree.Varies.locate_eq`), as
a walk asks only whether there is a file and not what it holds.
-/

namespace ConfigTables

namespace FileTree

variable {content content' : ByteArray} {tree other : FileTree} {location : Location}

/-- Two trees differ at most in files that hold one content in the first and another in the
second. -/
structure Varies (content content' : ByteArray) (tree other : FileTree) : Prop where
  home : other.home = tree.home
  lookup : ∀ location, other.lookup location = tree.lookup location ∨
    tree.lookup location = some (.file content) ∧ other.lookup location = some (.file content')

theorem Varies.refl (content content' : ByteArray) (tree : FileTree) :
    Varies content content' tree tree :=
  ⟨rfl, fun _ ↦ .inl rfl⟩

theorem Varies.follow_eq (h : Varies content content' tree other) (location : Location)
    (names : List String) : other.follow location names = tree.follow location names := by
  induction names generalizing location with
  | nil => rw [follow, follow]
  | cons name names ih =>
    rw [follow, follow]
    rcases h.lookup location with heq | ⟨hfile, hfile'⟩
    · simp only [heq, ih]
    · simp only [hfile, hfile']

theorem Varies.locate_eq (h : Varies content content' tree other) (path : Path) :
    other.locate path = tree.locate path := by
  rw [locate, locate, h.home, h.follow_eq]

theorem Varies.erase (h : Varies content content' tree other) (location : Location) :
    Varies content content' (tree.erase location) (other.erase location) := by
  refine ⟨h.home, fun place ↦ ?_⟩
  by_cases hroot : location = []
  · -- The root is not listed, so there is nothing to erase.
    subst hroot
    by_cases hplace : place = []
    · subst hplace
      exact .inl rfl
    · rw [lookup_erase_of_ne _ hplace, lookup_erase_of_ne _ hplace]
      exact h.lookup place
  · by_cases hplace : place = location
    · subst hplace
      rw [lookup_erase_self _ hroot, lookup_erase_self _ hroot]
      exact .inl rfl
    · rw [lookup_erase_of_ne _ hplace, lookup_erase_of_ne _ hplace]
      exact h.lookup place

/-- Trees that get files in one place differ as before, if the files hold the same or each its own
of the two contents. -/
theorem Varies.insert (h : Varies content content' tree other) (location : Location)
    {bytes bytes' : ByteArray}
    (hbytes : bytes' = bytes ∨ bytes = content ∧ bytes' = content') :
    Varies content content' (tree.insert location (.file bytes))
      (other.insert location (.file bytes')) := by
  refine ⟨h.home, fun place ↦ ?_⟩
  by_cases hplace : place = location
  · subst hplace
    by_cases hroot : place = []
    · subst hroot
      exact .inl rfl
    · rw [lookup_insert_self _ hroot, lookup_insert_self _ hroot]
      rcases hbytes with rfl | ⟨rfl, rfl⟩
      · exact .inl rfl
      · exact .inr ⟨rfl, rfl⟩
  · rw [lookup_insert_of_ne _ hplace, lookup_insert_of_ne _ hplace]
    exact h.lookup place

end FileTree

namespace Artifact

open FileTree

variable {content content' : ByteArray} {tree other : FileTree}

/-- Writing the one or the other content beside the target either fails in both cases, for the same
reason, or does not. -/
theorem parallel_write (tree : FileTree) (path : Path) :
    EStateM.Parallel (Varies content content') (Disk.change (·.write path content) tree)
      (Disk.change (·.write path content') tree) := by
  rw [Disk.change, Disk.change, FileTree.write, FileTree.write]
  rcases tree.locate path with fault | location
  · exact .error (.refl content content' tree)
  · have hinsert := (Varies.refl content content' tree).insert location (.inr ⟨rfl, rfl⟩)
    simp only [Except.bind_ok]
    rcases tree.lookup location with _ | _ | _
    · exact .ok hinsert
    · exact .ok hinsert
    · exact .error (.refl content content' tree)

/-- Moving the temporary file does not depend on which of the contents it has. -/
theorem parallel_replace (h : Varies content content' tree other) (source target : Path) :
    EStateM.Parallel (Varies content content') (Disk.change (·.replace source target) tree)
      (Disk.change (·.replace source target) other) := by
  rw [Disk.change, Disk.change, FileTree.replace, FileTree.replace, h.locate_eq, h.locate_eq]
  rcases tree.locate source with fault | origin
  · exact .error h
  simp only [Except.bind_ok]
  -- The file that is moved may be the one in which the trees differ.
  obtain ⟨heq, hnot⟩ | ⟨bytes, bytes', hfile, hfile', hbytes⟩ :
      (other.lookup origin = tree.lookup origin ∧
        ∀ bytes, tree.lookup origin ≠ some (.file bytes)) ∨
      ∃ bytes bytes', tree.lookup origin = some (.file bytes) ∧
        other.lookup origin = some (.file bytes') ∧
        (bytes' = bytes ∨ bytes = content ∧ bytes' = content') := by
    rcases h.lookup origin with heq | ⟨hfile, hfile'⟩
    · rcases hlookup : tree.lookup origin with _ | bytes | _
      · exact .inl ⟨heq.trans hlookup, by simp⟩
      · exact .inr ⟨bytes, bytes, rfl, heq.trans hlookup, .inl rfl⟩
      · exact .inl ⟨heq.trans hlookup, by simp⟩
    · exact .inr ⟨content, content', hfile, hfile', .inr ⟨rfl, rfl⟩⟩
  · rw [heq]
    rcases hlookup : tree.lookup origin with _ | bytes | _
    · exact .error h
    · exact absurd hlookup (hnot bytes)
    · exact .error h
  · simp only [hfile, hfile']
    split_ifs
    · exact .error h
    · rcases tree.locate target with fault | location
      · exact .error h
      · have hinsert := (h.erase origin).insert location hbytes
        simp only [Except.bind_ok]
        rcases h.lookup location with heq | ⟨hthere, hthere'⟩
        · rw [heq]
          rcases tree.lookup location with _ | _ | _
          · exact .ok hinsert
          · exact .ok hinsert
          · exact .error h
        · simp only [hthere, hthere']
          exact .ok hinsert

/-- **One text or another**: writing either gives the same result, and the trees differ in the file
with the text at most. -/
theorem parallel_writeText (target : Path) (text text' : String) (tree : FileTree) :
    EStateM.Parallel (Varies text.toUTF8 text'.toUTF8) (writeText target text tree)
      (writeText target text' tree) := by
  refine .bind_same (.refl _ _) _ (fun _ made ↦ ?_) tree
  split_ifs
  · exact .error (.refl _ _ made)
  · refine .bind (parallel_write made _) fun _ before before' hbefore ↦ ?_
    refine .bind (parallel_replace hbefore _ _) fun _ after after' hafter ↦ ?_
    exact .ok hafter

end Artifact

end ConfigTables
