import ConfigTables.Proofs.File.Making

/-!
# When an artifact can be written

Once the directory of a target is there, two things can still stop a text from being written: the
temporary file may have a name or a path that no tree accepts, and a directory may be in the place
of the target or of the temporary file. `Artifact.Accepts` says that neither is so. It is what a
write needs (`Artifact.exists_write`) and what it shows (`Artifact.accepts_of_write`).
-/

namespace ConfigTables

/-! ### Names within the limits -/

namespace Path

variable {directory : Path} {name more : String}

theorem hasNul_eq_false_iff {path : Path} :
    path.hasNul = false ↔ ∀ part ∈ path.parts, '\x00' ∉ part.toList := by
  simp [hasNul]

theorem forall_parts_entry_iff {p : String → Prop} :
    (∀ part ∈ (directory.entry name).parts, p part) ↔
      (∀ part ∈ directory.parts, p part) ∧ p name := by
  simp [entry, or_imp, forall_and]

/-- Which names keep within the limits, below a directory that does. -/
theorem WithinLimits.entry_iff (h : directory.WithinLimits) :
    (directory.entry name).WithinLimits ↔ '\x00' ∉ name.toList ∧
      name.utf8ByteSize ≤ FileTree.maxNameSize ∧ (directory.entry name).isTooLong = false := by
  constructor
  · rintro ⟨hnul, hshort, hsizes⟩
    rw [hasNul_eq_false_iff, forall_parts_entry_iff] at hnul
    rw [forall_parts_entry_iff] at hsizes
    exact ⟨hnul.2, hsizes.2, hshort⟩
  · rintro ⟨hname, hsize, hshort⟩
    refine ⟨?_, hshort, forall_parts_entry_iff.2 ⟨h.short_names, hsize⟩⟩
    rw [hasNul_eq_false_iff, forall_parts_entry_iff]
    exact ⟨hasNul_eq_false_iff.1 h.no_nul, hname⟩

/-- The text of a path gets longer as its last name does. -/
theorem isTooLong_of_append (h : (directory.entry (name ++ more)).isTooLong = false) :
    (directory.entry name).isTooLong = false := by
  obtain ⟨stem, hstem⟩ := directory.exists_text_append
  have htext (last : String) : (directory.entry last).text = stem ++ last := by
    rw [entry, hstem [last] (List.cons_ne_nil _ _), String.intercalate_singleton]
  rw [isTooLong, decide_eq_false_iff_not, htext] at h ⊢
  simp only [String.utf8ByteSize_append] at h ⊢
  omega

/-- A name keeps within the limits if it does so with more after it. -/
theorem WithinLimits.of_append (h : (directory.entry (name ++ more)).WithinLimits) :
    (directory.entry name).WithinLimits := by
  have hnul := h.no_nul
  have hsizes := h.short_names
  rw [hasNul_eq_false_iff, forall_parts_entry_iff, String.toList_append, List.mem_append,
    not_or] at hnul
  rw [forall_parts_entry_iff, String.utf8ByteSize_append] at hsizes
  refine ⟨?_, isTooLong_of_append h.short, forall_parts_entry_iff.2 ⟨hsizes.1, by omega⟩⟩
  rw [hasNul_eq_false_iff, forall_parts_entry_iff]
  exact ⟨hnul.1, hnul.2.1⟩

end Path

namespace Artifact

open FileTree

variable {directory : Path} {name content : String} {payload : Payload}
  {before made after : FileTree}

theorem temporary_entry (directory : Path) (name : String) :
    temporary (directory.entry name) = directory.entry (name ++ ".tmp") := by
  rw [temporary_eq_entry, Path.parent_entry, Path.name_entry]

/-- A tree accepts a text under a name in a directory: the temporary file may be called what it is
called, and there is no directory in its place or in that of the target. -/
structure Accepts (tree : FileTree) (directory : Path) (name : String) : Prop where
  limits : (directory.entry (name ++ ".tmp")).WithinLimits
  free : ¬tree.HasDirectory (directory.entry name)
  temporary_free : ¬tree.HasDirectory (directory.entry (name ++ ".tmp"))

/-- A tree accepts a text if no directory is where the names lead. -/
theorem accepts_of_lookup (hlimits : (directory.entry (name ++ ".tmp")).WithinLimits)
    (hname : Ordinary name)
    (hfree : made.lookup (made.arrival directory ++ [name]) ≠ some .directory)
    (hfree' : made.lookup (made.arrival directory ++ [name ++ ".tmp"]) ≠ some .directory) :
    Accepts made directory name := by
  rw [← arrival_entry hname] at hfree
  rw [← arrival_entry (ordinary_temporary name)] at hfree'
  refine ⟨hlimits, ?_, ?_⟩ <;> rintro ⟨location, hlocate, hdir⟩ <;>
    rw [(spec_of_locate hlocate).2] at hdir
  · exact hfree hdir
  · exact hfree' hdir

/-- What a tree accepts has its places. -/
theorem Accepts.places (h : Accepts made directory name) (hdir : made.HasDirectory directory)
    (hname : Ordinary name) :
    made.locate (directory.entry name) = .ok (made.arrival directory ++ [name]) ∧
      made.lookup (made.arrival directory ++ [name]) ≠ some .directory ∧
      made.locate (directory.entry (name ++ ".tmp")) =
        .ok (made.arrival directory ++ [name ++ ".tmp"]) ∧
      made.lookup (made.arrival directory ++ [name ++ ".tmp"]) ≠ some .directory := by
  have hlocated := hdir.locate_entry h.limits.of_append
  have htemporary := hdir.locate_entry h.limits
  rw [arrival_entry hname] at hlocated
  rw [arrival_entry (ordinary_temporary name)] at htemporary
  exact ⟨hlocated, fun hthere ↦ h.free ⟨_, hlocated, hthere⟩,
    htemporary, fun hthere ↦ h.temporary_free ⟨_, htemporary, hthere⟩⟩

/-- The tree in which a text was written to a place by way of another one. -/
def putThrough (tree : FileTree) (temporaryPlace place : Location) (bytes : ByteArray) : FileTree :=
  ((tree.insert temporaryPlace (.file bytes)).erase temporaryPlace).insert place (.file bytes)

/-- Writing adds a file and no directory. -/
theorem lookup_of_putThrough {temporaryPlace place stop : Location} {bytes : ByteArray}
    (htemporary : temporaryPlace ≠ []) (hplace : place ≠ [])
    (h : (putThrough made temporaryPlace place bytes).lookup stop = some .directory) :
    made.lookup stop = some .directory := by
  rw [putThrough] at h
  have hne : stop ≠ place := by
    rintro rfl
    rw [lookup_insert_self _ hplace] at h
    cases h
  rw [lookup_insert_of_ne _ hne] at h
  have hne' : stop ≠ temporaryPlace := by
    rintro rfl
    rw [lookup_erase_self _ htemporary] at h
    cases h
  rwa [lookup_erase_of_ne _ hne', lookup_insert_of_ne _ hne'] at h

/-- A text is written where the directory can be made and no directory is in the way. -/
theorem writeText_eq_ok {target : Path} {place temporaryPlace : Location}
    (hmake : Disk.makeDirectories target.parent before = .ok () made) (hname : Ordinary target.name)
    (hplace : made.locate target = .ok place) (hfree : made.lookup place ≠ some .directory)
    (htemporary : made.locate (temporary target) = .ok temporaryPlace)
    (hfree' : made.lookup temporaryPlace ≠ some .directory) (hapart : place ≠ temporaryPlace) :
    writeText target content before =
      .ok target (putThrough made temporaryPlace place content.toUTF8) := by
  have hne : temporaryPlace ≠ [] := by
    rintro rfl
    exact hfree' made.lookup_nil
  have hkeeps := keepsDirectories_insert hfree' (.file content.toUTF8)
  have hwrite : Disk.change (·.write (temporary target) content.toUTF8) made =
      .ok () (made.insert temporaryPlace (.file content.toUTF8)) :=
    Disk.change_eq_ok_iff.2 (write_eq_ok_iff.2 ⟨_, htemporary, hfree', rfl⟩)
  have hreplace : Disk.change (·.replace (temporary target) target)
      (made.insert temporaryPlace (.file content.toUTF8)) =
        .ok () (putThrough made temporaryPlace place content.toUTF8) := by
    refine Disk.change_eq_ok_iff.2 (replace_eq_ok_iff.2 ⟨_, _, _,
      locate_of_keeps hkeeps htemporary, lookup_insert_self made hne _, hname.2.2,
      locate_of_keeps hkeeps hplace, ?_, rfl⟩)
    rwa [lookup_insert_of_ne made hapart]
  rw [writeText, EStateM.bind_of_ok hmake, if_neg hname.1]
  exact (EStateM.bind_of_ok hwrite).trans (EStateM.bind_of_ok hreplace)

/-- **When a write succeeds**: where the directory can be made and the tree then accepts the text,
it is written, and the directories are those that were made. -/
theorem exists_write (htext : text payload = .ok content)
    (hmake : Disk.makeDirectories directory before = .ok () made) (hname : Ordinary name)
    (h : Accepts made directory name) :
    ∃ after, write (directory.entry name) payload before = .ok (directory.entry name) after ∧
      ∀ stop, after.lookup stop = some .directory → made.lookup stop = some .directory := by
  obtain ⟨hplace, hfree, htemporary, hfree'⟩ :=
    h.places (Disk.adds_of_makeDirectories hmake).2 hname
  have hne (last : String) : made.arrival directory ++ [last] ≠ [] :=
    List.append_ne_nil_of_right_ne_nil _ (List.cons_ne_nil _ _)
  have hapart : made.arrival directory ++ [name] ≠ made.arrival directory ++ [name ++ ".tmp"] := by
    intro heq
    have hlength := congrArg String.length (List.singleton_inj.1 (List.append_cancel_left heq))
    rw [String.length_append, show ".tmp".length = 4 from rfl] at hlength
    omega
  rw [← Path.parent_entry directory name] at hmake
  rw [← temporary_entry] at htemporary
  rw [← Path.name_entry directory name] at hname
  have hwrite : writeText (directory.entry name) content before = .ok (directory.entry name) _ :=
    writeText_eq_ok hmake hname hplace hfree htemporary hfree' hapart
  rw [write_eq_writeText htext, hwrite]
  exact ⟨_, rfl, fun stop ↦ lookup_of_putThrough (hne _) (hne _)⟩

/-- **What a write shows**: where a write succeeds, the directory could be made, and the tree then
accepted the text. -/
theorem accepts_of_write {path : Path}
    (h : write (directory.entry name) payload before = .ok path after) :
    ∃ made, Disk.makeDirectories directory before = .ok () made ∧
      Accepts made directory name := by
  obtain ⟨-, -, content, made, between, -, hmake, hwrite, hreplace⟩ := steps_of_write h
  obtain ⟨temporaryPlace, htemporary, hfree', rfl⟩ := write_eq_ok_iff.1 hwrite
  obtain ⟨-, -, place, -, -, -, hplace, hfree, -⟩ := replace_eq_ok_iff.1 hreplace
  have hkeeps := keepsDirectories_insert hfree' (.file content.toUTF8)
  rw [temporary_entry] at htemporary
  rw [Path.parent_entry] at hmake
  refine ⟨made, hmake, (spec_of_locate htemporary).1, ?_, ?_⟩
  · -- The temporary file has not changed where the target is, nor what is there.
    rintro ⟨location, hlocate, hdir⟩
    have heq := hplace.symm.trans (locate_of_keeps hkeeps hlocate)
    rw [← Except.ok.inj heq] at hdir
    exact hfree (hkeeps.directory place hdir)
  · rintro ⟨location, hlocate, hdir⟩
    have heq := htemporary.symm.trans hlocate
    rw [← Except.ok.inj heq] at hdir
    exact hfree' hdir

end Artifact

end ConfigTables
