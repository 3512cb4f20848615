import ConfigTables.Proofs.File.Acceptance

/-!
# Writing a text again

After a text was written, its directory is there, it stands in its place, and there is nothing in
the place of its temporary file (`Artifact.Settled`). In such a tree the same text can be written
again, and nothing is different afterwards (`Artifact.exists_rewrite`): the directory is accepted,
the temporary file comes and goes, and the target gets the content that it has.

Writing keeps a tree from listing a location twice (`FileTree.Distinct.write`).
-/

namespace ConfigTables

namespace FileTree

variable {tree before after : FileTree} {location : Location}

/-- Nothing differs between two trees but the order in which they list their entries. -/
structure Unchanged (before after : FileTree) : Prop where
  home : after.home = before.home
  lookup : ∀ location, after.lookup location = before.lookup location

theorem Unchanged.refl (tree : FileTree) : Unchanged tree tree :=
  ⟨rfl, fun _ ↦ rfl⟩

theorem Unchanged.trans {first second third : FileTree} (h : Unchanged first second)
    (h' : Unchanged second third) : Unchanged first third :=
  ⟨h'.home.trans h.home, fun location ↦ (h'.lookup location).trans (h.lookup location)⟩

theorem Unchanged.keeps (h : Unchanged before after) : KeepsDirectories before after :=
  ⟨h.home, fun location hdir ↦ (h.lookup location).trans hdir⟩

/-- Nothing is at a place just if neither a file nor a directory is there. -/
theorem lookup_eq_none_iff : tree.lookup location = none ↔
    tree.fileAt? location = none ∧ tree.lookup location ≠ some .directory := by
  rw [fileAt?]
  rcases tree.lookup location with _ | _ | _ <;> simp

/-! ### Locations that are listed once -/

theorem Distinct.erase (h : tree.Distinct) (location : Location) :
    (tree.erase location).Distinct :=
  h.sublist (List.filter_sublist.map Prod.fst)

theorem Distinct.insert (h : tree.Distinct) (location : Location) (entry : Entry) :
    (tree.insert location entry).Distinct := by
  have herased := h.erase location
  rw [Distinct] at herased ⊢
  rw [FileTree.insert, List.map_cons, List.nodup_cons]
  refine ⟨fun hmem ↦ ?_, herased⟩
  obtain ⟨listed, hlisted, heq⟩ := List.mem_map.1 hmem
  simpa [heq] using (List.mem_filter.1 hlisted).2

/-- Making a directory enters no place twice. -/
theorem Distinct.makeDirectory {path : Path} (h : before.Distinct)
    (hmake : before.makeDirectory path = .ok after) : after.Distinct := by
  obtain ⟨location, -, hmake⟩ := Except.bind_eq_ok_iff.1 hmake
  split at hmake <;> cases hmake
  exact h.insert location .directory

end FileTree

namespace Disk

open FileTree

variable {before after : FileTree} {path : Path}

theorem distinct_of_makeDirectory (h : before.Distinct)
    (hmake : makeDirectory path before = .ok () after) : after.Distinct := by
  rcases EStateM.tryCatch_eq_ok_iff.1 hmake with hmake | ⟨fault, between, hchange, hkeep⟩
  · exact h.makeDirectory (change_eq_ok_iff.1 hmake)
  · obtain ⟨-, rfl⟩ := change_eq_error_iff.1 hchange
    exact eq_of_keepDirectory hkeep ▸ h

/-- Making directories enters no place twice, as none of them does. -/
theorem distinct_of_makeDirectoriesFrom {root : PathRoot} {allowed : Nat} {above : List String}
    (h : before.Distinct)
    (hmake : makeDirectoriesFrom root allowed above before = .ok () after) : after.Distinct := by
  induction above generalizing allowed before after with
  | nil =>
    rcases allowed with _ | allowed
    · cases hmake
    · exact distinct_of_makeDirectory h hmake
  | cons name above ih =>
    rcases allowed with _ | allowed
    · cases hmake
    · rcases EStateM.tryCatch_eq_ok_iff.1 hmake with hmake | ⟨fault, between, hchange, hmake⟩
      · exact h.makeDirectory (change_eq_ok_iff.1 hmake)
      · obtain ⟨-, rfl⟩ := change_eq_error_iff.1 hchange
        split at hmake
        · obtain ⟨_, between, habove, hmake⟩ := EStateM.bind_eq_ok_iff.1 hmake
          exact distinct_of_makeDirectory (ih h habove) hmake
        · exact eq_of_keepDirectory hmake ▸ h

/-- Where a directory is there, making it and those above it changes nothing. -/
theorem makeDirectories_of_hasDirectory (h : before.HasDirectory path) :
    makeDirectories path before = .ok () before := by
  have hthere : before.makeDirectory path = .error (.alreadyThere path) := by
    obtain ⟨location, hlocate, hdir⟩ := h
    rw [FileTree.makeDirectory, hlocate, Except.bind_ok, hdir]
  have hchange := change_makeDirectory_of_error hthere
  have hkeep := keepDirectory_of_hasDirectory h
    (show (FileFault.alreadyThere path).fromSystem = true from rfl)
  have hmake : tryCatch (change (·.makeDirectory path)) (keepDirectory path) before =
      .ok () before :=
    EStateM.tryCatch_eq_ok_iff.2 (.inr ⟨_, before, hchange, hkeep⟩)
  obtain ⟨root, parts⟩ := path
  rw [makeDirectories]
  rcases hparts : parts.reverse with _ | ⟨name, above⟩
  · rw [List.reverse_eq_nil_iff.1 hparts] at hmake
    exact hmake
  · have hpath : parts = (name :: above).reverse := by rw [← hparts, List.reverse_reverse]
    rw [hpath] at hchange hkeep
    exact EStateM.tryCatch_eq_ok_iff.2 (.inr ⟨_, before, hchange, hkeep⟩)

end Disk

namespace Artifact

open FileTree

variable {directory written : Path} {name content : String} {payload : Payload}
  {tree before after : FileTree} {bytes : ByteArray}

/-- A write enters no place twice. -/
theorem distinct_of_write {target : Path} (h : before.Distinct)
    (hwrite : write target payload before = .ok written after) : after.Distinct := by
  obtain ⟨-, -, content, made, between, -, hmake, hbeside, hreplace⟩ := steps_of_write hwrite
  obtain ⟨place, -, -, rfl⟩ := write_eq_ok_iff.1 hbeside
  obtain ⟨origin, _, location, -, -, -, -, -, rfl⟩ := replace_eq_ok_iff.1 hreplace
  have hmade := Disk.distinct_of_makeDirectoriesFrom h hmake
  exact ((hmade.insert place _).erase origin).insert location _

/-! ### Texts that were written -/

/-- A text is under a name in a directory, and nothing is in the way of writing it again. -/
structure Settled (tree : FileTree) (directory : Path) (name : String) (bytes : ByteArray) :
    Prop where
  is_there : tree.HasDirectory directory
  limits : (directory.entry (name ++ ".tmp")).WithinLimits
  content : tree.fileAt? (tree.arrival directory ++ [name]) = some bytes
  temporary_free : tree.lookup (tree.arrival directory ++ [name ++ ".tmp"]) = none

/-- **What a write leaves**: the directories are those that were made, and the text is settled. -/
theorem settled_of_write (hname : Ordinary name) (htext : text payload = .ok content)
    (h : write (directory.entry name) payload before = .ok written after) :
    (∃ made, Disk.makeDirectories directory before = .ok () made ∧
      ∀ stop, after.lookup stop = some .directory → made.lookup stop = some .directory) ∧
    Settled after directory name content.toUTF8 := by
  obtain ⟨made, hmake, haccepts⟩ := accepts_of_write h
  obtain ⟨hadds, hdir⟩ := Disk.adds_of_makeDirectories hmake
  obtain ⟨after', hwrite, hbounded⟩ := exists_write htext hmake hname haccepts
  cases h.symm.trans hwrite
  obtain ⟨-, content', place, htext', hwritten⟩ := written_of_write h
  cases htext.symm.trans htext'
  have hparent := hwritten.parent_located
  have hwhole := hwritten.written
  have hgone := hwritten.temporary_gone
  rw [Path.parent_entry] at hparent
  rw [Path.name_entry, (spec_of_locate hparent).2] at hwhole hgone
  refine ⟨⟨made, hmake, hbounded⟩, ⟨place, hparent, hwritten.is_directory⟩, haccepts.limits, hwhole,
    lookup_eq_none_iff.2 ⟨hgone, fun htemporary ↦ ?_⟩⟩
  -- A directory in that place would have been there before the text was written.
  obtain ⟨-, -, -, hfree⟩ := haccepts.places hdir hname
  rw [arrival_of_keeps hadds.keeps, ← arrival_of_keeps hwritten.keeps] at hfree
  exact hfree (hbounded _ htemporary)

/-- A settled text stays settled while another one is written, unless that is written to its place
or a directory gets into the place of its temporary file. -/
theorem Settled.of_written {target : Path} {place : Location}
    (h : Settled before directory name bytes) (hwritten : Written target content place before after)
    (hplace : before.arrival directory ++ [name] ≠ place ++ [target.name])
    (hplace' : before.arrival directory ++ [name] ≠ place ++ [target.name ++ ".tmp"])
    (htemporary : before.arrival directory ++ [name ++ ".tmp"] ≠ place ++ [target.name])
    (hfree : after.lookup (before.arrival directory ++ [name ++ ".tmp"]) ≠ some .directory) :
    Settled after directory name bytes := by
  have harrival := arrival_of_keeps hwritten.keeps directory
  refine ⟨h.is_there.of_keeps hwritten.keeps, h.limits, ?_, ?_⟩ <;> rw [harrival]
  · rw [hwritten.frame _ hplace hplace', h.content]
  · refine lookup_eq_none_iff.2 ⟨?_, hfree⟩
    by_cases heq : before.arrival directory ++ [name ++ ".tmp"] = place ++ [target.name ++ ".tmp"]
    · rw [heq, hwritten.temporary_gone]
    · rw [hwritten.frame _ htemporary heq]
      exact (lookup_eq_none_iff.1 h.temporary_free).1

/-- What is settled stays so as long as nothing is changed. -/
theorem Settled.of_unchanged (h : Settled before directory name bytes)
    (hunchanged : Unchanged before after) : Settled after directory name bytes := by
  have harrival := arrival_of_keeps hunchanged.keeps directory
  refine ⟨h.is_there.of_keeps hunchanged.keeps, h.limits, ?_, ?_⟩ <;> rw [harrival]
  · rw [fileAt?_congr (hunchanged.lookup _), h.content]
  · rw [hunchanged.lookup, h.temporary_free]

/-- Putting the content of a file in its place once more changes nothing. -/
theorem unchanged_putThrough {temporaryPlace place : Location}
    (hcontent : tree.fileAt? place = some bytes) (hfree : tree.lookup temporaryPlace = none) :
    Unchanged tree (putThrough tree temporaryPlace place bytes) := by
  have hlookup := fileAt?_eq_some_iff.1 hcontent
  have hplace : place ≠ [] := by
    rintro rfl
    cases hlookup
  have htemporary : temporaryPlace ≠ [] := by
    rintro rfl
    cases hfree
  refine ⟨rfl, fun location ↦ ?_⟩
  rw [putThrough]
  by_cases heq : location = place
  · rw [heq, lookup_insert_self _ hplace, hlookup]
  · rw [lookup_insert_of_ne _ heq]
    by_cases heq' : location = temporaryPlace
    · rw [heq', lookup_erase_self _ htemporary, hfree]
    · rw [lookup_erase_of_ne _ heq', lookup_insert_of_ne _ heq']

/-- **Rewriting**: a settled text can be written again, which changes nothing. -/
theorem exists_rewrite (hname : Ordinary name) (htext : text payload = .ok content)
    (h : Settled tree directory name content.toUTF8) :
    ∃ after, write (directory.entry name) payload tree = .ok (directory.entry name) after ∧
      Unchanged tree after := by
  have hplace := h.is_there.locate_entry h.limits.of_append
  have htemporary := h.is_there.locate_entry h.limits
  rw [arrival_entry hname] at hplace
  rw [arrival_entry (ordinary_temporary name), ← temporary_entry] at htemporary
  have hcontent := fileAt?_eq_some_iff.1 h.content
  have hapart : tree.arrival directory ++ [name] ≠ tree.arrival directory ++ [name ++ ".tmp"] := by
    intro heq
    rw [heq, h.temporary_free] at hcontent
    cases hcontent
  have hmake := Disk.makeDirectories_of_hasDirectory h.is_there
  rw [← Path.parent_entry directory name] at hmake
  rw [← Path.name_entry directory name] at hname
  rw [write_eq_writeText htext]
  exact ⟨_, writeText_eq_ok hmake hname hplace (by simp [hcontent]) htemporary
    (by simp [h.temporary_free]) hapart, unchanged_putThrough h.content h.temporary_free⟩

end Artifact

end ConfigTables
