import ConfigTables.Proofs.File.Acceptance
import ConfigTables.Proofs.Run.Writing

/-!
# When documents can be written

Before a run the directories of the audiences are there or can be made. A document can then be
written if its file name makes a name and a path that the tree accepts, and if no directory is in
its place or in that of its temporary file (`Export.Writable`).

While documents are written, the only directories that come into being are those on the way to the
directories of the audiences, and no file gets into that way (`Export.Between`). So what could be
written at the start can still be written then (`Export.sustains_between`), and what has been
written could be written at the start (`Export.writable_of_writes`).

Trees in the middle of a run are one kind of trees that sustain the writing of documents, in that a
document can be written in them and leaves a tree of their kind (`Export.Sustains`).
-/

namespace ConfigTables

namespace Export

open FileTree

variable {output : Path} {tree before after : FileTree} {audience : Audience}
  {document : Audience × Document} {documents : List (Audience × Document)}

/-- A document that can be written in a tree where the directory of its audience is. -/
structure Writable (output : Path) (made : FileTree) (document : Audience × Document) : Prop where
  no_nul : '\x00' ∉ document.2.fileName.toList
  short_name : (document.2.fileName ++ ".json.tmp").utf8ByteSize ≤ maxNameSize
  short_path :
    (Artifact.temporary (file output document.1 document.2.fileName)).isTooLong = false
  free : ¬made.HasDirectory (file output document.1 document.2.fileName)
  temporary_free :
    ¬made.HasDirectory (Artifact.temporary (file output document.1 document.2.fileName))

/-- Being writable is having a name that the tree accepts. -/
theorem writable_iff_accepts {made : FileTree}
    (hdir : made.HasDirectory (output.entry (directory document.1))) :
    Writable output made document ↔
      Artifact.Accepts made (output.entry (directory document.1))
        (document.2.fileName ++ ".json") := by
  have hname : document.2.fileName ++ ".json" ++ ".tmp" = document.2.fileName ++ ".json.tmp" := by
    rw [String.append_assoc]
    rfl
  have hnul : '\x00' ∉ (document.2.fileName ++ ".json.tmp").toList ↔
      '\x00' ∉ document.2.fileName.toList := by
    rw [String.toList_append, List.mem_append, not_or]
    exact and_iff_left (by decide)
  have htemporary : Artifact.temporary (file output document.1 document.2.fileName) =
      (output.entry (directory document.1)).entry (document.2.fileName ++ ".json.tmp") := by
    rw [file, Artifact.temporary_entry, hname]
  -- The temporary file has the longest name, so its path decides about both.
  constructor
  · rintro ⟨hnoNul, hsize, hshort, hfree, hfree'⟩
    rw [htemporary] at hshort hfree'
    refine ⟨?_, hfree, ?_⟩
    · rw [hname]
      exact hdir.withinLimits.entry_iff.2 ⟨hnul.2 hnoNul, hsize, hshort⟩
    · rwa [hname]
  · rintro ⟨hlimits, hfree, hfree'⟩
    rw [hname] at hlimits hfree'
    obtain ⟨hnoNul, hsize, hshort⟩ := hdir.withinLimits.entry_iff.1 hlimits
    refine ⟨hnul.1 hnoNul, hsize, ?_, hfree, ?_⟩
    · rwa [htemporary]
    · rwa [htemporary]

/-! ### Trees in the middle of a run -/

/-- A tree that comes from another one by writing documents: all directories are still there, those
that are new are on the way to the directory of an audience, and no file is in that way. -/
structure Between (output : Path) (start tree : FileTree) : Prop where
  keeps : KeepsDirectories start tree
  bounded : ∀ stop, tree.lookup stop = some .directory → start.lookup stop = some .directory ∨
    ∃ audience, stop ∈ start.way (output.entry (directory audience))
  free : ∀ audience, ∀ stop ∈ start.way (output.entry (directory audience)),
    tree.fileAt? stop = none

/-- The directories of the audiences are there or can be made: for each audience there is the tree
with its directory. -/
def Prepared (output : Path) (start : FileTree) (made : Audience → FileTree) : Prop :=
  ∀ audience, Disk.makeDirectories (output.entry (directory audience)) start =
    .ok () (made audience)

variable {start : FileTree} {made : Audience → FileTree}

theorem between_start (hmade : Prepared output start made) : Between output start start := by
  refine ⟨.refl start, fun _ ↦ .inl, fun audience stop hstop ↦ ?_⟩
  have hdir := (Disk.lookup_of_makeDirectories (hmade audience)).2 (.inr hstop)
  rw [← (Disk.adds_of_makeDirectories (hmade audience)).1.files, fileAt?, hdir]

/-- A location where a run makes no directory, and where none was at the start. -/
def Clear (output : Path) (start : FileTree) (location : Location) : Prop :=
  start.lookup location ≠ some .directory ∧
    ∀ audience, location ∉ start.way (output.entry (directory audience))

/-- What is no directory below the directory of one audience, once that is made, is on the way to
the directory of no other audience either. -/
theorem clear_of_lookup {made : FileTree}
    (hmake : Disk.makeDirectories (output.entry (directory audience)) start = .ok () made)
    {name : String} (h : made.lookup
      (start.arrival (output.entry (directory audience)) ++ [name]) ≠ some .directory) :
    Clear output start (start.arrival (output.entry (directory audience)) ++ [name]) := by
  have hway (stop : Location) : start.lookup stop = some .directory ∨
      stop ∈ start.way (output.entry (directory audience)) → made.lookup stop = some .directory :=
    (Disk.lookup_of_makeDirectories hmake).2
  refine ⟨fun hdir ↦ h (hway _ (.inl hdir)), fun other hstop ↦ ?_⟩
  rcases mem_way_entry.1 hstop with hstop | heq
  · exact h (hway _ (.inr (mem_way_entry.2 (.inl hstop))))
  · -- The directory of an audience is one name below the output directory, and this is two.
    rw [arrival_entry (ordinary_directory audience),
      arrival_entry (ordinary_directory other)] at heq
    have hlength := congrArg List.length heq
    simp at hlength

/-! ### Writing in the middle of a run -/

/-- Making the directory of an audience stays in the middle of a run. -/
theorem Between.make {made : FileTree} (h : Between output start before)
    (hmake : Disk.makeDirectories (output.entry (directory audience)) before = .ok () made) :
    Between output start made := by
  have hadds := (Disk.adds_of_makeDirectories hmake).1
  refine ⟨h.keeps.trans hadds.keeps, fun stop hstop ↦ ?_, fun audience stop hstop ↦ ?_⟩
  · rcases (Disk.lookup_of_makeDirectories hmake).1 hstop with hstop | hway
    · exact h.bounded stop hstop
    · exact .inr ⟨audience, way_of_keeps h.keeps _ ▸ hway⟩
  · rw [hadds.files, h.free audience stop hstop]

/-- Where a document can be written at the start, neither it nor its temporary file is where a run
makes a directory. -/
theorem Writable.clear (h : Writable output (made document.1) document)
    (hmade : Prepared output start made) :
    Clear output start (start.arrival (output.entry (directory document.1)) ++
        [document.2.fileName ++ ".json"]) ∧
      Clear output start (start.arrival (output.entry (directory document.1)) ++
        [document.2.fileName ++ ".json" ++ ".tmp"]) := by
  obtain ⟨hadds, hdir⟩ := Disk.adds_of_makeDirectories (hmade document.1)
  obtain ⟨-, hfree, -, hfree'⟩ := ((writable_iff_accepts hdir).1 h).places hdir
    (ordinary_jsonName document.2.fileName)
  rw [arrival_of_keeps hadds.keeps] at hfree hfree'
  exact ⟨clear_of_lookup (hmade document.1) hfree, clear_of_lookup (hmade document.1) hfree'⟩

/-- Where a run makes no directory there is none in the middle of the run. -/
theorem Between.lookup_ne (h : Between output start tree) {location : Location}
    (hclear : Clear output start location) : tree.lookup location ≠ some .directory := by
  intro hdir
  rcases h.bounded location hdir with hstart | ⟨audience, hway⟩
  · exact hclear.1 hstart
  · exact hclear.2 audience hway

/-- Writing a document where a run makes no directory stays in the middle of the run. -/
theorem Between.write {made : FileTree} {name content : String} {place : Location}
    (h : Between output start before) (hbetween : Between output start made)
    (hwritten : Artifact.Written ((output.entry (directory audience)).entry name) content place
      before after)
    (hclear : Clear output start (start.arrival (output.entry (directory audience)) ++ [name]))
    (hbounded : ∀ stop, after.lookup stop = some .directory →
      made.lookup stop = some .directory) :
    Between output start after := by
  have hkeeps := h.keeps.trans hwritten.keeps
  have hplace : place = start.arrival (output.entry (directory audience)) := by
    have hparent := hwritten.parent_located
    rw [Path.parent_entry] at hparent
    rw [(spec_of_locate hparent).2, arrival_of_keeps hkeeps]
  refine ⟨hkeeps, fun stop hstop ↦ hbetween.bounded stop (hbounded stop hstop),
    fun other stop hstop ↦ ?_⟩
  by_cases htemporary : stop =
      place ++ [((output.entry (directory audience)).entry name).name ++ ".tmp"]
  · rw [htemporary, hwritten.temporary_gone]
  · have hne : stop ≠ place ++ [((output.entry (directory audience)).entry name).name] := by
      rw [Path.name_entry, hplace]
      intro heq
      exact hclear.2 other (heq ▸ hstop)
    rw [hwritten.frame stop hne htemporary, h.free other stop hstop]

/-- **One document**: a document that can be written at the start can be written in the middle of a
run. -/
theorem exists_write (hmade : Prepared output start made) (h : Between output start before)
    (hplain : Plain document) (htext : document.2.toDatum.HasText)
    (hwritable : Writable output (made document.1) document) :
    ∃ after, Artifact.write (path output document) (.ofDatum document.2.toDatum) before =
        .ok (path output document) after ∧
      Between output start after := by
  obtain ⟨made', hmake⟩ := Disk.exists_makeDirectories (hmade document.1) h.keeps
    (way_of_keeps h.keeps _ ▸ h.free document.1)
  have hbetween := h.make hmake
  obtain ⟨hclear, hclear'⟩ := hwritable.clear hmade
  have hname := ordinary_jsonName document.2.fileName
  have hlimits := ((writable_iff_accepts
    (Disk.adds_of_makeDirectories (hmade document.1)).2).1 hwritable).limits
  have haccepts : Artifact.Accepts made' (output.entry (directory document.1))
      (document.2.fileName ++ ".json") := by
    refine Artifact.accepts_of_lookup hlimits hname ?_ ?_ <;> rw [arrival_of_keeps hbetween.keeps]
    · exact hbetween.lookup_ne hclear
    · exact hbetween.lookup_ne hclear'
  obtain ⟨after, hwrite, hbounded⟩ :=
    Artifact.exists_write (Artifact.text_ofDatum htext) hmake hname haccepts
  obtain ⟨-, content, place, -, hwritten⟩ := Artifact.written_of_write hwrite
  rw [path_eq hplain, file]
  exact ⟨after, hwrite, h.write hbetween hwritten hclear hbounded⟩

/-- In a tree of a kind, documents that are fit for it can be written, and the tree stays of this
kind. -/
def Sustains (output : Path) (kind : FileTree → Prop) (fit : Audience × Document → Prop) : Prop :=
  ∀ before document, kind before → Plain document → document.2.toDatum.HasText → fit document →
    ∃ after, Artifact.write (path output document) (.ofDatum document.2.toDatum) before =
        .ok (path output document) after ∧ kind after

/-- A tree in the middle of a run sustains the writing of what can be written at the start. -/
theorem sustains_between (hmade : Prepared output start made) :
    Sustains output (Between output start) fun document ↦
      Writable output (made document.1) document :=
  fun _ _ hbetween hplain htext hwritable ↦ exists_write hmade hbetween hplain htext hwritable

/-- **All documents**: documents that are fit for a kind of trees can be written one after the
other. -/
theorem Sustains.exists_writes {kind : FileTree → Prop} {fit : Audience × Document → Prop}
    (h : Sustains output kind fit) (hbefore : kind before)
    (hplain : ∀ document ∈ documents, Plain document)
    (htexts : ∀ document ∈ documents, document.2.toDatum.HasText)
    (hfit : ∀ document ∈ documents, fit document) :
    ∃ after, Writes (some output) documents before after ∧ kind after := by
  induction documents generalizing before with
  | nil => exact ⟨before, rfl, hbefore⟩
  | cons document documents ih =>
    rw [List.forall_mem_cons] at hplain htexts hfit
    obtain ⟨between, hwrite, hbetween⟩ := h before document hbefore hplain.1 htexts.1 hfit.1
    obtain ⟨after, hrest, hafter⟩ := ih hbetween hplain.2 htexts.2 hfit.2
    exact ⟨after, ⟨between, hwrite, hrest⟩, hafter⟩

/-! ### What writing shows -/

/-- **What was written**: a document that was written in a tree with the directories of another one
could be written there. -/
theorem writable_of_write {written : Path} (hmade : Prepared output start made)
    (hkeeps : KeepsDirectories start before) (hplain : Plain document)
    (h : Artifact.write (path output document) (.ofDatum document.2.toDatum) before =
      .ok written after) :
    Writable output (made document.1) document := by
  rw [path_eq hplain, file] at h
  obtain ⟨made', hmake, haccepts⟩ := Artifact.accepts_of_write h
  obtain ⟨hadds, hdir⟩ := Disk.adds_of_makeDirectories (hmade document.1)
  have hmore := Disk.keepsDirectories_of_makeDirectories (hmade document.1) hmake hkeeps
  refine (writable_iff_accepts hdir).2 ⟨haccepts.limits, ?_, ?_⟩ <;> intro hthere
  · exact haccepts.free (hthere.of_keeps hmore)
  · exact haccepts.temporary_free (hthere.of_keeps hmore)

/-- All documents that were written could be written at the start. -/
theorem writable_of_writes (hmade : Prepared output start made)
    (hkeeps : KeepsDirectories start before) (hplain : ∀ document ∈ documents, Plain document)
    (h : Writes (some output) documents before after) :
    ∀ document ∈ documents, Writable output (made document.1) document := by
  induction documents generalizing before with
  | nil => exact fun _ hmem ↦ absurd hmem List.not_mem_nil
  | cons document documents ih =>
    obtain ⟨between, hwrite, hrest⟩ := h
    rw [List.forall_mem_cons] at hplain ⊢
    obtain ⟨-, content, place, -, hwritten⟩ := Artifact.written_of_write hwrite
    exact ⟨writable_of_write hmade hkeeps hplain.1 hwrite,
      ih (hkeeps.trans hwritten.keeps) hplain.2 hrest⟩

end Export

end ConfigTables
