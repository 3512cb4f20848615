import ConfigTables.Proofs.Datum.Json
import ConfigTables.Proofs.File.Artifact
import ConfigTables.Run.Export

/-!
# Writing documents one after the other

A document goes to the directory of its audience below the output directory, under its file name. If
the file name has no slash, that is one location and no other: below the place where the output
directory is, in the directory of the audience, under the name itself (`Export.exports_of_write`).
While it is written, its temporary file stands beside it.

So documents that differ in audience or file name do not get into each other's way, and no temporary
file is ever where a document is: their names end differently. Writing any number of them leaves
each with its text, and all other files as they were but for the temporary ones, which are gone
(`Export.exports_of_writes`).
-/

namespace ConfigTables

namespace Export

/-- The file of the given name in the directory of an audience. -/
def file (output : Path) (audience : Audience) (fileName : String) : Path :=
  (output.entry (directory audience)).entry (fileName ++ ".json")

/-- The path of a document below the output directory. -/
def path (output : Path) (document : Audience × Document) : Path :=
  target output document.1 document.2.fileName

/-- One tree comes from another by writing documents, one after the other. Without an output
directory nothing is written. -/
def Writes : Option Path → List (Audience × Document) → FileTree → FileTree → Prop
  | none, _, before, after => after = before
  | some _, [], before, after => after = before
  | some output, document :: documents, before, after =>
    ∃ between, Artifact.write (path output document) (.ofDatum document.2.toDatum) before =
        .ok (path output document) between ∧
      Writes (some output) documents between after

theorem writes_append {output : Option Path} {documents more : List (Audience × Document)}
    {before after : FileTree} : Writes output (documents ++ more) before after ↔
      ∃ between, Writes output documents before between ∧ Writes output more between after := by
  rcases output with _ | output
  · simp [Writes]
  · induction documents generalizing before with
    | nil => simp [Writes]
    | cons document documents ih =>
      simp only [List.cons_append, Writes, ih]
      constructor
      · rintro ⟨first, hfirst, between, hdocuments, hmore⟩
        exact ⟨between, ⟨first, hfirst, hdocuments⟩, hmore⟩
      · rintro ⟨between, ⟨first, hfirst, hdocuments⟩, hmore⟩
        exact ⟨first, hfirst, between, hdocuments, hmore⟩

/-- The paths that are written for documents. -/
def paths (output : Option Path) (documents : List (Audience × Document)) : List Path :=
  output.elim [] fun output ↦ documents.map (path output)

/-- What a document is written as. -/
def content (document : Audience × Document) : ByteArray :=
  (document.2.toDatum.json ++ "\n").toUTF8

/-! ### The places of documents -/

/-- A document whose file name has no slash. -/
def Plain (document : Audience × Document) : Prop :=
  '/' ∉ document.2.fileName.toList

/-- Where a document is, from where the output directory is. -/
def place (base : Location) (document : Audience × Document) : Location :=
  base ++ [directory document.1, document.2.fileName ++ ".json"]

/-- Where the temporary file of a document is. -/
def temporaryPlace (base : Location) (document : Audience × Document) : Location :=
  base ++ [directory document.1, document.2.fileName ++ ".json.tmp"]

/-- By what documents are told apart. -/
def key (document : Audience × Document) : Audience × String :=
  (document.1, document.2.fileName)

theorem directory_inj {audience other : Audience} (h : directory audience = directory other) :
    audience = other := by
  cases audience <;> cases other <;> first | rfl | exact absurd h (by decide)

theorem place_inj {base : Location} {document other : Audience × Document}
    (h : place base document = place base other) : key document = key other := by
  simp only [place, List.append_cancel_left_eq, List.cons.injEq, and_true] at h
  rw [key, key, directory_inj h.1, (String.append_left_inj _).1 h.2]

/-- A temporary file is never where a document is, since their names end differently. -/
theorem temporaryPlace_ne_place (base : Location) (document other : Audience × Document) :
    temporaryPlace base document ≠ place base other := by
  intro h
  simp only [temporaryPlace, place, List.append_cancel_left_eq, List.cons.injEq, and_true] at h
  have hlast := congrArg (fun name : String ↦ name.toList.getLast?) h.2
  simp [String.toList_append] at hlast

theorem ordinary_jsonName (fileName : String) : FileTree.Ordinary (fileName ++ ".json") :=
  FileTree.ordinary_of_length (by
    rw [String.length_append, show ".json".length = 5 from rfl]
    omega)

theorem ordinary_directory (audience : Audience) : FileTree.Ordinary (directory audience) := by
  cases audience <;> exact FileTree.ordinary_of_length (by decide)

/-- A file name without a slash leads to the directory of the audience and no further. -/
theorem path_eq {document : Audience × Document} (h : Plain document) (output : Path) :
    path output document = file output document.1 document.2.fileName := by
  obtain ⟨hempty, hdot, -⟩ := ordinary_jsonName document.2.fileName
  obtain ⟨hempty', hdot', -⟩ := ordinary_directory document.1
  have hslash : '/' ∉ (directory document.1).toList := by
    cases document.1 <;> decide
  have hslash' : '/' ∉ (document.2.fileName ++ ".json").toList := by
    rw [String.toList_append, List.mem_append, not_or]
    exact ⟨h, by decide⟩
  rw [path, target, file, Path.child_eq_entry hslash hempty' hdot',
    Path.child_eq_entry hslash' hempty hdot]

/-! ### What writing changes -/

/-- The paths of a document and of its temporary file lead to their places. -/
structure Placed (output : Path) (tree : FileTree) (base : Location)
    (document : Audience × Document) : Prop where
  base_located : tree.walk output = .ok base
  located : tree.locate (path output document) = .ok (place base document)
  temporary_located :
    tree.locate (Artifact.temporary (path output document)) = .ok (temporaryPlace base document)

theorem Placed.of_keeps {output : Path} {before after : FileTree} {base : Location}
    {document : Audience × Document} (h : Placed output before base document)
    (hkeeps : FileTree.KeepsDirectories before after) : Placed output after base document :=
  ⟨FileTree.walk_of_keeps hkeeps h.base_located, FileTree.locate_of_keeps hkeeps h.located,
    FileTree.locate_of_keeps hkeeps h.temporary_located⟩

/-- One tree comes from another by writing documents: they are in their places, and a file that is
none of them is as it was, unless it was in the place of a temporary file and is gone. -/
structure Exports (output : Path) (documents : List (Audience × Document))
    (before after : FileTree) : Prop where
  keeps : FileTree.KeepsDirectories before after
  published : ∀ document ∈ documents, ∃ base, Placed output after base document ∧
    after.fileAt? (place base document) = some (content document)
  frame : ∀ location,
    (∀ document ∈ documents, after.locate (path output document) ≠ .ok location) →
    after.fileAt? location = before.fileAt? location ∨
      after.fileAt? location = none ∧ ∃ document ∈ documents,
        after.locate (Artifact.temporary (path output document)) = .ok location

theorem exports_nil (output : Path) (tree : FileTree) : Exports output [] tree tree :=
  ⟨.refl tree, by simp, fun _ _ ↦ .inl rfl⟩

/-- What is written to the path of a document is written to its place. -/
theorem placed_of_written {output : Path} {document : Audience × Document} (hplain : Plain document)
    {text : String} {parent : Location} {before after : FileTree}
    (h : Artifact.Written (path output document) text parent before after) :
    ∃ base, Placed output after base document ∧
      parent ++ [(path output document).name] = place base document ∧
      parent ++ [(path output document).name ++ ".tmp"] = temporaryPlace base document := by
  -- The parent is the directory of the audience, which stands in that of the output.
  obtain ⟨base, hbase, rfl⟩ : ∃ base, after.walk output = .ok base ∧
      parent = base ++ [directory document.1] := by
    have hparent := h.parent_located
    rw [path_eq hplain, file, Path.parent_entry] at hparent
    have hwalk := (FileTree.locate_eq_ok_iff.1 hparent).2.2
    rw [FileTree.walk_entry] at hwalk
    obtain ⟨base, hbase, hfollow⟩ := Except.bind_eq_ok_iff.1 hwalk
    have hordinary := ordinary_directory document.1
    exact ⟨base, hbase, (FileTree.follow_ordinary_eq_ok hordinary hfollow).2⟩
  have hname : (path output document).name = document.2.fileName ++ ".json" := by
    rw [path_eq hplain, file, Path.name_entry]
  have hplace : base ++ [directory document.1] ++ [(path output document).name] =
      place base document := by
    rw [hname, List.append_assoc]
    rfl
  have htemporary : base ++ [directory document.1] ++ [(path output document).name ++ ".tmp"] =
      temporaryPlace base document := by
    rw [hname, List.append_assoc, String.append_assoc]
    rfl
  exact ⟨base, ⟨hbase, hplace ▸ h.located, htemporary ▸ h.temporary_located⟩, hplace, htemporary⟩

/-- **One document**: writing a document puts it in its place. -/
theorem exports_of_write {output written : Path} {document : Audience × Document}
    (hplain : Plain document) {before after : FileTree}
    (h : Artifact.write (path output document) (.ofDatum document.2.toDatum) before =
      .ok written after) :
    Exports output [document] before after := by
  obtain ⟨-, -, parent, hwritten⟩ := Artifact.written_of_write_ofDatum h
  obtain ⟨base, hplaced, hplace, htemporary⟩ := placed_of_written hplain hwritten
  refine ⟨hwritten.keeps, ?_, fun location hother ↦ ?_⟩
  · intro other hmem
    rw [List.mem_singleton] at hmem
    subst hmem
    exact ⟨base, hplaced, hplace ▸ hwritten.written⟩
  · -- Only the place of the document and that of its temporary file have changed.
    have hne : location ≠ place base document := by
      rintro rfl
      exact hother document (List.mem_singleton_self _) hplaced.located
    by_cases htemp : location = temporaryPlace base document
    · subst htemp
      refine .inr ⟨htemporary ▸ hwritten.temporary_gone, document, List.mem_singleton_self _, ?_⟩
      exact hplaced.temporary_located
    · exact .inl (hwritten.frame location (hplace ▸ hne) (htemporary ▸ htemp))

/-- Writing documents leaves alone a document that differs from all of them in audience or file
name: neither a document nor a temporary file gets to its place. -/
theorem Exports.fileAt?_place {output : Path} {document : Audience × Document}
    {documents : List (Audience × Document)} {before after : FileTree} {base : Location}
    (h : Exports output documents before after) (hplaced : Placed output after base document)
    (hkey : ∀ other ∈ documents, key other ≠ key document) :
    after.fileAt? (place base document) = before.fileAt? (place base document) := by
  -- All places are below one base, since the output directory is in one location.
  have hbase : ∀ other ∈ documents, Placed output after base other := by
    intro other hother
    obtain ⟨base', hplaced', -⟩ := h.published other hother
    have heq := hplaced.base_located.symm.trans hplaced'.base_located
    rwa [← Except.ok.inj heq] at hplaced'
  have hapart : ∀ other ∈ documents,
      after.locate (path output other) ≠ .ok (place base document) := by
    intro other hother hlocate
    have heq := (hbase other hother).located.symm.trans hlocate
    exact hkey other hother (place_inj (Except.ok.inj heq))
  rcases h.frame (place base document) hapart with hsame | ⟨-, other, hother, htemporary⟩
  · exact hsame
  · have heq := (hbase other hother).temporary_located.symm.trans htemporary
    exact absurd (Except.ok.inj heq) (temporaryPlace_ne_place base other document)

/-- **One more document**: documents that are written later leave an earlier one in its place if it
differs from them in audience or file name. -/
theorem Exports.cons {output : Path} {document : Audience × Document}
    {documents : List (Audience × Document)} {before between after : FileTree}
    (h : Exports output [document] before between) (h' : Exports output documents between after)
    (hkey : ∀ other ∈ documents, key other ≠ key document) :
    Exports output (document :: documents) before after := by
  refine ⟨h.keeps.trans h'.keeps, ?_, fun location hother ↦ ?_⟩
  · intro other hmem
    rcases List.mem_cons.1 hmem with rfl | hmem
    · obtain ⟨base, hplaced, hcontent⟩ := h.published other (List.mem_singleton_self _)
      have hplaced' := hplaced.of_keeps h'.keeps
      exact ⟨base, hplaced', (h'.fileAt?_place hplaced' hkey).trans hcontent⟩
    · exact h'.published other hmem
  · have hfirst : ∀ other ∈ [document], between.locate (path output other) ≠ .ok location := by
      intro other hmem hlocate
      rw [List.mem_singleton] at hmem
      subst hmem
      exact hother other List.mem_cons_self (FileTree.locate_of_keeps h'.keeps hlocate)
    have hrest : ∀ other ∈ documents, after.locate (path output other) ≠ .ok location :=
      fun other hmem ↦ hother other (List.mem_cons_of_mem _ hmem)
    -- What the later ones leave alone is as the first one has left it.
    rcases h'.frame location hrest with hsame | ⟨hgone, other, hmem, htemporary⟩
    · rcases h.frame location hfirst with hsame' | ⟨hgone, other, hmem, htemporary⟩
      · exact .inl (hsame.trans hsame')
      · rw [List.mem_singleton] at hmem
        subst hmem
        refine .inr ⟨hsame.trans hgone, other, List.mem_cons_self, ?_⟩
        exact FileTree.locate_of_keeps h'.keeps htemporary
    · exact .inr ⟨hgone, other, List.mem_cons_of_mem _ hmem, htemporary⟩

/-- **All documents**: writing documents of which no two have the same audience and file name puts
each of them in its place and changes no other file, temporary ones aside. -/
theorem exports_of_writes {output : Path} {documents : List (Audience × Document)}
    {before after : FileTree} (h : Writes (some output) documents before after)
    (hplain : ∀ document ∈ documents, Plain document) (hkeys : (documents.map key).Nodup) :
    Exports output documents before after := by
  induction documents generalizing before with
  | nil =>
    cases h
    exact exports_nil output after
  | cons document documents ih =>
    obtain ⟨between, hwrite, hrest⟩ := h
    rw [List.forall_mem_cons] at hplain
    rw [List.map_cons, List.nodup_cons] at hkeys
    refine (exports_of_write hplain.1 hwrite).cons (ih hrest hplain.2 hkeys.2) ?_
    intro other hmem heq
    exact hkeys.1 (heq ▸ List.mem_map_of_mem hmem)

/-- The written form of the path of a file tells its audience and its name. -/
theorem file_text_inj {output : Path} {audience other : Audience} {fileName name : String}
    (h : (file output audience fileName).text = (file output other name).text) :
    audience = other ∧ fileName = name := by
  obtain ⟨stem, hstem⟩ := Path.exists_text_append output
  have htext (audience : Audience) (fileName : String) : (file output audience fileName).text =
      stem ++ (directory audience ++ "/" ++ (fileName ++ ".json")) := by
    have hparts : file output audience fileName =
        { output with parts := output.parts ++ [directory audience, fileName ++ ".json"] } := by
      simp [file, Path.entry]
    rw [hparts, hstem _ (List.cons_ne_nil _ _), String.intercalate_cons_cons,
      String.intercalate_singleton]
  rw [htext, htext, String.append_right_inj] at h
  have haudience : audience = other := by
    have hhead := congrArg (fun name : String ↦ name.toList.head?) h
    cases audience <;> cases other <;> first
      | rfl
      | simp [directory, String.toList_append] at hhead
  subst haudience
  rw [String.append_right_inj, String.append_left_inj] at h
  exact ⟨rfl, h⟩

/-- The written forms of the paths of different documents differ. -/
theorem key_eq_of_text {output : Path} {document other : Audience × Document}
    (h : Plain document) (h' : Plain other)
    (htext : (path output document).text = (path output other).text) :
    key document = key other := by
  rw [path_eq h, path_eq h'] at htext
  obtain ⟨haudience, hname⟩ := file_text_inj htext
  rw [key, key, haudience, hname]

end Export

end ConfigTables
