import ConfigTables.Proofs.File.Rewriting
import ConfigTables.Proofs.Run.Completion

/-!
# Running again

A run leaves each of its documents settled: it is in its place, and nothing is in the way of writing
it again (`Export.settled_of_writes`). A tree in which documents are settled sustains the writing of
these documents, and is no different afterwards (`Export.sustains_unchanged`).

So a second run retraces the first. It finds the same workbooks, because no document is called what
a workbook is called. It reads in them what the first run has read, and it writes the documents that
are there (`Batch.exists_rerun`). The one thing that can keep it from this is the list of the
directory: all that is in it is looked at under the path that was given for the directory, and the
first run may have written a document there whose path is then too long. The second run stops at it
and changes nothing (`Batch.rerun_of_report`).
-/

namespace ConfigTables

/-! ### Documents that were written -/

namespace Export

open FileTree

variable {output written : Path} {tree before after : FileTree}
  {document other : Audience × Document} {documents : List (Audience × Document)}

/-- A document is in its place, and nothing is in the way of writing it again. -/
def Settled (output : Path) (tree : FileTree) (document : Audience × Document) : Prop :=
  Artifact.Settled tree (output.entry (directory document.1)) (document.2.fileName ++ ".json")
    (content document)

/-- The places of a document are in the directory of its audience. -/
theorem arrival_append_eq_place {base : Location} (h : tree.walk output = .ok base)
    (document : Audience × Document) :
    tree.arrival (output.entry (directory document.1)) ++ [document.2.fileName ++ ".json"] =
        place base document ∧
      tree.arrival (output.entry (directory document.1)) ++
          [document.2.fileName ++ ".json" ++ ".tmp"] =
        temporaryPlace base document := by
  have hbase : tree.arrival output = base := (spec_of_follow h).1.symm
  rw [arrival_entry (ordinary_directory document.1), hbase, List.append_assoc, List.append_assoc,
    String.append_assoc]
  exact ⟨rfl, rfl⟩

/-- A document that has just been written is settled. -/
theorem settled_of_write (hplain : Plain document)
    (h : Artifact.write (path output document) (.ofDatum document.2.toDatum) before =
      .ok written after) :
    Settled output after document := by
  obtain ⟨htext, -⟩ := Artifact.written_of_write_ofDatum h
  rw [path_eq hplain, file] at h
  have hname := ordinary_jsonName document.2.fileName
  exact (Artifact.settled_of_write hname (Artifact.text_ofDatum htext) h).2

/-- **One more document**: a settled document stays settled while one is written that differs from
it in audience or file name. -/
theorem Settled.write (hsettled : Settled output before document) (hplain : Plain other)
    (hkey : key other ≠ key document)
    (h : Artifact.write (path output other) (.ofDatum other.2.toDatum) before =
      .ok written after) :
    Settled output after document := by
  obtain ⟨htext, -, parent, hwritten⟩ := Artifact.written_of_write_ofDatum h
  obtain ⟨base, hplaced, hplace, htemporary⟩ := placed_of_written hplain hwritten
  obtain ⟨hplace', htemporary'⟩ := arrival_append_eq_place hplaced.base_located document
  rw [arrival_of_keeps hwritten.keeps] at hplace' htemporary'
  -- Neither the target nor its temporary file is that of the settled document.
  refine hsettled.of_written hwritten ?_ ?_ ?_ fun hthere ↦ ?_
  · rw [hplace', hplace]
    exact fun heq ↦ hkey (place_inj heq).symm
  · rw [hplace', htemporary]
    exact (temporaryPlace_ne_place base other document).symm
  · rw [htemporary', hplace]
    exact temporaryPlace_ne_place base document other
  · -- The directories that are new are on the way to that of an audience.
    rw [path_eq hplain, file] at h
    obtain ⟨⟨made, hmake, hbounded⟩, -⟩ := Artifact.settled_of_write
      (ordinary_jsonName other.2.fileName) (Artifact.text_ofDatum htext) h
    have hfree : before.lookup (before.arrival (output.entry (directory document.1)) ++
        [document.2.fileName ++ ".json" ++ ".tmp"]) ≠ some .directory := by
      simp [hsettled.temporary_free]
    have hclear := clear_of_lookup (Disk.makeDirectories_of_hasDirectory hsettled.is_there) hfree
    rcases (Disk.lookup_of_makeDirectories hmake).1 (hbounded _ hthere) with hstart | hway
    · exact hclear.1 hstart
    · exact hclear.2 other.1 hway

/-- A settled document stays settled while others are written. -/
theorem Settled.writes (h : Settled output before document)
    (hwrites : Writes (some output) documents before after)
    (hplain : ∀ other ∈ documents, Plain other)
    (hkey : ∀ other ∈ documents, key other ≠ key document) : Settled output after document := by
  induction documents generalizing before with
  | nil =>
    cases hwrites
    exact h
  | cons other documents ih =>
    obtain ⟨between, hwrite, hrest⟩ := hwrites
    rw [List.forall_mem_cons] at hplain hkey
    exact ih (h.write hplain.1 hkey.1 hwrite) hrest hplain.2 hkey.2

/-- **All documents**: writing documents of which no two have the same audience and file name leaves
all of them settled. -/
theorem settled_of_writes (h : Writes (some output) documents before after)
    (hplain : ∀ document ∈ documents, Plain document) (hkeys : (documents.map key).Nodup) :
    ∀ document ∈ documents, Settled output after document := by
  induction documents generalizing before with
  | nil => exact fun _ hmem ↦ absurd hmem List.not_mem_nil
  | cons document documents ih =>
    obtain ⟨between, hwrite, hrest⟩ := h
    rw [List.forall_mem_cons] at hplain ⊢
    rw [List.map_cons, List.nodup_cons] at hkeys
    refine ⟨?_, ih hrest hplain.2 hkeys.2⟩
    refine (settled_of_write hplain.1 hwrite).writes hrest hplain.2 fun other hmem heq ↦ ?_
    exact hkeys.1 (heq ▸ List.mem_map_of_mem hmem)

/-- Writing documents enters no place twice. -/
theorem distinct_of_writes (h : before.Distinct)
    (hwrites : Writes (some output) documents before after) : after.Distinct := by
  induction documents generalizing before with
  | nil =>
    cases hwrites
    exact h
  | cons document documents ih =>
    obtain ⟨between, hwrite, hrest⟩ := hwrites
    exact ih (Artifact.distinct_of_write h hwrite) hrest

/-- A tree sustains the writing of documents that are settled in it, and stays unchanged. -/
theorem sustains_unchanged (output : Path) (start : FileTree) :
    Sustains output (Unchanged start) (Settled output start) := by
  intro before document hunchanged hplain htext hsettled
  have hname := ordinary_jsonName document.2.fileName
  obtain ⟨after, hwrite, hunchanged'⟩ := Artifact.exists_rewrite hname (Artifact.text_ofDatum htext)
    (Artifact.Settled.of_unchanged hsettled hunchanged)
  rw [path_eq hplain, file]
  exact ⟨after, hwrite, hunchanged.trans hunchanged'⟩

end Export

namespace Batch

variable {reader : WorkbookReader} {delimiter : Delimiter} {tree : FileTree} {input output : Path}
  {location : Location} {report : Report} {state : BatchState}

/-! ### The second run -/

/-- **Retracing**: a run that returns a report can be repeated from the tree that it leaves, if the
input directory can still be listed. It returns the same report and leaves the tree as it is. -/
theorem exists_rerun (htree : tree.Distinct)
    (h : convertAll reader delimiter input (some output) { tree } = .ok report state)
    (hlist : Workbook.Listable state.tree input location) :
    Workbook.find? state.tree input = Workbook.find? tree input ∧ ∃ state',
      convertAll reader delimiter input (some output) { tree := state.tree } = .ok report state' ∧
        state.tree.Unchanged state'.tree := by
  obtain ⟨location', found, hinput, hfound, hprogress, rfl⟩ := progress_of_export h
  have hexports := hprogress.exports
  cases hlist.located.symm.trans (FileTree.locate_of_keeps hexports.keeps hinput.located)
  have hnames : Workbook.names state.tree location = Workbook.names tree location := by
    refine Workbook.names_eq_of_files htree
      (Export.distinct_of_writes htree hprogress.writes) fun name hname ↦ ?_
    simp only [← FileTree.fileAt?_eq_some_iff, hexports.fileAt?_of_isName hname]
  -- The second run comes across the findings of the first.
  have hfound' : List.Forall₂
      (fun name ↦ Finds reader delimiter state.tree (input.entry name))
      (Workbook.names state.tree location) found := by
    rw [hnames]
    exact forall₂_finds_congr hfound fun name hname ↦
      (Export.load_of_exports reader hexports hinput hname).symm
  -- Its documents are therefore those that the first run has left settled.
  have hsettled : AllFit (Export.Settled output state.tree) [] found.flatten :=
    Export.settled_of_writes hprogress.writes (fun _ ↦ Finding.plain_of_mem_documents)
      (Finding.nodup_documents [] _)
  obtain ⟨report', state', hrun, hunchanged⟩ := exists_export_of_fit hlist
    (Export.sustains_unchanged output state.tree) (.refl state.tree) hfound' hsettled
  obtain ⟨hprogress', rfl⟩ := progress_of_finds hlist hfound' hrun
  refine ⟨?_, state', ?_, hunchanged⟩
  · rw [Workbook.find?_eq_ok_iff.2 ⟨location, hinput, rfl⟩,
      Workbook.find?_eq_ok_iff.2 ⟨location, hlist, rfl⟩, hnames]
  · rw [hrun, hprogress.entries, hprogress'.entries, hnames]

/-- A run without an output directory changes no file. -/
theorem tree_eq_of_validation
    (h : convertAll reader delimiter input none { tree } = .ok report state) :
    state.tree = tree := by
  obtain ⟨paths, -, hadd, -⟩ := convertAll_eq_ok_iff.1 h
  obtain ⟨found, -, hprogress⟩ := (progress_start none tree).addWorkbooks
    (fun before between hprogress path _ ↦ by rw [hprogress.tree_eq]) hadd
  exact hprogress.tree_eq

/-- A run that returns a report has not touched what is called as a workbook is, wherever it is. -/
theorem fileAt?_of_convertAll {output : Option Path}
    (h : convertAll reader delimiter input output { tree } = .ok report state) {name : String}
    (hname : Workbook.isName name = true) (location : Location) :
    state.tree.fileAt? (location ++ [name]) = tree.fileAt? (location ++ [name]) := by
  rcases output with _ | output
  · rw [tree_eq_of_validation h]
  · obtain ⟨-, found, -, -, hprogress, -⟩ := progress_of_export h
    exact hprogress.exports.fileAt?_of_isName hname location

/-- **Repetition**: a run that returns a report leaves all files as they are that are called as
workbooks are. From the tree that it leaves, in which no location is listed twice if none was at the
start, running again finds the same workbooks, returns the same report and changes nothing, unless
the first run has put something in the input directory whose path is too long. Then the second run
stops at it, before it has changed anything. -/
theorem rerun_of_report {output : Option Path} (htree : tree.Distinct)
    (h : convertAll reader delimiter input output { tree } = .ok report state) :
    ∃ location, Workbook.Listable tree input location ∧
      (∀ name, Workbook.isName name = true →
        state.tree.fileAt? (location ++ [name]) = tree.fileAt? (location ++ [name])) ∧
      ((Workbook.find? state.tree input = Workbook.find? tree input ∧
          ∃ state', convertAll reader delimiter input output { tree := state.tree } =
              .ok report state' ∧
            state.tree.Unchanged state'.tree) ∨
        ∃ name, tree.lookup (location ++ [name]) = none ∧
          (state.tree.lookup (location ++ [name])).isSome ∧
          (input.entry name).isTooLong = true ∧
          Workbook.find? state.tree input = .error (.tooLong (input.entry name)) ∧
          convertAll reader delimiter input output { tree := state.tree } =
            .error (.file (.tooLong (input.entry name))) { tree := state.tree }) := by
  obtain ⟨paths, hfind, -, -⟩ := convertAll_eq_ok_iff.1 h
  obtain ⟨location, hinput, -⟩ := Workbook.find?_eq_ok_iff.1 hfind
  refine ⟨location, hinput, fun name hname ↦ fileAt?_of_convertAll h hname location, ?_⟩
  rcases output with _ | output
  · rw [tree_eq_of_validation h]
    exact .inl ⟨rfl, state, h, tree_eq_of_validation h ▸ .refl tree⟩
  · obtain ⟨-, found, -, -, hprogress, -⟩ := progress_of_export h
    have hkeeps := hprogress.exports.keeps
    rcases Workbook.listable_or_tooLong (FileTree.locate_of_keeps hkeeps hinput.located)
      (hkeeps.directory _ hinput.is_directory) with hlist | ⟨⟨name, entry⟩, hchild, hlong, herror⟩
    · exact .inl (exists_rerun htree h hlist)
    · have hthere := FileTree.isSome_lookup_of_mem (Workbook.mem_children.1 hchild)
      refine .inr ⟨name, ?_, hthere, hlong, herror, convertAll_of_find?_eq_error herror⟩
      -- The input directory could be listed at the start, so no path in it was too long.
      refine Option.eq_none_iff_forall_ne_some.2 fun entry' hlookup ↦ ?_
      have hne : location ++ [name] ≠ [] :=
        List.append_ne_nil_of_right_ne_nil _ (List.cons_ne_nil _ _)
      have hmem := Workbook.mem_children.2
        ((FileTree.mem_entries_iff_lookup htree hne).2 hlookup)
      exact absurd (hinput.within_limits _ hmem) (by simp [hlong])

theorem find?_sampleExport (content : String) :
    Workbook.find? (sampleExport content) sampleInput =
      .ok (some [sampleInput.entry "a.xlsx"]) := by
  have hnames : Workbook.names (sampleExport content) ["in"] = ["a.xlsx"] :=
    List.perm_singleton.1 (Workbook.names_perm (sampleExport content) ["in"])
  refine Workbook.find?_eq_ok_iff.2 ⟨["in"], ⟨rfl, rfl, ?_⟩, by rw [hnames]; rfl⟩
  intro child hchild
  rw [List.mem_singleton.1 hchild]
  rfl

/-- The run over the sample directory leaves the tree with the two documents. -/
theorem tree_of_sampleBook {failure : ReadFailure}
    (h : convertAll (sampleReader failure) .comma sampleInput (some sampleOutput)
      { tree := sampleBook } = .ok report state) :
    state.tree = sampleExport (sampleDocument.toDatum.json ++ "\n") := by
  obtain ⟨hprogress, -⟩ := progress_of_finds listable_sampleBook (finds_sampleBook failure) h
  have hwrites := hprogress.writes
  rw [List.flatten_singleton, documents_sampleFinding] at hwrites
  obtain ⟨between, hserver, after, hclient, htree⟩ := hwrites
  obtain ⟨hserver', hclient'⟩ := writeText_sampleBook (sampleDocument.toDatum.json ++ "\n")
  rw [Artifact.write_eq_writeText (Artifact.text_ofDatum hasText_sampleDocument)] at hserver hclient
  cases hserver.symm.trans hserver'
  cases hclient.symm.trans hclient'
  exact htree

/-- The run over the sample directory can be repeated. -/
theorem rerun_of_report_sampleBook :
    sampleBook.Distinct ∧ ∃ report state state',
      convertAll (sampleReader (.unreadable "truncated")) .comma sampleInput (some sampleOutput)
        { tree := sampleBook } = .ok report state ∧
      report.entries.flatMap (·.outputs) = ["out/svr/items.json", "out/client/items.json"] ∧
      convertAll (sampleReader (.unreadable "truncated")) .comma sampleInput (some sampleOutput)
        { tree := state.tree } = .ok report state' ∧
      state.tree.Unchanged state'.tree := by
  have hdistinct : sampleBook.Distinct := by
    unfold FileTree.Distinct
    decide
  obtain ⟨report, state, hrun, hlisted⟩ := convertAll_sampleBook (.unreadable "truncated")
  obtain ⟨location, -, -, ⟨-, state', hagain, hunchanged⟩ | ⟨name, -, -, -, herror, -⟩⟩ :=
    rerun_of_report hdistinct hrun
  · exact ⟨hdistinct, report, state, state', hrun, hlisted, hagain, hunchanged⟩
  · -- The documents are not in the input directory, which can be listed as before.
    rw [tree_of_sampleBook hrun, find?_sampleExport] at herror
    cases herror

/-! ### A run that cannot be repeated -/

/-- The path of the directory "o", by way of a directory in it, so many times. -/
def detour : Nat → Path
  | 0 => { parts := ["o"] }
  | n + 1 => ((detour n).entry "svr").entry ".."

/-- A workbook in the directory that documents for the server are written to. -/
def detourTree : FileTree :=
  { entries :=
      [(["o"], .directory), (["o", "svr"], .directory), (["o", "svr", "a.xlsx"], .file ⟨#[]⟩)] }

/-- This directory as input directory. Its path is so long that it can just be listed. -/
def detourInput : Path := (detour 583).entry "svr"

/-- The directory above it as output directory. -/
def detourOutput : Path := detour 0

/-- The detour grows with each time that it leads out and in again. -/
theorem utf8ByteSize_detour (n : Nat) (name : String) :
    ((detour n).entry name).text.utf8ByteSize = 7 * n + 2 + name.utf8ByteSize := by
  induction n generalizing name with
  | zero =>
    have htext : ((detour 0).entry name).text = "o/" ++ name := by
      rw [show (detour 0).entry name = (Path.entry {} "o").entry name from rfl,
        Path.text_entry_entry]
      rfl
    rw [htext, String.utf8ByteSize_append]
    rfl
  | succ n ih =>
    rw [detour, Path.text_entry_entry, Path.text_entry_entry]
    simp only [String.utf8ByteSize_append, ih]
    have hsvr : "svr".utf8ByteSize = 3 := rfl
    have hslash : "/".utf8ByteSize = 1 := rfl
    have hdots : "..".utf8ByteSize = 2 := rfl
    omega

/-- However long it is, the detour leads back to where it begins. -/
theorem walk_detour (n : Nat) : detourTree.walk (detour n) = .ok ["o"] := by
  induction n with
  | zero => rfl
  | succ n ih =>
    rw [detour, FileTree.walk_entry, FileTree.walk_entry, ih]
    rfl

theorem hasNul_detour (n : Nat) : (detour n).hasNul = false := by
  rw [Path.hasNul_eq_false_iff]
  induction n with
  | zero => decide
  | succ n ih =>
    rw [detour, Path.forall_parts_entry_iff, Path.forall_parts_entry_iff]
    exact ⟨⟨ih, by decide⟩, by decide⟩

theorem locate_detourInput : detourTree.locate detourInput = .ok ["o", "svr"] := by
  refine FileTree.locate_eq_ok_iff.2 ⟨?_, ?_, ?_⟩
  · rw [Path.hasNul_eq_false_iff, detourInput, Path.forall_parts_entry_iff,
      ← Path.hasNul_eq_false_iff]
    exact ⟨hasNul_detour 583, by decide⟩
  · rw [Path.isTooLong, detourInput, utf8ByteSize_detour]
    rfl
  · rw [detourInput, FileTree.walk_entry, walk_detour]
    rfl

/-- An entry of the directory can be looked at if its name has eight bytes at the most. -/
theorem isTooLong_detourInput (name : String) :
    (detourInput.entry name).isTooLong = decide (8 < name.utf8ByteSize) := by
  have hsize : (detourInput.entry name).text.utf8ByteSize = 4087 + name.utf8ByteSize := by
    rw [detourInput, Path.text_entry_entry, String.utf8ByteSize_append, String.utf8ByteSize_append,
      utf8ByteSize_detour]
    rfl
  rw [Path.isTooLong, hsize]
  exact decide_eq_decide.2 (by simp only [Path.maxSize]; omega)

theorem listable_detourTree : Workbook.Listable detourTree detourInput ["o", "svr"] := by
  refine ⟨locate_detourInput, rfl, fun child hchild ↦ ?_⟩
  rw [List.mem_singleton.1 hchild, isTooLong_detourInput]
  rfl

theorem names_detourTree : Workbook.names detourTree ["o", "svr"] = ["a.xlsx"] :=
  List.perm_singleton.1 ((Workbook.names_perm detourTree ["o", "svr"]).trans (by decide))

theorem finds_detourTree : List.Forall₂
    (fun name ↦ Finds (sampleReader (.unreadable "truncated")) .comma detourTree
      (detourInput.entry name))
    (Workbook.names detourTree ["o", "svr"]) [[sampleFinding]] := by
  have hlocate : detourTree.locate (detourInput.entry "a.xlsx") = .ok ["o", "svr", "a.xlsx"] := by
    rw [FileTree.locate_entry locate_detourInput rfl (Workbook.ordinary_of_isName (by decide)),
      FileTree.entryLocation_eq_ok_iff, isTooLong_detourInput, Path.hasNul_eq_false_iff,
      Path.forall_parts_entry_iff, ← Path.hasNul_eq_false_iff]
    have hnul := (FileTree.locate_eq_ok_iff.1 locate_detourInput).1
    exact ⟨⟨⟨hnul, by decide⟩, rfl, by decide⟩, rfl⟩
  have hload : Workbook.load (sampleReader (.unreadable "truncated")) detourTree
      (detourInput.entry "a.xlsx") = .ok [sampleTab.squared] := by
    have hformat : Workbook.format? (detourInput.entry "a.xlsx").name = some .xlsx := by
      rw [Path.name_entry]
      rfl
    have hread : sampleReader (.unreadable "truncated") ["o", "svr", "a.xlsx"] (.file ⟨#[]⟩) =
        .ok [sampleTab] := rfl
    exact Workbook.load_eq_ok hlocate rfl hformat hread
  have hresults : List.Forall₂
      (fun tab result ↦ TabResult.ofTab .comma tab.name tab.data = .ok result)
      [sampleTab.squared] [{ outcome := .config sampleSheet, rows := sampleRows }] :=
    .cons rfl .nil
  have hfinds := Finds.tabs hload hresults
  rw [Path.name_entry] at hfinds
  rw [names_detourTree]
  exact .cons hfinds .nil

/-- The directory above the workbook once the directory of an audience is made. -/
def detourMade : Audience → FileTree
  | .server => detourTree
  | .client => { entries := (["o", "client"], .directory) :: detourTree.entries }

/-- The directories of the output are there already. -/
theorem prepared_detourTree : Export.Prepared detourOutput detourTree detourMade := by
  intro audience
  cases audience <;> rfl

/-- Both documents of the tab can be written over the detour. -/
theorem writable_detourTree : ∀ document ∈ [(Audience.server, sampleDocument),
    (.client, sampleDocument)], Export.Writable detourOutput (detourMade document.1) document := by
  have hnul : '\x00' ∉ sampleDocument.fileName.toList := by decide
  have hsize : (sampleDocument.fileName ++ ".json.tmp").utf8ByteSize ≤ FileTree.maxNameSize := by
    decide
  intro document hmem
  simp only [List.mem_cons, List.not_mem_nil, or_false] at hmem
  rcases hmem with rfl | rfl
  · exact ⟨hnul, hsize, by decide, FileTree.not_hasDirectory_of_entry? rfl,
      FileTree.not_hasDirectory_of_entry? rfl⟩
  · exact ⟨hnul, hsize, by decide, FileTree.not_hasDirectory_of_entry? rfl,
      FileTree.not_hasDirectory_of_entry? rfl⟩

/-- A run that returns a report and cannot be repeated. It has put a document in the input
directory, and under the path that was given for this directory the path of the document is too
long. -/
theorem no_rerun_of_detour :
    detourTree.Distinct ∧ ∃ report state,
      convertAll (sampleReader (.unreadable "truncated")) .comma detourInput (some detourOutput)
        { tree := detourTree } = .ok report state ∧
      ∀ report' state',
        convertAll (sampleReader (.unreadable "truncated")) .comma detourInput (some detourOutput)
          { tree := state.tree } ≠ .ok report' state' := by
  have hdistinct : detourTree.Distinct := by
    unfold FileTree.Distinct
    decide
  obtain ⟨report, state, hrun⟩ := exists_export listable_detourTree prepared_detourTree
    finds_detourTree writable_detourTree
  refine ⟨hdistinct, report, state, hrun, fun report' state' hagain ↦ ?_⟩
  obtain ⟨hprogress, -⟩ := progress_of_finds listable_detourTree finds_detourTree hrun
  have hexports := hprogress.exports
  have hafter := Export.distinct_of_writes hdistinct hprogress.writes
  obtain ⟨paths, hfind, -, -⟩ := convertAll_eq_ok_iff.1 hagain
  obtain ⟨location, hinput, -⟩ := Workbook.find?_eq_ok_iff.1 hfind
  cases hinput.located.symm.trans (FileTree.locate_of_keeps hexports.keeps locate_detourInput)
  -- The document for the server is in the input directory, and its name has ten bytes.
  obtain ⟨base, hplaced, hcontent⟩ :=
    hexports.published (.server, sampleDocument) List.mem_cons_self
  cases hplaced.base_located.symm.trans (FileTree.walk_of_keeps hexports.keeps (walk_detour 0))
  have hmem : ("items.json", Entry.file (Export.content (.server, sampleDocument))) ∈
      state.tree.children ["o", "svr"] :=
    Workbook.mem_children.2 ((FileTree.mem_entries_iff_lookup hafter (List.cons_ne_nil _ _)).2
      (FileTree.fileAt?_eq_some_iff.1 hcontent))
  have hshort := hinput.within_limits _ hmem
  rw [isTooLong_detourInput] at hshort
  exact absurd hshort (by decide)

end Batch

end ConfigTables
