import ConfigTables.CommandLine.Arguments
import ConfigTables.CommandLine.TagMarkup
import ConfigTables.Proofs.CommandLine.Clock
import ConfigTables.Proofs.Report.Books
import ConfigTables.Proofs.Run.Repetition

/-!
# The records of a run

A run leaves a report and a manifest. Both give numbers of sheets, and the manifest has a digest of
every workbook, for which the input directory is listed a second time when the documents and the
report are already written. The numbers agree, because those of the report add up to its sheets
(`Report.count_add_count_add_failures`) and those of the manifest are taken from the report. The
workbooks agree, because nothing that a run writes is called what a workbook is called, so no step
of it touches one (`Workbook.Kept`), wherever the output directory is.

The exit code of a run that comes to its end is that of its report
(`CommandLine.records_of_execute`).
-/

namespace ConfigTables

/-! ### Digests -/

namespace Digests

/-- A digest under a name that has none comes after the others. -/
theorem put_of_notMem {digests : List (String × String)} {name : String}
    (h : name ∉ digests.map Prod.fst) (digest : String) :
    put digests name digest = digests ++ [(name, digest)] := by
  rw [put, List.filter_eq_self.2 fun other hother ↦ ?_]
  simp only [decide_eq_true_eq, ne_eq]
  rintro rfl
  exact h (List.mem_map_of_mem hother)

/-- The digest of a file that can be read. -/
def Describes (tree : FileTree) (path : Path) (digest : String × String) : Prop :=
  ∃ content, tree.read path = .ok content ∧ digest = (path.name, Sha256.hexDigest content)

/-- **Digests**: files that have different names and can all be read have one digest each. -/
theorem exists_ofFiles {tree : FileTree} {paths : List Path}
    (hread : ∀ path ∈ paths, ∃ content, tree.read path = .ok content)
    (hnames : (paths.map Path.name).Nodup) :
    ∃ digests, ofFiles tree paths = .ok digests ∧
      List.Forall₂ (Describes tree) paths digests := by
  obtain ⟨step, hfold, hstep⟩ : ∃ step : List (String × String) → Path → _,
      (∀ paths, ofFiles tree paths = paths.foldlM step []) ∧
      ∀ before path content, tree.read path = .ok content →
        step before path = .ok (put before path.name (Sha256.hexDigest content)) := by
    refine ⟨_, fun _ ↦ rfl, fun before path content hcontent ↦ ?_⟩
    rw [ofFile, hcontent]
    rfl
  rw [hfold]
  suffices h : ∀ before, (before.map Prod.fst ++ paths.map Path.name).Nodup →
      ∃ digests, paths.foldlM step before = .ok (before ++ digests) ∧
        List.Forall₂ (Describes tree) paths digests from h [] hnames
  clear hnames
  induction paths with
  | nil =>
    intro before _
    exact ⟨[], by rw [List.append_nil]; rfl, .nil⟩
  | cons path paths ih =>
    intro before hnames
    rw [List.forall_mem_cons] at hread
    obtain ⟨content, hcontent⟩ := hread.1
    have hnew : path.name ∉ before.map Prod.fst := by
      rw [List.map_cons] at hnames
      exact fun hmem ↦ (List.nodup_append.1 hnames).2.2 _ hmem _ List.mem_cons_self rfl
    obtain ⟨digests, hdigests, hdescribes⟩ := ih hread.2
      (before ++ [(path.name, Sha256.hexDigest content)]) (by simpa using hnames)
    refine ⟨(path.name, Sha256.hexDigest content) :: digests, ?_,
      .cons ⟨content, hcontent, rfl⟩ hdescribes⟩
    rw [List.foldlM_cons, hstep before path content hcontent, put_of_notMem hnew, Except.bind_ok,
      hdigests, List.append_assoc]
    rfl

end Digests

/-! ### Workbooks that are not touched -/

namespace Workbook

open FileTree

/-- One tree comes from another without any change to files that are called as workbooks are. No
directory is lost. -/
structure Kept (before after : FileTree) : Prop where
  keeps : KeepsDirectories before after
  files : ∀ location name, isName name = true →
    after.fileAt? (location ++ [name]) = before.fileAt? (location ++ [name])

theorem Kept.trans {first second third : FileTree} (h : Kept first second)
    (h' : Kept second third) : Kept first third :=
  ⟨h.keeps.trans h'.keeps, fun location name hname ↦
    (h'.files location name hname).trans (h.files location name hname)⟩

section

variable {before after : FileTree}

/-- Directories that are added do not touch workbooks. -/
theorem kept_of_adds (h : AddsDirectories before after) : Kept before after :=
  ⟨h.keeps, fun _ _ _ ↦ h.files _⟩

/-- Writing a text leaves workbooks alone if neither the target nor the temporary file is called
what a workbook is called. -/
theorem kept_of_written {target : Path} {content : String} {directory : Location}
    (h : Artifact.Written target content directory before after)
    (htarget : isName target.name = false) (htemporary : isName (target.name ++ ".tmp") = false) :
    Kept before after := by
  have hapart {location : Location} {name other : String} (hname : isName name = true)
      (hother : isName other = false) : location ++ [name] ≠ directory ++ [other] := by
    intro heq
    cases (List.append_inj' heq rfl).2
    cases hname.symm.trans hother
  exact ⟨h.keeps, fun location name hname ↦
    h.frame _ (hapart hname htarget) (hapart hname htemporary)⟩

/-- The same workbooks are listed. -/
theorem Kept.names_eq (h : Kept before after) (hbefore : before.Distinct) (hafter : after.Distinct)
    (location : Location) : names after location = names before location := by
  refine names_eq_of_files hbefore hafter fun name hname ↦ ?_
  simp only [← fileAt?_eq_some_iff, h.files location name hname]

/-- A workbook is read as before. -/
theorem Kept.read (h : Kept before after) {directory : Path} {name : String}
    (hname : isName name = true) {content : ByteArray}
    (hread : before.read (directory.entry name) = .ok content) :
    after.read (directory.entry name) = .ok content := by
  obtain ⟨location, hlocate, hread⟩ := Except.bind_eq_ok_iff.1 hread
  have hlocation : location = before.arrival directory ++ [name] := by
    rw [(spec_of_locate hlocate).2, arrival_entry (ordinary_of_isName hname)]
  refine read_of_fileAt? (locate_of_keeps h.keeps hlocate) ?_
  rw [hlocation, h.files _ _ hname, ← hlocation, fileAt?_eq_some_iff]
  split at hread
  · cases hread
  · cases hread
  · next hlookup => rw [hlookup, Except.ok.inj hread]

/-- The workbooks of a directory have different names. -/
theorem nodup_name_of_find? {tree : FileTree} {directory : Path} {paths : List Path}
    (htree : tree.Distinct) (h : find? tree directory = .ok (some paths)) :
    (paths.map Path.name).Nodup := by
  obtain ⟨location, -, rfl⟩ := find?_eq_ok_iff.1 h
  rw [List.map_map, show Path.name ∘ directory.entry = id from funext (Path.name_entry directory),
    List.map_id]
  exact (pairwise_names htree location).imp ne_of_lt

/-- A directory that can be listed after directories were added could be listed before. -/
theorem Listable.of_adds {directory : Path} {location : Location}
    (h : Listable after directory location)
    (hadds : AddsDirectories before after) (hbefore : before.Distinct) (hafter : after.Distinct)
    (hdir : before.HasDirectory directory) : Listable before directory location := by
  obtain ⟨location', hlocate, hdir⟩ := hdir
  cases h.located.symm.trans (locate_of_keeps hadds.keeps hlocate)
  refine ⟨hlocate, hdir, fun ⟨name, entry⟩ hchild ↦ h.within_limits (name, entry) ?_⟩
  have hne : location ++ [name] ≠ [] := List.append_ne_nil_of_right_ne_nil _ (List.cons_ne_nil _ _)
  rw [mem_children, mem_entries_iff_lookup hbefore hne] at hchild
  rw [mem_children, mem_entries_iff_lookup hafter hne]
  rcases entry with content | _
  · rw [← fileAt?_eq_some_iff, hadds.files, fileAt?_eq_some_iff]
    exact hchild
  · exact hadds.keeps.directory _ hchild

end

end Workbook

namespace Batch

/-! ### Programs that are part of a run -/

variable {α : Type} {state state' : BatchState} {a : α}

/-- A file program as part of a run changes nothing but the tree. -/
theorem ofDisk_eq_ok_iff {program : Disk α} : ofDisk program state = .ok a state' ↔
    ∃ after, program state.tree = .ok a after ∧ state' = { state with tree := after } := by
  simp only [ofDisk, ofRunDisk, RunDisk.ofDisk]
  rcases program state.tree with ⟨b, after⟩ | ⟨fault, after⟩ <;> simp [eq_comm]

/-- An answer that needs no program leaves the state of a run alone. -/
theorem ofRunDisk_ofExcept_eq_ok_iff {ε : Type} {toFault : ε → RunFault} {result : Except ε α} :
    ofRunDisk (RunDisk.ofExcept toFault result) state = .ok a state' ↔
      result = .ok a ∧ state' = state := by
  rcases result with fault | b
  · change EStateM.Result.error (toFault fault) state = .ok a state' ↔ _
    exact iff_of_false nofun fun h ↦ nomatch h.1
  · simp [ofRunDisk, RunDisk.ofExcept, pure, EStateM.pure, eq_comm (a := state')]

/-- Workbooks are listed only where there is a directory. -/
theorem workbooksIn_eq_ok_iff {tree : FileTree} {input : Path} {paths : List Path} :
    workbooksIn tree input = .ok paths ↔ Workbook.find? tree input = .ok (some paths) := by
  rw [workbooksIn]
  rcases Workbook.find? tree input with fault | _ | found <;> simp

end Batch

namespace CommandLine

open FileTree

variable {environment : Environment} {tree : FileTree} {delimiter : Delimiter} {input output : Path}
  {files : RunFiles} {state : BatchState}

/-! ### The steps of a run -/

/-- **Steps**: what a run that comes to its end has done, one step after the other. -/
theorem convertAndReport_eq_ok_iff :
    convertAndReport environment delimiter input output { tree } = .ok files state ↔
      ∃ made between reported workbooks digests after,
        Disk.makeDirectories output tree = .ok () made ∧
        Batch.convertAll environment.reader delimiter input (some output) { tree := made } =
          .ok files.report between ∧
        Export.writeReport output files.report between.tree = .ok files.reportPath reported ∧
        Workbook.find? reported input = .ok (some workbooks) ∧
        Digests.ofFiles reported workbooks = .ok digests ∧
        Export.writeManifest output (manifestOf environment.clock input output files.report digests)
          reported = .ok files.manifestPath after ∧
        state = { between with tree := after } := by
  constructor
  · intro h
    obtain ⟨_, first, hfirst, h⟩ := EStateM.bind_eq_ok_iff.1 h
    obtain ⟨made, hmake, rfl⟩ := Batch.ofDisk_eq_ok_iff.1 hfirst
    obtain ⟨report, between, hconvert, h⟩ := EStateM.bind_eq_ok_iff.1 h
    obtain ⟨reportPath, third, hthird, h⟩ := EStateM.bind_eq_ok_iff.1 h
    obtain ⟨reported, hreport, rfl⟩ := Batch.ofDisk_eq_ok_iff.1 hthird
    obtain ⟨manifestPath, last, hrecord, h⟩ := EStateM.bind_eq_ok_iff.1 h
    obtain ⟨rfl, rfl⟩ := EStateM.pure_eq_ok_iff.1 h
    -- What is recorded is asked of the tree that has the documents and the report.
    obtain ⟨_, asked, hget, hrecord⟩ := EStateM.bind_eq_ok_iff.1 hrecord
    cases hget
    obtain ⟨workbooks, _, hlist, hrecord⟩ := EStateM.bind_eq_ok_iff.1 hrecord
    obtain ⟨hworkbooks, rfl⟩ := Batch.ofRunDisk_ofExcept_eq_ok_iff.1 hlist
    obtain ⟨digests, _, hread, hrecord⟩ := EStateM.bind_eq_ok_iff.1 hrecord
    obtain ⟨hdigests, rfl⟩ := Batch.ofRunDisk_ofExcept_eq_ok_iff.1 hread
    obtain ⟨manifest, _, hcheck, hrecord⟩ := EStateM.bind_eq_ok_iff.1 hrecord
    obtain ⟨hmanifest, rfl⟩ := Batch.ofRunDisk_ofExcept_eq_ok_iff.1 hcheck
    rw [ofFields_manifestFields] at hmanifest
    cases hmanifest
    obtain ⟨after, hwrite, rfl⟩ := Batch.ofDisk_eq_ok_iff.1 hrecord
    exact ⟨made, between, reported, workbooks, digests, after, hmake, hconvert, hreport,
      Batch.workbooksIn_eq_ok_iff.1 hworkbooks, hdigests, hwrite, rfl⟩
  · rintro ⟨made, between, reported, workbooks, digests, after, hmake, hconvert, hreport, hworkbooks,
      hdigests, hmanifest, rfl⟩
    have hrecord : recordRun environment input output files.report
        { between with tree := reported } =
        .ok files.manifestPath { between with tree := after } := by
      refine EStateM.bind_eq_ok_iff.2 ⟨_, _, rfl, ?_⟩
      refine EStateM.bind_eq_ok_iff.2 ⟨workbooks, _, Batch.ofRunDisk_ofExcept_eq_ok_iff.2
        ⟨Batch.workbooksIn_eq_ok_iff.2 hworkbooks, rfl⟩, ?_⟩
      refine EStateM.bind_eq_ok_iff.2
        ⟨digests, _, Batch.ofRunDisk_ofExcept_eq_ok_iff.2 ⟨hdigests, rfl⟩, ?_⟩
      refine EStateM.bind_eq_ok_iff.2 ⟨_, _, Batch.ofRunDisk_ofExcept_eq_ok_iff.2
        ⟨ofFields_manifestFields environment input output files.report digests, rfl⟩, ?_⟩
      exact Batch.ofDisk_eq_ok_iff.2 ⟨after, hmanifest, rfl⟩
    refine EStateM.bind_eq_ok_iff.2 ⟨(), _, Batch.ofDisk_eq_ok_iff.2 ⟨made, hmake, rfl⟩, ?_⟩
    refine EStateM.bind_eq_ok_iff.2 ⟨files.report, between, hconvert, ?_⟩
    refine EStateM.bind_eq_ok_iff.2
      ⟨files.reportPath, _, Batch.ofDisk_eq_ok_iff.2 ⟨reported, hreport, rfl⟩, ?_⟩
    exact EStateM.bind_eq_ok_iff.2 ⟨files.manifestPath, _, hrecord, rfl⟩

/-- The files with the records of a run. -/
def recordFiles : List String :=
  [Export.reportFile, Export.manifestFile]

/-- Writing a record of a run touches no workbook. -/
theorem kept_of_writeRecord {file : String} (hfile : file ∈ recordFiles) {d : Datum}
    {written : Path}
    {before after : FileTree}
    (h : Artifact.write (output.child file) (.ofDatum d) before = .ok written after) :
    Workbook.Kept before after ∧ ∃ directory,
      Artifact.Written (output.child file) (d.json ++ "\n") directory before after ∧
        (output.child file).name = file := by
  have hall : ∀ file ∈ recordFiles, '/' ∉ file.toList ∧ file ≠ "" ∧ file ≠ "." ∧
      Workbook.isName file = false ∧ Workbook.isName (file ++ ".tmp") = false := by decide
  obtain ⟨hslash, hempty, hdot, htarget, htemporary⟩ := hall file hfile
  obtain ⟨-, -, directory, hwritten⟩ := Artifact.written_of_write_ofDatum h
  have hname : (output.child file).name = file := by
    rw [Path.child_eq_entry hslash hempty hdot, Path.name_entry]
  refine ⟨Workbook.kept_of_written hwritten ?_ ?_, directory, hwritten, hname⟩ <;> rw [hname]
  · exact htarget
  · exact htemporary

/-- Converting a directory touches no workbook. -/
theorem kept_of_convertAll {reader : WorkbookReader} {report : Report}
    (h : Batch.convertAll reader delimiter input (some output) { tree } = .ok report state) :
    Workbook.Kept tree state.tree := by
  obtain ⟨location, found, -, -, hprogress, -⟩ := Batch.progress_of_export h
  exact ⟨hprogress.exports.keeps, fun location name hname ↦
    hprogress.exports.fileAt?_of_isName hname location⟩

/-- **The second list**: where the report of a run is written, the workbooks are those that there
were before the run, and each of them is read as it was. -/
theorem exists_digests {made reported : FileTree} {between : BatchState} {report : Report}
    {reportPath : Path} {workbooks : List Path} {digests : List (String × String)}
    (htree : tree.Distinct) (hinput : tree.HasDirectory input)
    (hmake : Disk.makeDirectories output tree = .ok () made)
    (hconvert : Batch.convertAll environment.reader delimiter input (some output) { tree := made } =
      .ok report between)
    (hreport : Export.writeReport output report between.tree = .ok reportPath reported)
    (hworkbooks : Workbook.find? reported input = .ok (some workbooks))
    (hdigests : Digests.ofFiles reported workbooks = .ok digests)
    (hreadable : ∀ paths, Workbook.find? tree input = .ok (some paths) →
      ∀ path ∈ paths, ∃ content, tree.read path = .ok content) :
    Workbook.find? tree input = .ok (some workbooks) ∧ report.workbooks = workbooks.length ∧
      List.Forall₂ (Digests.Describes tree) workbooks digests ∧
      (workbooks.map Path.name).Nodup := by
  obtain ⟨hadds, -⟩ := Disk.adds_of_makeDirectories hmake
  have hmade := Disk.distinct_of_makeDirectoriesFrom htree hmake
  obtain ⟨location, found, hlist, -, hprogress, rfl⟩ := Batch.progress_of_export hconvert
  have hbetween := Export.distinct_of_writes hmade hprogress.writes
  have hreported := Artifact.distinct_of_write hbetween hreport
  -- No step up to the second list has touched a workbook.
  have hkept : Workbook.Kept made reported :=
    (kept_of_convertAll hconvert).trans (kept_of_writeRecord List.mem_cons_self hreport).1
  have hkept' : Workbook.Kept tree reported := (Workbook.kept_of_adds hadds).trans hkept
  have hnames := Workbook.nodup_name_of_find? hreported hworkbooks
  obtain ⟨location', hlist', rfl⟩ := Workbook.find?_eq_ok_iff.1 hworkbooks
  cases hlist'.located.symm.trans (locate_of_keeps hkept.keeps hlist.located)
  have hstart := hlist.of_adds hadds htree hmade hinput
  have hfind : Workbook.find? tree input =
      .ok (some ((Workbook.names reported location).map input.entry)) := by
    rw [hkept'.names_eq htree hreported]
    exact Workbook.find?_eq_ok_iff.2 ⟨location, hstart, rfl⟩
  have hread : ∀ path ∈ (Workbook.names reported location).map input.entry,
      ∃ content, tree.read path = .ok content ∧ reported.read path = .ok content := by
    intro path hpath
    obtain ⟨content, hcontent⟩ := hreadable _ hfind path hpath
    obtain ⟨name, hname, rfl⟩ := List.mem_map.1 hpath
    exact ⟨content, hcontent, hkept'.read (Workbook.of_mem_names hname).1 hcontent⟩
  obtain ⟨digests', hdigests', hdescribes⟩ := Digests.exists_ofFiles
    (fun path hpath ↦ (hread path hpath).imp fun _ h ↦ h.2) hnames
  cases hdigests.symm.trans hdigests'
  refine ⟨hfind, ?_, ?_, hnames⟩
  · rw [List.length_map, hkept.names_eq hmade hreported]
  · refine ((List.forall₂_and_left _ _).2 ⟨hread, hdescribes⟩).imp ?_
    rintro path digest ⟨⟨content, hcontent, hcontent'⟩, content', hdescribed, rfl⟩
    cases hcontent'.symm.trans hdescribed
    exact ⟨content, hcontent, rfl⟩

/-! ### Records -/

/-- What a report gives under its keys. -/
structure ReportGives (report : Datum) (workbooks converted skipped failed : Nat)
    (sheets : List Datum) : Prop where
  workbooks : report.field? "workbooks" = some (.int workbooks)
  converted : report.field? "converted" = some (.int converted)
  skipped : report.field? "skipped" = some (.int skipped)
  failed : report.field? "failed" = some (.int failed)
  sheets : report.field? "sheets" = some (.list sheets)

/-- What a manifest gives under its keys about sheets and workbooks. -/
structure ManifestGives (manifest : Datum) (converted failed : Nat)
    (digests : List (String × String)) : Prop where
  converted : manifest.field? "sheets_converted" = some (.int converted)
  status : manifest.field? "status" = some (.text (if 0 < failed then "failed" else "success"))
  failed : manifest.field? "sheets_failed" = some (.int failed)
  inputs : manifest.field? "inputs" =
    some (.object (digests.map fun digest ↦ (digest.1, .text digest.2)))

theorem reportGives_toDatum (report : Report) :
    ReportGives report.toDatum report.workbooks (report.count .converted) (report.count .skipped)
      report.failures.length (report.entries.map ReportEntry.toDatum) :=
  ⟨rfl, rfl, rfl, rfl, rfl⟩

/-- The manifest of a run gives the numbers of its report and the digests. -/
theorem manifestGives_toDatum (time : String) (input output : Path) (report : Report)
    (digests : List (String × String)) :
    ManifestGives (manifestOf time input output report digests).toDatum (report.count .converted)
      report.failures.length digests := by
  refine ⟨rfl, ?_, rfl, rfl⟩
  have hstatus : (manifestOf time input output report digests).toDatum.field? "status" =
      some (.text (if report.anyFailed then "failed" else "success")) := rfl
  simp only [hstatus, Report.anyFailed_iff]

/-- A file holds a datum as JSON text and a line break. -/
def Holds (tree : FileTree) (path : Path) (d : Datum) : Prop :=
  tree.read path = .ok (d.json ++ "\n").toUTF8

/-- The manifest is written beside the report, which stays as it is. -/
theorem holds_of_writeRecords {report manifest : Datum} {path path' : Path}
    {before reported after : FileTree}
    (hreport : Artifact.write (output.child Export.reportFile) (.ofDatum report) before =
      .ok path reported)
    (hmanifest : Artifact.write (output.child Export.manifestFile) (.ofDatum manifest) reported =
      .ok path' after) :
    Holds after (output.child Export.reportFile) report ∧
      Holds after (output.child Export.manifestFile) manifest := by
  obtain ⟨-, directory, hwritten, hname⟩ := kept_of_writeRecord List.mem_cons_self hreport
  obtain ⟨-, directory', hwritten', hname'⟩ :=
    kept_of_writeRecord (List.mem_cons_of_mem _ List.mem_cons_self) hmanifest
  refine ⟨read_of_fileAt? (locate_of_keeps hwritten'.keeps hwritten.located) ?_,
    read_of_fileAt? hwritten'.located hwritten'.written⟩
  rw [hwritten'.frame _ ?_ ?_, hwritten.written] <;> rw [hname, hname'] <;> intro heq
  · exact absurd (List.append_inj' heq rfl).2 (by decide)
  · exact absurd (List.append_inj' heq rfl).2 (by decide)

/-! ### Commands that come to their end -/

/-- A command that does not end in an internal error has made its checks and done all its work. -/
theorem exists_ok_of_conclude {α : Type} {settings : Settings} {before : List Notice}
    {atEnd : α → List Notice} {report : α → Report} {result : EStateM.Result RunFault BatchState α}
    (h : (conclude environment settings before atEnd report result).exit ≠ .internalError) :
    ∃ answer state, result = .ok answer state ∧
      (conclude environment settings before atEnd report result).tree = state.tree ∧
      (conclude environment settings before atEnd report result).exit =
        Exit.ofReport (report answer) settings.strict := by
  rcases result with ⟨answer, state⟩ | ⟨fault, state⟩
  · exact ⟨answer, state, rfl, rfl, rfl⟩
  · exact absurd rfl h

/-- The exit code is that of a failure only under the strict policy, and only if something has
failed. -/
theorem code_ofReport (report : Report) (strict : Bool) :
    (Exit.ofReport report strict).code =
      if strict = true ∧ 0 < report.failures.length then 2 else 0 := by
  simp only [← Report.anyFailed_iff]
  cases strict <;> cases hfailed : report.anyFailed <;> simp [Exit.ofReport, Exit.code, hfailed]

theorem ofReport_ne_internalError (report : Report) (strict : Bool) :
    Exit.ofReport report strict ≠ .internalError := by
  rw [Exit.ofReport]
  split_ifs <;> decide

/-- What is left of a run after its checks have passed. -/
theorem execute_eq_conclude {args : List String} {input output : String} {settings : Settings}
    (hargs : environment.parser args = .command (.run input output settings))
    (hdelimiter : Delimiter.ofText? settings.delimiter = some delimiter)
    (hinput : tree.isDirectory (absolute tree input) = .ok true) :
    execute environment tree args =
      conclude environment settings
        (runHeading settings (absolute tree input) (absolute tree output)) runClosing
        RunFiles.report (convertAndReport environment delimiter (absolute tree input)
          (absolute tree output) { tree }) := by
  rw [execute, hargs]
  simp only [perform, run, withChecks, hdelimiter, hinput]

/-- **Records**: a run that passes the checks and does not end in an internal error leaves a report
and a manifest. The numbers in the report add up to its sheets, those in the manifest are the same,
and so is the status. The manifest has one digest for each of the workbooks that there were at the
start, if they can all be read, and the report gives their number. The exit code is that of a
failure if the strict policy counts one. -/
theorem records_of_execute {args : List String} {input output : String} {settings : Settings}
    (htree : tree.Distinct)
    (hargs : environment.parser args = .command (.run input output settings))
    (hdelimiter : settings.delimiter ≠ "")
    (hinput : tree.isDirectory (absolute tree input) = .ok true)
    (hend : (execute environment tree args).exit ≠ .internalError)
    (hreadable : ∀ paths, Workbook.find? tree (absolute tree input) = .ok (some paths) →
      ∀ path ∈ paths, ∃ content, tree.read path = .ok content) :
    ∃ workbooks report manifest converted skipped failed sheets digests,
      Workbook.find? tree (absolute tree input) = .ok (some workbooks) ∧
      Holds (execute environment tree args).tree
        ((absolute tree output).child Export.reportFile) report ∧
      Holds (execute environment tree args).tree
        ((absolute tree output).child Export.manifestFile) manifest ∧
      ReportGives report workbooks.length converted skipped failed sheets ∧
      converted + skipped + failed = sheets.length ∧
      ManifestGives manifest converted failed digests ∧
      List.Forall₂ (Digests.Describes tree) workbooks digests ∧
      (workbooks.map Path.name).Nodup ∧
      (execute environment tree args).exit.code =
        if settings.strict = true ∧ 0 < failed then 2 else 0 := by
  obtain ⟨delimiter, hchosen⟩ :
      ∃ delimiter, Delimiter.ofText? settings.delimiter = some delimiter :=
    Option.ne_none_iff_exists'.1 (mt Delimiter.ofText?_eq_none_iff.1 hdelimiter)
  rw [execute_eq_conclude hargs hchosen hinput] at hend ⊢
  obtain ⟨files, state, hrun, hafter, hexit⟩ := exists_ok_of_conclude hend
  obtain ⟨made, between, reported, workbooks, digests, after, hmake, hconvert, hreport, hworkbooks,
    hdigests, hmanifest, hstate⟩ := convertAndReport_eq_ok_iff.1 hrun
  have hthere : tree.HasDirectory (absolute tree input) := by
    obtain ⟨entry, hentry, hdir⟩ := Except.map_eq_ok_iff.1 hinput
    rw [beq_iff_eq] at hdir
    exact entry?_eq_directory_iff.1 (hdir ▸ hentry)
  obtain ⟨hfind, hcount, hdescribes, hnames⟩ := exists_digests htree hthere hmake hconvert hreport
    hworkbooks hdigests hreadable
  obtain ⟨hholds, hholds'⟩ := holds_of_writeRecords hreport hmanifest
  rw [hafter, hstate]
  refine ⟨workbooks, files.report.toDatum, _, files.report.count .converted,
    files.report.count .skipped, files.report.failures.length,
    files.report.entries.map ReportEntry.toDatum, digests, hfind, hholds, hholds', ?_, ?_,
    manifestGives_toDatum _ _ _ _ _, hdescribes, hnames, ?_⟩
  · rw [← hcount]
    exact reportGives_toDatum files.report
  · rw [List.length_map, files.report.count_add_count_add_failures]
  · rw [hexit, code_ofReport]

/-! ### A run over its own output -/

/-- A directory with one workbook. -/
def overlapTree : FileTree :=
  { entries := [(["in"], .directory), (["in", "c.xls"], .file ⟨#[]⟩)] }

/-- The path of this directory. -/
def overlapPath : Path := { root := .slash, parts := ["in"] }

/-- What is there once a text for the report is written to it. -/
def overlapReported (content : String) : FileTree :=
  { entries := (["in", Export.reportFile], .file content.toUTF8) :: overlapTree.entries }

theorem distinct_overlapTree : overlapTree.Distinct := by
  unfold FileTree.Distinct
  decide

theorem find?_overlapTree :
    Workbook.find? overlapTree overlapPath = .ok (some [overlapPath.entry "c.xls"]) := by
  have hnames : Workbook.names overlapTree ["in"] = ["c.xls"] :=
    List.perm_singleton.1 ((Workbook.names_perm _ ["in"]).trans (by decide))
  exact Workbook.find?_eq_ok_iff.2 ⟨["in"], ⟨rfl, rfl, by decide⟩, by rw [hnames]; rfl⟩

/-- The report beside the workbook is no workbook. -/
theorem find?_overlapReported (content : String) :
    Workbook.find? (overlapReported content) overlapPath =
      .ok (some [overlapPath.entry "c.xls"]) := by
  have hchildren : (overlapReported content).children ["in"] =
      [(Export.reportFile, .file content.toUTF8), ("c.xls", .file ⟨#[]⟩)] := rfl
  have hreport : Workbook.isName Export.reportFile = false := by decide
  have hbook : Workbook.isName "c.xls" = true := by decide
  have hnames : Workbook.names (overlapReported content) ["in"] = ["c.xls"] := by
    refine List.perm_singleton.1 ((Workbook.names_perm _ ["in"]).trans ?_)
    simp [hchildren, Workbook.isWorkbook, hreport, hbook]
  refine Workbook.find?_eq_ok_iff.2 ⟨["in"], ⟨rfl, rfl, ?_⟩, by rw [hnames]; rfl⟩
  rw [hchildren, List.forall_mem_cons, List.forall_mem_singleton]
  exact ⟨rfl, rfl⟩

/-- Report and manifest can be written beside the workbook, whatever their texts are. -/
theorem writeText_overlapTree (content content' : String) :
    Artifact.writeText (overlapPath.child Export.reportFile) content overlapTree =
        .ok (overlapPath.child Export.reportFile) (overlapReported content) ∧
      ∃ after, Artifact.writeText (overlapPath.child Export.manifestFile) content'
        (overlapReported content) = .ok (overlapPath.child Export.manifestFile) after :=
  ⟨rfl, _, rfl⟩

/-- An environment in which no workbook can be read. -/
def overlapEnvironment : Environment where
  parser := Invocation.ofArguments
  reader := Batch.sampleReader (.unreadable "truncated")
  markup := .tags
  clock := "12:00"

/-- A run over the directory into itself comes to its end. -/
theorem convertAndReport_overlapTree : ∃ files state,
    convertAndReport overlapEnvironment .comma overlapPath overlapPath { tree := overlapTree } =
      .ok files state := by
  have hload : Workbook.load (Batch.sampleReader (.unreadable "truncated")) overlapTree
      (overlapPath.entry "c.xls") =
      .error (.ofReadFailure (overlapPath.entry "c.xls") .xls (.unreadable "truncated")) := rfl
  obtain ⟨report, between, hconvert, hbetween, htext⟩ : ∃ report between,
      Batch.convertAll (Batch.sampleReader (.unreadable "truncated")) .comma overlapPath
        (some overlapPath) { tree := overlapTree } = .ok report between ∧
      between.tree = overlapTree ∧ report.toDatum.HasText :=
    ⟨_, _, Batch.convertAll_eq_ok_iff.2 ⟨_, find?_overlapTree,
      EStateM.bind_of_ok (Batch.addWorkbook_of_unreadable hload rfl), rfl⟩, rfl, rfl⟩
  have hread : ∀ path ∈ [overlapPath.entry "c.xls"], ∃ content,
      (overlapReported (report.toDatum.json ++ "\n")).read path = .ok content :=
    List.forall_mem_singleton.2 ⟨⟨#[]⟩, rfl⟩
  obtain ⟨digests, hdigests, -⟩ := Digests.exists_ofFiles hread (List.nodup_singleton _)
  obtain ⟨hreport, after, hmanifest⟩ := writeText_overlapTree (report.toDatum.json ++ "\n")
    ((manifestOf "12:00" overlapPath overlapPath report digests).toDatum.json ++ "\n")
  rw [← Artifact.write_eq_writeText (Artifact.text_ofDatum htext)] at hreport
  rw [← Artifact.write_eq_writeText (Artifact.text_ofDatum (hasText_manifestOf htext _ _ _ _))]
    at hmanifest
  exact ⟨⟨report, _, _⟩, _, convertAndReport_eq_ok_iff.2 ⟨overlapTree, between, _, _, digests, after,
    rfl, hconvert, hbetween ▸ hreport, find?_overlapReported _, hdigests, hmanifest, rfl⟩⟩

/-- A run over the directory into this directory, under the strict policy. The one workbook there
cannot be read as one. -/
def overlapOutcome : Outcome :=
  execute overlapEnvironment overlapTree ["run", "--strict", "in", "in"]

/-- The run leaves its records beside the workbook, which has a digest. -/
theorem records_of_execute_overlapTree :
    ∃ report manifest converted skipped failed sheets digests,
      Holds overlapOutcome.tree (overlapPath.child Export.reportFile) report ∧
      Holds overlapOutcome.tree (overlapPath.child Export.manifestFile) manifest ∧
      ReportGives report 1 converted skipped failed sheets ∧
      converted + skipped + failed = sheets.length ∧
      ManifestGives manifest converted failed digests ∧
      digests.map Prod.fst = ["c.xls"] ∧
      overlapOutcome.exit.code = if 0 < failed then 2 else 0 := by
  have hargs : overlapEnvironment.parser ["run", "--strict", "in", "in"] =
      .command (.run "in" "in" { strict := true }) := by decide
  have hend : overlapOutcome.exit ≠ .internalError := by
    obtain ⟨files, state, hrun⟩ := convertAndReport_overlapTree
    rw [overlapOutcome, execute_eq_conclude hargs (Delimiter.ofText?_eq_some_iff.2 rfl) rfl,
      show absolute overlapTree "in" = overlapPath from rfl, hrun]
    exact ofReport_ne_internalError files.report true
  have hreadable : ∀ paths, Workbook.find? overlapTree overlapPath = .ok (some paths) →
      ∀ path ∈ paths, ∃ content, overlapTree.read path = .ok content := by
    intro paths hpaths
    cases find?_overlapTree.symm.trans hpaths
    exact List.forall_mem_singleton.2 ⟨⟨#[]⟩, rfl⟩
  obtain ⟨workbooks, report, manifest, converted, skipped, failed, sheets, digests, hfind, hreport,
    hmanifest, hgives, htotal, hgives', hdescribes, -, hexit⟩ :=
    records_of_execute distinct_overlapTree hargs (by decide) rfl hend hreadable
  cases find?_overlapTree.symm.trans hfind
  refine ⟨report, manifest, converted, skipped, failed, sheets, digests, hreport, hmanifest, hgives,
    htotal, hgives', ?_, ?_⟩
  · obtain ⟨digest, rest, ⟨content, -, rfl⟩, hrest, rfl⟩ := List.forall₂_cons_left_iff.1 hdescribes
    cases hrest
    rfl
  · rw [overlapOutcome]
    simpa using hexit

end CommandLine

end ConfigTables
