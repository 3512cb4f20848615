import ConfigTables.Proofs.Run.Admission
import ConfigTables.Proofs.Run.Agreement
import ConfigTables.Proofs.Sheet.Inheritance

/-!
# Which runs come to their end

A run with an output directory does not stop for anything that is wrong with a tab: that is entered
in the report. Neither do the documents of a tab ever lack a value or a text
(`TabResult.whole_of_ofTab`).
What is left to stop it is that a document cannot be written, and writing goes on wherever it can
(`Batch.exists_export_of_fit`, `Batch.exists_export`). So a run over workbooks that load is complete
exactly if all documents can be written (`Batch.completes_iff`), which is a condition on the file
names of the tabs: nothing before the write keeps a tab from asking for a name that no file may
have.
-/

namespace ConfigTables

/-! ### Writing the documents of a result -/

/-- A result whose documents can be made from its rows and have texts. -/
def TabResult.Whole (result : TabResult) : Prop :=
  ∀ sheet, result.outcome = .config sheet → ∀ audience, ∃ found,
    Document.ofSheet? sheet result.rows audience = .ok found ∧
      ∀ document, found = some document → document.toDatum.HasText

theorem TabResult.whole_of_ofTab {delimiter : Delimiter} {tab : Tab} {result : TabResult}
    (h : ofTab delimiter tab.name tab.data = .ok result) : result.Whole := by
  intro sheet hsheet audience
  have hmade := Document.ofSheet?_eq_ok (made_of_ofTab h hsheet) audience
  exact ⟨_, hmade, fun document hdocument ↦
    Document.hasText_toDatum h hsheet (hmade.trans (congrArg Except.ok hdocument))⟩

theorem TabResult.Whole.hasText {result : TabResult} (h : result.Whole)
    {document : Audience × Document} (hmem : document ∈ result.documents) :
    document.2.toDatum.HasText := by
  have hfinding : document ∈ (Finding.tab "" result).documents := hmem
  obtain ⟨workbook, other, sheet, hother, hsheet, -, hdocument⟩ :=
    Finding.spec_of_mem_documents hfinding
  cases hother
  obtain ⟨found, hfound, htexts⟩ := h sheet hsheet document.1
  exact htexts document.2 (Except.ok.inj (hfound.symm.trans hdocument))

/-- A result that claims its file name stays whole, as a rejected one has no documents. -/
theorem Batch.whole_claim {result : TabResult} (h : result.Whole)
    (claimed : List (String × String)) (workbook : String) :
    (claim claimed workbook result).1.Whole := by
  rcases claim_eq_or claimed workbook result with hkept | ⟨fault, hrejected⟩
  · rwa [hkept]
  · rw [hrejected]
    intro sheet hsheet
    cases hsheet

namespace Export

variable {output : Path} {before after : FileTree}

/-- The document of an audience is written where that is possible. -/
theorem writeFor_of_writes {sheet : Sheet} {rows : List Row} {audience : Audience}
    {found : Option Document} (hfound : Document.ofSheet? sheet rows audience = .ok found)
    (h : Writes (some output) (Document.forAudience sheet rows audience) before after) :
    writeFor output sheet rows audience before =
      .ok (paths (some output) (Document.forAudience sheet rows audience)) after := by
  rw [Document.forAudience, hfound] at h ⊢
  rcases found with _ | document
  · obtain rfl : after = before := h
    rw [writeFor, hfound]
    rfl
  · obtain ⟨between, hwrite, rfl⟩ := h
    have hname := Document.fileName_of_ofSheet? hfound
    rw [path, hname] at hwrite
    rw [writeFor_eq_ok hfound hwrite, ← hname]
    rfl

/-- The documents of a result are written where that is possible. -/
theorem writeResult_of_writes {result : TabResult} (hwhole : result.Whole)
    (h : Writes (some output) result.documents before after) :
    Batch.writeResult (some output) result before =
      .ok (paths (some output) result.documents) after := by
  rw [TabResult.documents] at h ⊢
  rw [Batch.writeResult.eq_def]
  rcases houtcome : result.outcome with sheet | ⟨name, rejection⟩
  · simp only [houtcome] at h ⊢
    split_ifs at h ⊢ with hstatus
    · simp only [Audience.all, List.flatMap_cons, List.flatMap_nil, List.append_nil,
        writes_append] at h ⊢
      obtain ⟨between, hserver, hclient⟩ := h
      obtain ⟨_, hfound, -⟩ := hwhole sheet houtcome .server
      obtain ⟨_, hfound', -⟩ := hwhole sheet houtcome .client
      rw [writeSheet, EStateM.bind_of_ok (writeFor_of_writes hfound hserver),
        EStateM.bind_of_ok (writeFor_of_writes hfound' hclient)]
      simp [paths, EStateM.pure_eq_ok_iff]
    · obtain rfl : after = before := h
      rfl
  · simp only [houtcome] at h ⊢
    obtain rfl : after = before := h
    rfl

end Export

namespace Batch

variable {reader : WorkbookReader} {delimiter : Delimiter} {tree : FileTree} {input output : Path}
  {location : Location} {before : List Finding} {state : BatchState}
  {made : Audience → FileTree}

/-! ### Runs that go on -/

section Sustained

variable {kind : FileTree → Prop} {fit : Audience × Document → Prop}

/-- All documents that settling findings leaves are fit. -/
def AllFit (fit : Audience × Document → Prop) (before findings : List Finding) : Prop :=
  ∀ document ∈ (Finding.settleAll before findings).flatMap Finding.documents, fit document

theorem allFit_append {findings more : List Finding} :
    AllFit fit before (findings ++ more) ↔
      AllFit fit before findings ∧ AllFit fit (before ++ findings) more := by
  rw [AllFit, Finding.settleAll_append, List.flatMap_append, List.forall_mem_append]
  rfl

/-- **One more tab**: a result whose documents are fit is added. -/
theorem exists_addResult_of_fit (hsustains : Export.Sustains output kind fit)
    (h : Progress (some output) tree before state) (hkind : kind state.tree)
    {workbook : String} {result : TabResult} (hbalanced : result.Balanced) (hwhole : result.Whole)
    (hfit : AllFit fit before [.tab workbook result]) :
    ∃ state', addResult (some output) workbook result state = .ok () state' ∧
      kind state'.tree := by
  obtain ⟨hsettle, -⟩ := claim_spec h.claims workbook result
  have hdocuments : (Finding.settleAll before [.tab workbook result]).flatMap Finding.documents =
      (claim state.claimed workbook result).1.documents := by
    rw [Finding.settleAll, ← hsettle, Finding.settleAll, List.flatMap_singleton]
    rfl
  have hplain : ∀ document ∈ (claim state.claimed workbook result).1.documents,
      Export.Plain document :=
    fun document hmem ↦ Finding.plain_of_mem_documents (hdocuments ▸ hmem)
  rw [AllFit, hdocuments] at hfit
  have hclaimed := whole_claim hwhole state.claimed workbook
  obtain ⟨after, hwrites, hafter⟩ :=
    hsustains.exists_writes hkind hplain (fun _ ↦ hclaimed.hasText) hfit
  have hwrite := Export.writeResult_of_writes hclaimed hwrites
  exact ⟨_, (addResult_eq_ok_iff hbalanced).2 ⟨_, after, hwrite, rfl⟩, hafter⟩

theorem exists_addResults_of_fit (hsustains : Export.Sustains output kind fit)
    (h : Progress (some output) tree before state) (hkind : kind state.tree)
    {workbook : String} {results : List TabResult}
    (hbalanced : ∀ result ∈ results, result.Balanced) (hwhole : ∀ result ∈ results, result.Whole)
    (hfit : AllFit fit before (results.map (.tab workbook))) :
    ∃ state', results.forM (addResult (some output) workbook) state = .ok () state' ∧
      kind state'.tree := by
  induction results generalizing before state with
  | nil => exact ⟨state, rfl, hkind⟩
  | cons result results ih =>
    rw [List.forall_mem_cons] at hbalanced hwhole
    rw [List.map_cons, ← List.singleton_append, allFit_append] at hfit
    obtain ⟨between, hfirst, hnext⟩ :=
      exists_addResult_of_fit hsustains h hkind hbalanced.1 hwhole.1 hfit.1
    obtain ⟨after, hrest, hafter⟩ :=
      ih (h.addResult hbalanced.1 hfirst) hnext hbalanced.2 hwhole.2 hfit.2
    exact ⟨after, (EStateM.bind_of_ok hfirst).trans hrest, hafter⟩

/-- **One more workbook**: a workbook whose documents are fit is added. -/
theorem exists_addWorkbook_of_fit (hsustains : Export.Sustains output kind fit)
    (h : Progress (some output) tree before state) (hkind : kind state.tree)
    {path : Path} (hread : Workbook.load reader state.tree path = Workbook.load reader tree path)
    {found : List Finding} (hfinds : Finds reader delimiter tree path found)
    (hfit : AllFit fit before found) :
    ∃ state', addWorkbook reader delimiter (some output) path state = .ok () state' ∧
      Progress (some output) tree (before ++ found) state' ∧ kind state'.tree := by
  obtain ⟨state', hadd, hkind'⟩ : ∃ state',
      addWorkbook reader delimiter (some output) path state = .ok () state' ∧
        kind state'.tree := by
    rcases hfinds with ⟨hload, hrecorded⟩ | ⟨hload, hresults⟩
    · exact ⟨_, addWorkbook_of_unreadable (hread.trans hload) hrecorded, hkind⟩
    · obtain ⟨results, hresults', hrun⟩ :=
        addWorkbook_of_tabs delimiter (some output) (hread.trans hload)
      rw [← Finds.unique (.tabs hload hresults) (.tabs hload hresults')] at hfit
      have hwhole : ∀ result ∈ results, result.Whole := by
        intro result hmem
        obtain ⟨tab, -, htab⟩ := hresults'.flip.exists_of_mem hmem
        exact TabResult.whole_of_ofTab htab
      rw [hrun]
      exact exists_addResults_of_fit hsustains h hkind (balanced_of_forall₂ hresults') hwhole hfit
  -- The findings that the step reports are the given ones, since a workbook has only one list.
  obtain ⟨found', hfinds', hprogress⟩ := h.addWorkbook hread hadd
  rw [hfinds.unique hfinds'] at hprogress
  exact ⟨state', hadd, hprogress, hkind'⟩

/-- **All workbooks**: a run over workbooks whose documents are fit comes to its end. -/
theorem exists_addWorkbooks_of_fit (hsustains : Export.Sustains output kind fit)
    (h : Progress (some output) tree before state) (hkind : kind state.tree)
    {paths : List Path} {found : List (List Finding)}
    (hread : ∀ before state, Progress (some output) tree before state → ∀ path ∈ paths,
      Workbook.load reader state.tree path = Workbook.load reader tree path)
    (hfound : List.Forall₂ (Finds reader delimiter tree) paths found)
    (hfit : AllFit fit before found.flatten) :
    ∃ state', paths.forM (addWorkbook reader delimiter (some output)) state = .ok () state' ∧
      kind state'.tree := by
  -- What each workbook leaves for the next is the progress so far and the kind of the tree.
  induction hfound generalizing before state with
  | nil => exact ⟨state, rfl, hkind⟩
  | @cons path first paths found hfinds _ ih =>
    rw [List.flatten_cons, allFit_append] at hfit
    obtain ⟨between, hfirst, hprogress, hnext⟩ := exists_addWorkbook_of_fit hsustains h hkind
      (hread _ _ h path List.mem_cons_self) hfinds hfit.1
    have hread' : ∀ before state, Progress (some output) tree before state → ∀ path ∈ paths,
        Workbook.load reader state.tree path = Workbook.load reader tree path :=
      fun before state h path hmem ↦ hread before state h path (List.mem_cons_of_mem _ hmem)
    obtain ⟨after, hrest, hafter⟩ := ih hprogress hnext hread' hfit.2
    exact ⟨after, (EStateM.bind_of_ok hfirst).trans hrest, hafter⟩

/-- Of a directory whose documents are all fit for its tree there is a report. -/
theorem exists_export_of_fit (hinput : Workbook.Listable tree input location)
    (hsustains : Export.Sustains output kind fit) (hkind : kind tree) {found : List (List Finding)}
    (hfound : List.Forall₂ (fun name ↦ Finds reader delimiter tree (input.entry name))
      (Workbook.names tree location) found)
    (hfit : AllFit fit [] found.flatten) :
    ∃ report state, convertAll reader delimiter input (some output) { tree } =
      .ok report state ∧ kind state.tree := by
  obtain ⟨state, hadd, hkind'⟩ := exists_addWorkbooks_of_fit hsustains
    (progress_start (some output) tree) hkind (load_of_progress hinput)
    (List.forall₂_map_left_iff.2 hfound) hfit
  refine ⟨_, state, convertAll_eq_ok_iff.2 ⟨_, ?_, hadd, rfl⟩, hkind'⟩
  exact Workbook.find?_eq_ok_iff.2 ⟨location, hinput, rfl⟩

end Sustained

/-- Of a directory whose documents can all be written there is a report. -/
theorem exists_export (hinput : Workbook.Listable tree input location)
    (hmade : Export.Prepared output tree made) {found : List (List Finding)}
    (hfound : List.Forall₂ (fun name ↦ Finds reader delimiter tree (input.entry name))
      (Workbook.names tree location) found)
    (hwritable : ∀ document ∈ (Finding.settleAll [] found.flatten).flatMap Finding.documents,
      Export.Writable output (made document.1) document) :
    ∃ report state, convertAll reader delimiter input (some output) { tree } =
      .ok report state := by
  obtain ⟨report, state, hrun, -⟩ := exists_export_of_fit hinput (Export.sustains_between hmade)
    (Export.between_start hmade) hfound hwritable
  exact ⟨report, state, hrun⟩

/-! ### Complete reports -/

/-- The entry of a tab, given the files as a run has left them: it names the tab, and if it says
that the tab is converted, the documents of its sheet are listed, each in its own file. -/
structure Delivers (output : Path) (after : FileTree) (workbook : String) (result : TabResult)
    (entry : ReportEntry) : Prop where
  workbook_eq : entry.workbook = .text workbook
  sheetName_eq : entry.sheetName = .text result.name
  delivered : entry.status = .converted → ∃ sheet, result.outcome = .config sheet ∧
    ∀ audience document, Document.ofSheet? sheet result.rows audience = .ok (some document) →
      (Export.file output audience sheet.markers.fileName).text ∈ entry.outputs ∧
      after.read (Export.file output audience sheet.markers.fileName) =
        .ok (document.toDatum.json ++ "\n").toUTF8

/-- A report that has one entry for each finding, in order, and all the documents it tells of. -/
structure Complete (output : Path) (after : FileTree) (found : List Finding) (report : Report) :
    Prop where
  one_each : report.entries.length = found.length
  delivers : ∀ (i : Nat) (workbook : String) (result : TabResult) (entry : ReportEntry),
    found[i]? = some (.tab workbook result) → report.entries[i]? = some entry →
      Delivers output after workbook result entry

theorem mem_documents_of_ofSheet? {result : TabResult} {sheet : Sheet} {audience : Audience}
    {document : Document} (hsheet : result.outcome = .config sheet)
    (hstatus : result.status = .converted)
    (hdocument : Document.ofSheet? sheet result.rows audience = .ok (some document)) :
    (audience, document) ∈ result.documents := by
  have haudience : audience ∈ Audience.all := by
    cases audience <;> decide
  rw [TabResult.documents, hsheet]
  simp only [hstatus, if_true]
  refine List.mem_flatMap.2 ⟨audience, haudience, ?_⟩
  rw [Document.forAudience, hdocument]
  exact List.mem_singleton_self _

/-- A tab that is entered as converted has kept its file name and is a config sheet. -/
theorem spec_of_status_settle {before : List Finding} {workbook : String} {result : TabResult}
    {outputs : List Path}
    (h : ((Finding.settle before (.tab workbook result)).entry outputs).status = .converted) :
    Finding.settle before (.tab workbook result) = .tab workbook result ∧
      result.status = .converted ∧ ∃ sheet, result.outcome = .config sheet := by
  rcases hrefusal : Finding.refusal? before (.tab workbook result) with _ | fault
  · have hkept : Finding.settle before (.tab workbook result) = .tab workbook result := by
      rw [Finding.settle, hrefusal]
    rw [hkept] at h
    refine ⟨hkept, h, ?_⟩
    rcases houtcome : result.outcome with sheet | ⟨name, rejection⟩
    · exact ⟨sheet, rfl⟩
    · -- A tab that is no config sheet has another status.
      replace h : result.status = .converted := h
      rw [TabResult.status, houtcome] at h
      cases rejection <;> cases h
  · rw [Finding.settle, hrefusal] at h
    cases h

/-- Whatever becomes of a tab, its entry names it. -/
theorem spec_of_entry_settle (before : List Finding) (workbook : String) (result : TabResult)
    (outputs : List Path) :
    ((Finding.settle before (.tab workbook result)).entry outputs).workbook = .text workbook ∧
      ((Finding.settle before (.tab workbook result)).entry outputs).sheetName =
        .text result.name := by
  rw [Finding.settle]
  split <;> exact ⟨rfl, rfl⟩

/-- A tab whose settled finding is among those of a run is delivered. -/
theorem Progress.delivers (h : Progress (some output) tree before state) {earlier : List Finding}
    {workbook : String} {result : TabResult}
    (hmem : Finding.settle earlier (.tab workbook result) ∈ Finding.settleAll [] before) :
    Delivers output state.tree workbook result
      ((Finding.settle earlier (.tab workbook result)).entry
        ((Finding.settle earlier (.tab workbook result)).outputs (some output))) := by
  obtain ⟨hworkbook, hname⟩ := spec_of_entry_settle earlier workbook result
    ((Finding.settle earlier (.tab workbook result)).outputs (some output))
  refine ⟨hworkbook, hname, fun hconverted ↦ ?_⟩
  obtain ⟨hkept, hstatus, sheet, hsheet⟩ := spec_of_status_settle hconverted
  refine ⟨sheet, hsheet, fun audience document hdocument ↦ ?_⟩
  -- A converted entry has not been refused, so the finding is the result itself.
  rw [hkept] at hmem ⊢
  have hown : (audience, document) ∈ result.documents :=
    mem_documents_of_ofSheet? hsheet hstatus hdocument
  have hall : (audience, document) ∈
      (Finding.settleAll [] before).flatMap Finding.documents :=
    List.mem_flatMap.2 ⟨_, hmem, hown⟩
  have hfile : Export.path output (audience, document) =
      Export.file output audience sheet.markers.fileName := by
    rw [Export.path_eq (Finding.plain_of_mem_documents hall),
      Document.fileName_of_ofSheet? hdocument]
  obtain ⟨base, hplaced, hcontent⟩ := h.exports.published _ hall
  rw [← hfile]
  refine ⟨?_, FileTree.read_of_fileAt? hplaced.located hcontent⟩
  rw [Finding.outputs_entry]
  exact List.mem_map_of_mem (List.mem_map_of_mem hown)

/-- **What is delivered**: a run that has come across some findings has an entry for each of them,
and all documents that these entries tell of. -/
theorem Progress.complete (h : Progress (some output) tree before state) (workbooks : Nat) :
    Complete output state.tree before { workbooks, entries := state.entries } := by
  refine ⟨?_, fun i workbook result entry hfinding hentry ↦ ?_⟩
  · rw [h.entries, List.length_map, Finding.length_settleAll]
  · have hsettled := Finding.getElem?_settleAll [] before i
    rw [hfinding, Option.map_some, List.nil_append] at hsettled
    rw [h.entries, List.getElem?_map, hsettled, Option.map_some, Option.some.injEq] at hentry
    rw [← hentry]
    exact h.delivers (List.mem_of_getElem? hsettled)

/-! ### Exactly when a run is complete -/

/-- A run over the findings of a directory has come across just these. -/
theorem progress_of_finds (hinput : Workbook.Listable tree input location)
    {found : List (List Finding)}
    (hfound : List.Forall₂ (fun name ↦ Finds reader delimiter tree (input.entry name))
      (Workbook.names tree location) found) {report : Report}
    (h : convertAll reader delimiter input (some output) { tree } = .ok report state) :
    Progress (some output) tree found.flatten state ∧
      report =
        { workbooks := (Workbook.names tree location).length, entries := state.entries } := by
  obtain ⟨location', found', hinput', hfound', hprogress, hreport⟩ := progress_of_export h
  cases hinput.located.symm.trans hinput'.located
  rw [forall₂_finds_unique hfound hfound'] at hprogress
  exact ⟨hprogress, hreport⟩

/-- Workbooks that load have findings, one for each tab. -/
theorem exists_finds_of_load (delimiter : Delimiter) {names : List String} {books : List (List Tab)}
    (h : List.Forall₂ (fun name tabs ↦ Workbook.load reader tree (input.entry name) = .ok tabs)
      names books) :
    ∃ found, List.Forall₂ (fun name ↦ Finds reader delimiter tree (input.entry name)) names found ∧
      found.flatten.length = books.flatten.length := by
  induction h with
  | nil => exact ⟨[], .nil, rfl⟩
  | @cons name tabs names books hload _ ih =>
    obtain ⟨rest, hfound, hlength⟩ := ih
    obtain ⟨results, hresults, -⟩ := exists_tabResults delimiter hload
    refine ⟨_ :: rest, .cons (.tabs hload hresults) hfound, ?_⟩
    rw [List.flatten_cons, List.flatten_cons, List.length_append, List.length_append, hlength,
      List.length_map, hresults.length_eq]

/-- **Completion**: a run over workbooks that load, with an output directory in which the
directories of the audiences are there or can be made, returns a complete report exactly if all
documents of its tabs can be written. -/
theorem completes_iff (delimiter : Delimiter) (hinput : Workbook.Listable tree input location)
    {books : List (List Tab)}
    (hloads : List.Forall₂
      (fun name tabs ↦ Workbook.load reader tree (input.entry name) = .ok tabs)
      (Workbook.names tree location) books)
    (hmade : ∀ audience, Disk.makeDirectories (output.entry (Export.directory audience)) tree =
      .ok () (made audience)) :
    ∃ found, List.Forall₂ (fun name ↦ Finds reader delimiter tree (input.entry name))
        (Workbook.names tree location) found ∧
      found.flatten.length = books.flatten.length ∧
      ((∃ report state, convertAll reader delimiter input (some output) { tree } =
            .ok report state ∧
          Complete output state.tree found.flatten report) ↔
        ∀ document ∈ (Finding.settleAll [] found.flatten).flatMap Finding.documents,
          Export.Writable output (made document.1) document) := by
  obtain ⟨found, hfound, hlength⟩ := exists_finds_of_load delimiter hloads
  refine ⟨found, hfound, hlength, ?_, fun hwritable ↦ ?_⟩
  · rintro ⟨report, state, hrun, -⟩
    obtain ⟨hprogress, -⟩ := progress_of_finds hinput hfound hrun
    exact Export.writable_of_writes hmade (.refl tree)
      (fun _ ↦ Finding.plain_of_mem_documents) hprogress.writes
  · obtain ⟨report, state, hrun⟩ := exists_export hinput hmade hfound hwritable
    obtain ⟨hprogress, rfl⟩ := progress_of_finds hinput hfound hrun
    exact ⟨_, state, hrun, hprogress.complete _⟩

/-! ### Runs over one workbook -/

/-- The sample directory once the directory of an audience is made. -/
def sampleMade (audience : Audience) : FileTree :=
  { entries := (["out", Export.directory audience], .directory) :: (["out"], .directory) ::
      sampleBook.entries }

theorem makeDirectories_sampleBook (audience : Audience) :
    Disk.makeDirectories (sampleOutput.entry (Export.directory audience)) sampleBook =
      .ok () (sampleMade audience) := by
  cases audience <;> rfl

theorem listable_sampleBook : Workbook.Listable sampleBook sampleInput ["in"] := by
  refine ⟨rfl, rfl, ?_⟩
  decide

theorem names_sampleBook : Workbook.names sampleBook ["in"] = ["a.xlsx"] :=
  List.perm_singleton.1 ((Workbook.names_perm sampleBook ["in"]).trans (by decide))

theorem load_sampleBook (failure : ReadFailure) : List.Forall₂
    (fun name tabs ↦
      Workbook.load (sampleReader failure) sampleBook (sampleInput.entry name) = .ok tabs)
    (Workbook.names sampleBook ["in"]) [[sampleTab.squared]] := by
  rw [names_sampleBook]
  exact .cons rfl .nil

/-- The documents of the sample sheet can be written. -/
theorem writable_sampleDocument (audience : Audience) :
    Export.Writable sampleOutput (sampleMade audience) (audience, sampleDocument) := by
  have hnul : '\x00' ∉ sampleDocument.fileName.toList := by decide
  have hsize : (sampleDocument.fileName ++ ".json.tmp").utf8ByteSize ≤ FileTree.maxNameSize := by
    decide
  refine ⟨hnul, hsize, ?_, ?_, ?_⟩
  · cases audience <;> decide
  · refine FileTree.not_hasDirectory_of_entry? ?_
    cases audience <;> rfl
  · refine FileTree.not_hasDirectory_of_entry? ?_
    cases audience <;> rfl

/-- The finding in the sample workbook. -/
def sampleFinding : Finding :=
  .tab "a.xlsx" { outcome := .config sampleSheet, rows := sampleRows }

theorem finds_sampleBook (failure : ReadFailure) : List.Forall₂
    (fun name ↦ Finds (sampleReader failure) .comma sampleBook (sampleInput.entry name))
    (Workbook.names sampleBook ["in"]) [[sampleFinding]] := by
  have hload : Workbook.load (sampleReader failure) sampleBook (sampleInput.entry "a.xlsx") =
      .ok [sampleTab.squared] := rfl
  have hresults : List.Forall₂
      (fun tab result ↦ TabResult.ofTab .comma tab.name tab.data = .ok result)
      [sampleTab.squared] [{ outcome := .config sampleSheet, rows := sampleRows }] :=
    .cons rfl .nil
  rw [names_sampleBook]
  exact .cons (.tabs hload hresults) .nil

theorem documents_sampleFinding :
    (Finding.settleAll [] [sampleFinding]).flatMap Finding.documents =
      [(.server, sampleDocument), (.client, sampleDocument)] :=
  rfl

/-- The sample directory has a complete report. -/
theorem completes_iff_sampleBook :
    Workbook.Listable sampleBook sampleInput ["in"] ∧
      (∀ audience, Disk.makeDirectories (sampleOutput.entry (Export.directory audience))
        sampleBook = .ok () (sampleMade audience)) ∧
      ∃ report state,
        convertAll (sampleReader (.unreadable "truncated")) .comma sampleInput (some sampleOutput)
          { tree := sampleBook } = .ok report state ∧
        Complete sampleOutput state.tree [sampleFinding] report := by
  refine ⟨listable_sampleBook, makeDirectories_sampleBook, ?_⟩
  obtain ⟨found, hfound, -, hiff⟩ := completes_iff .comma listable_sampleBook
    (load_sampleBook (.unreadable "truncated")) makeDirectories_sampleBook
  rw [forall₂_finds_unique (finds_sampleBook (.unreadable "truncated")) hfound] at hiff
  refine hiff.2 fun document hmem ↦ ?_
  rw [List.flatten_singleton, documents_sampleFinding] at hmem
  simp only [List.mem_cons, List.not_mem_nil, or_false] at hmem
  rcases hmem with rfl | rfl
  · exact writable_sampleDocument .server
  · exact writable_sampleDocument .client

/-- The sample tab with a file name that no file may have. -/
def nulTab : Tab :=
  { name := "Broken"
    rows := [some Markers.fileMark, some "a\x00b"] :: sampleTab.rows.tail }

/-- The sheet in this tab. -/
def nulSheet : Sheet :=
  { sampleSheet with
    name := "Broken"
    markers := { fileName := "a\x00b", className := "Items" } }

/-- A reader that gives this tab, and the sample tab after it. -/
def nulReader : WorkbookReader := fun _ _ ↦ .ok [nulTab, sampleTab]

/-- The finding in this tab. -/
def nulFinding : Finding :=
  .tab "a.xlsx" { outcome := .config nulSheet, rows := sampleRows }

theorem load_nulReader : List.Forall₂
    (fun name tabs ↦ Workbook.load nulReader sampleBook (sampleInput.entry name) = .ok tabs)
    (Workbook.names sampleBook ["in"]) [[nulTab.squared, sampleTab.squared]] := by
  rw [names_sampleBook]
  exact .cons rfl .nil

theorem finds_nulReader : List.Forall₂
    (fun name ↦ Finds nulReader .comma sampleBook (sampleInput.entry name))
    (Workbook.names sampleBook ["in"]) [[nulFinding, sampleFinding]] := by
  have hload : Workbook.load nulReader sampleBook (sampleInput.entry "a.xlsx") =
      .ok [nulTab.squared, sampleTab.squared] := rfl
  have hresults : List.Forall₂
      (fun tab result ↦ TabResult.ofTab .comma tab.name tab.data = .ok result)
      [nulTab.squared, sampleTab.squared]
      [{ outcome := .config nulSheet, rows := sampleRows },
        { outcome := .config sampleSheet, rows := sampleRows }] :=
    .cons rfl (.cons rfl .nil)
  rw [names_sampleBook]
  exact .cons (.tabs hload hresults) .nil

/-- No directory is where the documents of the two tabs go. -/
theorem not_hasDirectory_nulTab (audience : Audience) :
    ∀ fileName ∈ ["a\x00b", "items"],
      ¬(sampleMade audience).HasDirectory (Export.file sampleOutput audience fileName) ∧
      ¬(sampleMade audience).HasDirectory
        (Artifact.temporary (Export.file sampleOutput audience fileName)) := by
  intro fileName hmem
  simp only [List.mem_cons, List.not_mem_nil, or_false] at hmem
  rcases hmem with rfl | rfl <;>
    refine ⟨FileTree.not_hasDirectory_of_entry? ?_, FileTree.not_hasDirectory_of_entry? ?_⟩ <;>
    cases audience <;> rfl

/-- A tab with such a file name ends the run before the tab after it, though both workbook and
directories are as they should be. -/
theorem no_report_of_nul :
    Workbook.Listable sampleBook sampleInput ["in"] ∧
      List.Forall₂
        (fun name tabs ↦ Workbook.load nulReader sampleBook (sampleInput.entry name) = .ok tabs)
        (Workbook.names sampleBook ["in"]) [[nulTab.squared, sampleTab.squared]] ∧
      (∀ audience, Disk.makeDirectories (sampleOutput.entry (Export.directory audience))
        sampleBook = .ok () (sampleMade audience)) ∧
      (∀ audience, ∀ fileName ∈ ["a\x00b", "items"],
        ¬(sampleMade audience).HasDirectory (Export.file sampleOutput audience fileName) ∧
        ¬(sampleMade audience).HasDirectory
          (Artifact.temporary (Export.file sampleOutput audience fileName))) ∧
      ¬∃ report state, convertAll nulReader .comma sampleInput (some sampleOutput)
        { tree := sampleBook } = .ok report state := by
  refine ⟨listable_sampleBook, load_nulReader, makeDirectories_sampleBook,
    not_hasDirectory_nulTab, ?_⟩
  rintro ⟨report, state, hrun⟩
  obtain ⟨hprogress, -⟩ := progress_of_finds listable_sampleBook finds_nulReader hrun
  have hwritable := Export.writable_of_writes makeDirectories_sampleBook (.refl sampleBook)
    (fun _ ↦ Finding.plain_of_mem_documents) hprogress.writes
  have hmem : (Audience.server, { sampleDocument with fileName := "a\x00b", sheetName := "Broken" }) ∈
      (Finding.settleAll [] [[nulFinding, sampleFinding]].flatten).flatMap Finding.documents :=
    List.mem_cons_self
  exact absurd (hwritable _ hmem).no_nul (by decide)

end Batch

end ConfigTables
