import ConfigTables.Proofs.Run.Findings
import ConfigTables.Proofs.Run.Writing
import ConfigTables.Proofs.Workbook.Listing

/-!
# How a run progresses

The findings of a workbook are what loading it and converting its tabs give (`Batch.Finds`). A run
that has come across some findings has entered what became of them, has a table that agrees with
them, and has written their documents (`Batch.Progress`). One more tab keeps this
(`Progress.addResult`), so does one more workbook (`Progress.addWorkbook`), and so a whole run does
(`Progress.addWorkbooks`).

A run writes while it still reads. That the workbooks to come are read as at the start is therefore
an assumption of the step lemmas, which each kind of run discharges in its own way.
-/

namespace ConfigTables

/-! ### Documents and where they are written -/

/-- The document of a sheet for an audience, if there is one. -/
def Document.forAudience (sheet : Sheet) (rows : List Row) (audience : Audience) :
    List (Audience × Document) :=
  match ofSheet? sheet rows audience with
  | .ok (some document) => [(audience, document)]
  | _ => []

/-- The documents of a result, in the order in which they are written. Only converted sheets have
any. -/
def TabResult.documents (result : TabResult) : List (Audience × Document) :=
  match result.outcome with
  | .rejected .. => []
  | .config sheet =>
    if result.status = .converted then Audience.all.flatMap (Document.forAudience sheet result.rows)
    else []

/-- The documents of a finding. -/
def Finding.documents : Finding → List (Audience × Document)
  | unreadable .. => []
  | tab _ result => result.documents

theorem Document.fileName_of_ofSheet? {sheet : Sheet} {rows : List Row} {audience : Audience}
    {document : Document} (h : ofSheet? sheet rows audience = .ok (some document)) :
    document.fileName = sheet.markers.fileName := by
  unfold ofSheet? at h
  split at h
  · cases h
  · obtain ⟨rows, -, h⟩ := Except.bind_eq_ok_iff.1 h
    cases h
    rfl

theorem RunDisk.ofDisk_eq_ok_iff {α : Type} {program : Disk α} {before after : FileTree} {a : α} :
    ofDisk program before = .ok a after ↔ program before = .ok a after := by
  rw [ofDisk]
  cases program before <;> simp

namespace Export

/-- What writing the document of one audience does when it succeeds. -/
theorem writes_of_writeFor {output : Path} {sheet : Sheet} {rows : List Row} {audience : Audience}
    {before after : FileTree} {paths : List Path}
    (h : writeFor output sheet rows audience before = .ok paths after) :
    Writes (some output) (Document.forAudience sheet rows audience) before after ∧
      paths = (Document.forAudience sheet rows audience).map (path output) := by
  obtain ⟨found, between, hfound, h⟩ := EStateM.bind_eq_ok_iff.1 h
  rw [Document.forAudience]
  rcases hdocument : Document.ofSheet? sheet rows audience with cause | _ | document
  · rw [hdocument] at hfound
    cases hfound
  · rw [hdocument] at hfound
    cases hfound
    cases h
    exact ⟨rfl, rfl⟩
  · rw [hdocument] at hfound
    cases hfound
    obtain ⟨written, tree, hwrite, h⟩ := EStateM.bind_eq_ok_iff.1 h
    cases h
    rw [RunDisk.ofDisk_eq_ok_iff, ← Document.fileName_of_ofSheet? hdocument] at hwrite
    obtain ⟨rfl, -⟩ := Artifact.written_of_write hwrite
    exact ⟨⟨after, hwrite, rfl⟩, rfl⟩

/-- Writing the document of an audience, where that succeeds. -/
theorem writeFor_eq_ok {output : Path} {sheet : Sheet} {rows : List Row} {audience : Audience}
    {document : Document} {before after : FileTree}
    (hdocument : Document.ofSheet? sheet rows audience = .ok (some document))
    (hwrite : Artifact.write (target output audience sheet.markers.fileName)
      (.ofDatum document.toDatum) before =
        .ok (target output audience sheet.markers.fileName) after) :
    writeFor output sheet rows audience before =
      .ok [target output audience sheet.markers.fileName] after := by
  have hask : RunDisk.ofExcept .abort (Document.ofSheet? sheet rows audience) before =
      .ok (some document) before := by
    rw [hdocument]
    rfl
  rw [writeFor, EStateM.bind_of_ok hask]
  exact EStateM.bind_of_ok (RunDisk.ofDisk_eq_ok_iff.2 hwrite)

/-- What writing the documents of a result does when it succeeds. -/
theorem writes_of_writeResult {output : Option Path} {result : TabResult} {before after : FileTree}
    {written : List Path} (h : Batch.writeResult output result before = .ok written after) :
    Writes output result.documents before after ∧ written = paths output result.documents := by
  rw [TabResult.documents]
  rw [Batch.writeResult.eq_def] at h
  rcases output with _ | output
  · cases h
    exact ⟨by rw [Writes], rfl⟩
  rcases houtcome : result.outcome with sheet | ⟨name, rejection⟩
  · simp only [houtcome] at h
    -- Only a converted tab is written, for one audience after the other.
    split_ifs at h with hstatus
    · obtain ⟨server, between, hserver, h⟩ := EStateM.bind_eq_ok_iff.1 h
      obtain ⟨client, after', hclient, h⟩ := EStateM.bind_eq_ok_iff.1 h
      cases h
      obtain ⟨hwrites, rfl⟩ := writes_of_writeFor hserver
      obtain ⟨hwrites', rfl⟩ := writes_of_writeFor hclient
      simp only [hstatus, if_true, Audience.all, List.flatMap_cons, List.flatMap_nil,
        List.append_nil, writes_append]
      exact ⟨⟨between, hwrites, hwrites'⟩, by simp [paths]⟩
    · cases h
      simp only [hstatus, if_false]
      exact ⟨rfl, rfl⟩
  · simp only [houtcome] at h
    cases h
    exact ⟨rfl, rfl⟩

end Export

/-- The paths that are written for a finding. -/
def Finding.outputs (output : Option Path) (finding : Finding) : List Path :=
  Export.paths output finding.documents

namespace Batch

/-! ### The findings of a workbook -/

/-- What there is to find in a workbook: that it cannot be read, or its tabs with their results. -/
inductive Finds (reader : WorkbookReader) (delimiter : Delimiter) (tree : FileTree) (path : Path) :
    List Finding → Prop where
  | unreadable {fault : LoadFault} (h : Workbook.load reader tree path = .error fault)
      (hrecorded : fault.isRecorded = true) :
      Finds reader delimiter tree path [.unreadable path.name fault]
  | tabs {tabs : List Tab} {results : List TabResult}
      (h : Workbook.load reader tree path = .ok tabs)
      (hresults : List.Forall₂
        (fun tab result ↦ TabResult.ofTab delimiter tab.name tab.data = .ok result) tabs results) :
      Finds reader delimiter tree path (results.map (.tab path.name))

variable {reader : WorkbookReader} {delimiter : Delimiter} {tree : FileTree} {path : Path}

/-! ### Steps of a run -/

/-- How far a run has come from a tree: the findings so far are entered as what became of them, the
table agrees with them, and their documents are written. -/
structure Progress (output : Option Path) (start : FileTree) (before : List Finding)
    (state : BatchState) : Prop where
  claims : ClaimsOf state.claimed before
  entries : state.entries =
    (Finding.settleAll [] before).map fun finding ↦ finding.entry (finding.outputs output)
  writes : Export.Writes output ((Finding.settleAll [] before).flatMap Finding.documents) start
    state.tree

/-- A run begins without findings, in the tree as it is. -/
theorem progress_start (output : Option Path) (tree : FileTree) :
    Progress output tree [] { tree } :=
  ⟨claimsOf_nil, rfl, by cases output <;> rfl⟩

/-- A result that claims its file name is kept as it is or rejected. -/
theorem claim_eq_or (claimed : List (String × String)) (workbook : String) (result : TabResult) :
    (claim claimed workbook result).1 = result ∨
      ∃ fault, (claim claimed workbook result).1 = rejectName result fault := by
  unfold claim
  split
  · exact .inl rfl
  · dsimp only
    split_ifs
    · exact .inr ⟨_, rfl⟩
    · split
      · exact .inr ⟨_, rfl⟩
      · exact .inl rfl

/-- A result stays balanced when it claims its file name. -/
theorem balanced_claim {result : TabResult} (h : result.Balanced)
    (claimed : List (String × String)) (workbook : String) :
    (claim claimed workbook result).1.Balanced := by
  rcases claim_eq_or claimed workbook result with hkept | ⟨fault, hrejected⟩
  · rwa [hkept]
  · rw [hrejected]
    simp [TabResult.Balanced, rejectName, TabResult.status]

/-- Adding a result claims its file name, writes its documents and enters what became of it. -/
theorem addResult_eq_ok_iff {output : Option Path} {workbook : String} {result : TabResult}
    (h : result.Balanced) {state state' : BatchState} :
    addResult output workbook result state = .ok () state' ↔ ∃ outputs after,
      writeResult output (claim state.claimed workbook result).1 state.tree = .ok outputs after ∧
        state' =
          { tree := after
            claimed := (claim state.claimed workbook result).2
            entries := state.entries ++
              [(claim state.claimed workbook result).1.report workbook outputs] } := by
  have hbalanced := balanced_claim h state.claimed workbook
  have hadd : addResult output workbook result state =
      (ofRunDisk (writeResult output (claim state.claimed workbook result).1) >>= fun outputs ↦
        enter ((claim state.claimed workbook result).1.entry workbook outputs))
      { state with claimed := (claim state.claimed workbook result).2 } := rfl
  rw [hadd]
  rcases hwrite : writeResult output (claim state.claimed workbook result).1 state.tree with
    ⟨outputs, after⟩ | ⟨fault, after⟩
  · rw [EStateM.bind_of_ok (by rw [ofRunDisk, hwrite])]
    simp [enter, TabResult.entry_eq_ok hbalanced, eq_comm]
  · rw [EStateM.bind_of_error (by rw [ofRunDisk, hwrite])]
    simp

section Steps

variable {output : Option Path} {start : FileTree} {before : List Finding}
  {state state' : BatchState}

/-- **One more tab**: adding the result of a tab keeps a run in step with its findings. -/
theorem Progress.addResult (h : Progress output start before state) {workbook : String}
    {result : TabResult} (hbalanced : result.Balanced)
    (hadd : Batch.addResult output workbook result state = .ok () state') :
    Progress output start (before ++ [.tab workbook result]) state' := by
  obtain ⟨outputs, after, hwrite, rfl⟩ := (addResult_eq_ok_iff hbalanced).1 hadd
  obtain ⟨hwrites, rfl⟩ := Export.writes_of_writeResult hwrite
  obtain ⟨hsettle, hclaims⟩ := claim_spec h.claims workbook result
  have hsettled : Finding.settleAll [] (before ++ [.tab workbook result]) =
      Finding.settleAll [] before ++
        [.tab workbook (claim state.claimed workbook result).1] := by
    rw [Finding.settleAll_append, hsettle]
    rfl
  refine ⟨hclaims, ?_, ?_⟩
  · rw [hsettled, List.map_append, ← h.entries]
    rfl
  · rw [hsettled, List.flatMap_append, Export.writes_append, List.flatMap_singleton]
    exact ⟨state.tree, h.writes, hwrites⟩

/-- Without an output directory, nothing stops a result from being added. -/
theorem exists_addResult {workbook : String} {result : TabResult} (hbalanced : result.Balanced)
    (state : BatchState) : ∃ state', addResult none workbook result state = .ok () state' :=
  ⟨_, (addResult_eq_ok_iff hbalanced).2 ⟨[], state.tree, rfl, rfl⟩⟩

/-- An unreadable workbook is entered and changes nothing else. -/
theorem Progress.unreadable (h : Progress output start before state) (workbook : String)
    (fault : LoadFault) :
    Progress output start (before ++ [.unreadable workbook fault])
      { state with
        entries := state.entries ++ [(Finding.unreadable workbook fault).entry []] } := by
  have hsettled : Finding.settleAll [] (before ++ [.unreadable workbook fault]) =
      Finding.settleAll [] before ++ [.unreadable workbook fault] := by
    rw [Finding.settleAll_append]
    rfl
  refine ⟨h.claims.append fun name hclaims ↦ ?_, ?_, ?_⟩
  · cases hclaims
  · rw [hsettled, List.map_append, ← h.entries]
    rfl
  · rw [hsettled, List.flatMap_append]
    simpa [Finding.documents] using h.writes

/-- Adding results one after the other gets a run on by their findings. -/
theorem Progress.addResults (h : Progress output start before state) {workbook : String}
    {results : List TabResult} (hbalanced : ∀ result ∈ results, result.Balanced)
    (hadd : results.forM (Batch.addResult output workbook) state = .ok () state') :
    Progress output start (before ++ results.map (.tab workbook)) state' := by
  induction results generalizing before state with
  | nil =>
    cases hadd
    simpa using h
  | cons result results ih =>
    obtain ⟨_, between, hfirst, hrest⟩ := EStateM.bind_eq_ok_iff.1 hadd
    have hnext := h.addResult (hbalanced result List.mem_cons_self) hfirst
    have hall := ih hnext (fun result' hmem ↦ hbalanced result' (List.mem_cons_of_mem _ hmem)) hrest
    simpa using hall

/-- Without an output directory, balanced results are always added. -/
theorem exists_addResults {workbook : String} {results : List TabResult}
    (hbalanced : ∀ result ∈ results, result.Balanced) (state : BatchState) :
    ∃ state', results.forM (addResult none workbook) state = .ok () state' := by
  induction results generalizing state with
  | nil => exact ⟨state, rfl⟩
  | cons result results ih =>
    obtain ⟨between, hfirst⟩ := exists_addResult (hbalanced result List.mem_cons_self) state
    obtain ⟨after, hrest⟩ :=
      ih (fun result' hmem ↦ hbalanced result' (List.mem_cons_of_mem _ hmem)) between
    exact ⟨after, EStateM.bind_eq_ok_iff.2 ⟨(), between, hfirst, hrest⟩⟩

/-! ### One more workbook -/

variable {reader : WorkbookReader} {delimiter : Delimiter} {path : Path}

theorem tabResults_of_error {tree : FileTree} {fault : LoadFault}
    (h : Workbook.load reader tree path = .error fault) :
    tabResults reader delimiter tree path = .error (.load fault) := by
  rw [tabResults, h]
  rfl

/-- All tabs of a workbook that is loaded have results. -/
theorem exists_tabResults (delimiter : Delimiter) {tree : FileTree} {tabs : List Tab}
    (h : Workbook.load reader tree path = .ok tabs) : ∃ results,
      List.Forall₂ (fun tab result ↦ TabResult.ofTab delimiter tab.name tab.data = .ok result)
        tabs results ∧
      tabResults reader delimiter tree path = .ok results := by
  obtain ⟨results, hresults⟩ := Except.exists_mapM_eq_ok
    fun tab (_ : tab ∈ tabs) ↦ TabResult.exists_ofTab delimiter tab
  refine ⟨results, Except.mapM_eq_ok_iff.1 hresults, ?_⟩
  rw [tabResults, h]
  exact Except.mapError_eq_ok_iff.2 hresults

/-- The entry of an unreadable workbook passes its checks. -/
theorem ofFields_unreadable (workbook : String) (fault : LoadFault) :
    ReportEntry.ofFields (unreadableFields workbook (.load fault)) =
      .ok ((Finding.unreadable workbook fault).entry []) := by
  have hstatus : Field.readStatus (.text SheetStatus.unreadable.name) = .ok .unreadable := by
    simp [Field.readStatus, SheetStatus.ofName?_name]
  have herrors (s : String) : Field.readTexts "errors" (.list [.text s]) = .ok [s] :=
    Field.readTexts_texts "errors" [s]
  have hmessage : RunFault.message (.load fault) = fault.message := rfl
  unfold unreadableFields ReportEntry.ofFields
  rw [hstatus, hmessage, herrors, Finding.entry]
  generalize fault.message = message
  rfl

/-- A workbook is added by its results, or as one that cannot be read. -/
theorem addWorkbook_eq (state : BatchState) :
    addWorkbook reader delimiter output path state =
      match tabResults reader delimiter state.tree path with
      | .ok results => results.forM (Batch.addResult output path.name) state
      | .error fault =>
        if fault.isRecorded then
          enter (ReportEntry.ofFields (unreadableFields path.name fault)) state
        else .error fault state := by
  change (match tabResults reader delimiter state.tree path with
    | .ok results => results.forM (Batch.addResult output path.name)
    | .error fault =>
      if fault.isRecorded then enter (ReportEntry.ofFields (unreadableFields path.name fault))
      else throw fault) state = _
  rcases tabResults reader delimiter state.tree path with fault | results
  · dsimp only
    split_ifs <;> rfl
  · rfl

/-- A workbook that is loaded is added by adding the results of its tabs. -/
theorem addWorkbook_of_tabs (delimiter : Delimiter) (output : Option Path) {tabs : List Tab}
    (hload : Workbook.load reader state.tree path = .ok tabs) : ∃ results,
      List.Forall₂ (fun tab result ↦ TabResult.ofTab delimiter tab.name tab.data = .ok result)
        tabs results ∧
      addWorkbook reader delimiter output path state =
        results.forM (Batch.addResult output path.name) state := by
  obtain ⟨results, hresults, htabs⟩ := exists_tabResults delimiter hload
  exact ⟨results, hresults, by rw [addWorkbook_eq, htabs]⟩

/-- A workbook that cannot be read has an entry of its own, and changes nothing else. -/
theorem addWorkbook_of_unreadable {fault : LoadFault}
    (hload : Workbook.load reader state.tree path = .error fault)
    (hrecorded : fault.isRecorded = true) :
    addWorkbook reader delimiter output path state =
      .ok () { state with
        entries := state.entries ++ [(Finding.unreadable path.name fault).entry []] } := by
  have hrun : (RunFault.load fault).isRecorded = true := hrecorded
  rw [addWorkbook_eq, tabResults_of_error hload]
  simp only [hrun, if_true, ofFields_unreadable, enter]

/-- A reader that breaks down ends the run. -/
theorem addWorkbook_of_crash {fault : LoadFault}
    (hload : Workbook.load reader state.tree path = .error fault)
    (hcrash : fault.isRecorded = false) :
    addWorkbook reader delimiter output path state = .error (.load fault) state := by
  have hrun : (RunFault.load fault).isRecorded = false := hcrash
  rw [addWorkbook_eq, tabResults_of_error hload]
  simp only [hrun, Bool.false_eq_true, if_false]

/-- The results of tabs are balanced. -/
theorem balanced_of_forall₂ {tabs : List Tab} {results : List TabResult}
    (h : List.Forall₂
      (fun tab result ↦ TabResult.ofTab delimiter tab.name tab.data = .ok result) tabs results) :
    ∀ result ∈ results, result.Balanced := by
  induction h with
  | nil => simp
  | cons htab _ ih => exact List.forall_mem_cons.2 ⟨TabResult.balanced_of_ofTab htab, ih⟩

/-- **One more workbook**: adding a workbook that is read as at the start keeps a run in step with
its findings. -/
theorem Progress.addWorkbook (h : Progress output start before state)
    (hread : Workbook.load reader state.tree path = Workbook.load reader start path)
    (hadd : Batch.addWorkbook reader delimiter output path state = .ok () state') :
    ∃ found, Finds reader delimiter start path found ∧
      Progress output start (before ++ found) state' := by
  rcases hload : Workbook.load reader start path with fault | tabs
  · rcases hrecorded : fault.isRecorded with _ | _
    · rw [addWorkbook_of_crash (hread.trans hload) hrecorded] at hadd
      cases hadd
    · rw [addWorkbook_of_unreadable (hread.trans hload) hrecorded] at hadd
      cases hadd
      exact ⟨_, .unreadable hload hrecorded, h.unreadable path.name fault⟩
  · obtain ⟨results, hresults, hrun⟩ := addWorkbook_of_tabs delimiter output
      (hread.trans hload)
    exact ⟨_, .tabs hload hresults,
      h.addResults (balanced_of_forall₂ hresults) (hrun.symm.trans hadd)⟩

/-- Without an output directory, only a reader that breaks down stops a workbook from being
added. -/
theorem exists_addWorkbook (hload : ∀ fault, Workbook.load reader state.tree path = .error fault →
    fault.isRecorded = true) :
    ∃ state', Batch.addWorkbook reader delimiter none path state = .ok () state' := by
  rcases hresult : Workbook.load reader state.tree path with fault | tabs
  · exact ⟨_, addWorkbook_of_unreadable hresult (hload fault hresult)⟩
  · obtain ⟨results, hresults, hrun⟩ := addWorkbook_of_tabs delimiter none hresult
    obtain ⟨state', hadd⟩ := exists_addResults (balanced_of_forall₂ hresults) state
    exact ⟨state', hrun.trans hadd⟩

/-! ### Whole runs -/

variable {paths : List Path}

/-- **All workbooks**: a run over workbooks that are read as at the start comes across their
findings, in order, and stays in step with them. -/
theorem Progress.addWorkbooks (h : Progress output start before state)
    (hread : ∀ before state, Progress output start before state → ∀ path ∈ paths,
      Workbook.load reader state.tree path = Workbook.load reader start path)
    (hadd : paths.forM (Batch.addWorkbook reader delimiter output) state = .ok () state') :
    ∃ found, List.Forall₂ (Finds reader delimiter start) paths found ∧
      Progress output start (before ++ found.flatten) state' := by
  induction paths generalizing before state with
  | nil =>
    cases hadd
    exact ⟨[], .nil, by simpa using h⟩
  | cons path paths ih =>
    obtain ⟨_, between, hfirst, hrest⟩ := EStateM.bind_eq_ok_iff.1 hadd
    obtain ⟨first, hfinds, hnext⟩ := h.addWorkbook (hread _ _ h path List.mem_cons_self) hfirst
    have hread' : ∀ before state, Progress output start before state → ∀ path ∈ paths,
        Workbook.load reader state.tree path = Workbook.load reader start path :=
      fun before state h path' hmem ↦ hread before state h path' (List.mem_cons_of_mem _ hmem)
    obtain ⟨rest, hfound, hall⟩ := ih hnext hread' hrest
    exact ⟨first :: rest, .cons hfinds hfound, by simpa using hall⟩

theorem ofRunDisk_workbooksIn (tree : FileTree) (input : Path) :
    ofRunDisk (fun tree ↦ RunDisk.ofExcept id (workbooksIn tree input) tree) { tree } =
      match workbooksIn tree input with
      | .ok paths => .ok paths { tree }
      | .error fault => .error fault { tree } := by
  rcases h : workbooksIn tree input with fault | paths
  · simp only [ofRunDisk, h]
    rfl
  · simp only [ofRunDisk, h]
    rfl

/-- A run over a directory that can be listed adds its workbooks and reports what was entered. -/
theorem convertAll_eq {tree : FileTree} {input : Path}
    (hfind : Workbook.find? tree input = .ok (some paths)) :
    convertAll reader delimiter input output { tree } =
      match paths.forM (Batch.addWorkbook reader delimiter output) { tree } with
      | .ok _ state => .ok { workbooks := paths.length, entries := state.entries } state
      | .error fault state => .error fault state := by
  have hlist := ofRunDisk_workbooksIn tree input
  rw [workbooksIn, hfind] at hlist
  rw [convertAll, EStateM.bind_of_ok hlist]
  rcases hadd : paths.forM (Batch.addWorkbook reader delimiter output) { tree } with
    ⟨_, after⟩ | ⟨fault, after⟩
  · rw [EStateM.bind_of_ok hadd]
    rfl
  · rw [EStateM.bind_of_error hadd]

/-- A run over a directory that cannot be listed changes nothing. -/
theorem convertAll_of_find?_eq_error {tree : FileTree} {input : Path} {fault : FileFault}
    (hfind : Workbook.find? tree input = .error fault) :
    convertAll reader delimiter input output { tree } = .error (.file fault) { tree } := by
  have hlist := ofRunDisk_workbooksIn tree input
  rw [workbooksIn, hfind] at hlist
  rw [convertAll, EStateM.bind_of_error hlist]

/-- A run has a report just if the workbooks are listed and added one after the other. -/
theorem convertAll_eq_ok_iff {tree : FileTree} {input : Path} {report : Report} :
    convertAll reader delimiter input output { tree } = .ok report state ↔ ∃ paths,
      Workbook.find? tree input = .ok (some paths) ∧
      paths.forM (Batch.addWorkbook reader delimiter output) { tree } = .ok () state ∧
      report = { workbooks := paths.length, entries := state.entries } := by
  rcases hfind : Workbook.find? tree input with fault | _ | paths
  · rw [convertAll_of_find?_eq_error hfind]
    simp
  · have hlist := ofRunDisk_workbooksIn tree input
    rw [workbooksIn, hfind] at hlist
    rw [convertAll, EStateM.bind_of_error hlist]
    simp
  · rw [convertAll_eq hfind]
    simp only [Except.ok.injEq, Option.some.injEq, exists_eq_left']
    split
    · next after hadd =>
      rw [hadd]
      simp only [EStateM.Result.ok.injEq]
      constructor
      · rintro ⟨rfl, rfl⟩
        exact ⟨⟨trivial, rfl⟩, rfl⟩
      · rintro ⟨⟨-, rfl⟩, rfl⟩
        exact ⟨rfl, rfl⟩
    · next hadd => simp [hadd]

end Steps

end Batch

end ConfigTables
