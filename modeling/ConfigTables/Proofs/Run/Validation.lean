import ConfigTables.Proofs.Run.Progress

/-!
# Runs without an output directory

Without an output directory a run changes no file, so all workbooks are read as at the start, and
nothing but a reader that breaks down ends it early (`Batch.exists_validation`,
`Batch.validation_of_crash`).

What there is to find in a workbook is determined by what it loads as (`Batch.Finds.unique`), and so
is the report: `Batch.validation_report` gives it entry by entry.
-/

namespace ConfigTables

namespace Batch

variable {reader : WorkbookReader} {delimiter : Delimiter} {tree : FileTree} {input : Path}
  {location : Location}

/-! ### Runs that end with a report -/

/-- A run without an output directory leaves the tree as it was at the start. -/
theorem Progress.tree_eq {start : FileTree} {before : List Finding} {state : BatchState}
    (h : Progress none start before state) : state.tree = start := by
  simpa [Export.Writes] using h.writes

/-- Workbooks that are there to be read, or fail to be in a way that is recorded, can all be
added. -/
theorem exists_addWorkbooks (delimiter : Delimiter) {start : FileTree} {before : List Finding}
    {state : BatchState} {paths : List Path} (h : Progress none start before state)
    (hloads : ∀ path ∈ paths, ∀ fault, Workbook.load reader start path = .error fault →
      fault.isRecorded = true) :
    ∃ found state', List.Forall₂ (Finds reader delimiter start) paths found ∧
      paths.forM (addWorkbook reader delimiter none) state = .ok () state' ∧
      Progress none start (before ++ found.flatten) state' := by
  induction paths generalizing before state with
  | nil => exact ⟨[], state, .nil, rfl, by simpa using h⟩
  | cons path paths ih =>
    have hread : Workbook.load reader state.tree path = Workbook.load reader start path := by
      rw [h.tree_eq]
    obtain ⟨between, hfirst⟩ : ∃ between,
        addWorkbook reader delimiter none path state = .ok () between := by
      refine exists_addWorkbook fun fault hfault ↦ ?_
      exact hloads path List.mem_cons_self fault (hread.symm.trans hfault)
    obtain ⟨first, hfinds, hnext⟩ := h.addWorkbook hread hfirst
    obtain ⟨rest, after, hfound, hrest, hall⟩ := ih hnext
      fun path' hmem ↦ hloads path' (List.mem_cons_of_mem _ hmem)
    refine ⟨first :: rest, after, .cons hfinds hfound, ?_, by simpa using hall⟩
    exact EStateM.bind_eq_ok_iff.2 ⟨(), between, hfirst, hrest⟩

/-- Of a directory that can be listed there is a report, unless the reader breaks down. -/
theorem exists_validation (delimiter : Delimiter) (hinput : Workbook.Listable tree input location)
    (hloads : ∀ name ∈ Workbook.names tree location, ∀ fault,
      Workbook.load reader tree (input.entry name) = .error fault → fault.isRecorded = true) :
    ∃ found state, List.Forall₂ (fun name ↦ Finds reader delimiter tree (input.entry name))
        (Workbook.names tree location) found ∧
      convertAll reader delimiter input none { tree } =
        .ok { workbooks := (Workbook.names tree location).length
              entries := (Finding.settleAll [] found.flatten).map (Finding.entry []) } state := by
  have hpaths : ∀ path ∈ (Workbook.names tree location).map input.entry, ∀ fault,
      Workbook.load reader tree path = .error fault → fault.isRecorded = true := by
    intro path hpath
    obtain ⟨name, hname, rfl⟩ := List.mem_map.1 hpath
    exact hloads name hname
  obtain ⟨found, state, hfound, hadd, hprogress⟩ :=
    exists_addWorkbooks delimiter (progress_start none tree) hpaths
  refine ⟨found, state, (List.forall₂_map_left_iff).1 hfound, convertAll_eq_ok_iff.2 ?_⟩
  refine ⟨_, Workbook.find?_eq_ok_iff.2 ⟨location, hinput, rfl⟩, hadd, ?_⟩
  rw [hprogress.entries, List.length_map, List.nil_append]
  rfl

/-- A run over a directory ends where the reader first breaks down. -/
theorem validation_of_crash (hinput : Workbook.Listable tree input location)
    {done rest : List String} {name kind message : String}
    (hnames : Workbook.names tree location = done ++ name :: rest)
    (hdone : ∀ earlier ∈ done, ∀ fault,
      Workbook.load reader tree (input.entry earlier) = .error fault → fault.isRecorded = true)
    (hcrash : Workbook.load reader tree (input.entry name) = .error (.crash kind message)) :
    ∃ state, convertAll reader delimiter input none { tree } =
      .error (.load (.crash kind message)) state := by
  have hpaths : ∀ path ∈ done.map input.entry, ∀ fault,
      Workbook.load reader tree path = .error fault → fault.isRecorded = true := by
    intro path hpath
    obtain ⟨earlier, hearlier, rfl⟩ := List.mem_map.1 hpath
    exact hdone earlier hearlier
  obtain ⟨found, between, -, hadd, hprogress⟩ :=
    exists_addWorkbooks delimiter (progress_start none tree) hpaths
  have hread : Workbook.load reader between.tree (input.entry name) =
      .error (.crash kind message) := by
    rw [hprogress.tree_eq, hcrash]
  have hrun : ((Workbook.names tree location).map input.entry).forM
      (addWorkbook reader delimiter none) { tree } =
        .error (.load (.crash kind message)) between := by
    rw [hnames, List.map_append, List.map_cons, EStateM.forM_append_of_ok hadd]
    exact EStateM.bind_of_error (addWorkbook_of_crash hread rfl)
  refine ⟨between, ?_⟩
  rw [convertAll_eq (Workbook.find?_eq_ok_iff.2 ⟨location, hinput, rfl⟩), hrun]

/-! ### The findings are determined -/

/-- A workbook has one list of findings. -/
theorem Finds.unique {path : Path} {found found' : List Finding}
    (h : Finds reader delimiter tree path found) (h' : Finds reader delimiter tree path found') :
    found' = found := by
  rcases h with ⟨hload, -⟩ | ⟨hload, hresults⟩ <;> rcases h' with ⟨hload', -⟩ | ⟨hload', hresults'⟩
  · cases hload.symm.trans hload'
    rfl
  · cases hload.symm.trans hload'
  · cases hload.symm.trans hload'
  · cases hload.symm.trans hload'
    have heq := (Except.mapM_eq_ok_iff.2 hresults).symm.trans (Except.mapM_eq_ok_iff.2 hresults')
    cases heq
    rfl

theorem Finds.balanced {path : Path} {found : List Finding}
    (h : Finds reader delimiter tree path found) {workbook : String} {result : TabResult}
    (hmem : .tab workbook result ∈ found) : result.Balanced := by
  rcases h with ⟨-, -⟩ | ⟨-, hresults⟩
  · cases List.mem_singleton.1 hmem
  · obtain ⟨result', hresult, heq⟩ := List.mem_map.1 hmem
    cases heq
    exact balanced_of_forall₂ hresults result hresult

/-- What is found in a workbook is what is found where it loads as well. -/
theorem Finds.congr {other : FileTree} {path : Path} {found : List Finding}
    (h : Finds reader delimiter other path found)
    (hload : Workbook.load reader other path = Workbook.load reader tree path) :
    Finds reader delimiter tree path found := by
  rcases h with ⟨hfault, hrecorded⟩ | ⟨htabs, hresults⟩
  · exact .unreadable (hload.symm.trans hfault) hrecorded
  · exact .tabs (hload.symm.trans htabs) hresults

/-- Workbooks have one list of findings each. -/
theorem forall₂_finds_unique {names : List String} {found found' : List (List Finding)}
    (h : List.Forall₂ (fun name ↦ Finds reader delimiter tree (input.entry name)) names found)
    (h' : List.Forall₂ (fun name ↦ Finds reader delimiter tree (input.entry name)) names found') :
    found' = found := by
  have hunique : Relator.RightUnique fun name ↦ Finds reader delimiter tree (input.entry name) :=
    fun _ _ _ hfinds hfinds' ↦ hfinds'.unique hfinds
  exact List.right_unique_forall₂' hunique h' h

/-- What is found depends on nothing but what the workbooks are read as. -/
theorem forall₂_finds_congr {other : FileTree} {names : List String} {found : List (List Finding)}
    (h : List.Forall₂ (fun name ↦ Finds reader delimiter other (input.entry name)) names found)
    (hload : ∀ name ∈ names, Workbook.load reader other (input.entry name) =
      Workbook.load reader tree (input.entry name)) :
    List.Forall₂ (fun name ↦ Finds reader delimiter tree (input.entry name)) names found := by
  induction h with
  | nil => exact .nil
  | cons hfinds _ ih =>
    rw [List.forall_mem_cons] at hload
    exact .cons (hfinds.congr hload.1) (ih hload.2)

theorem balanced_of_forall₂_finds {names : List String} {found : List (List Finding)}
    (h : List.Forall₂ (fun name ↦ Finds reader delimiter tree (input.entry name)) names found)
    {workbook : String} {result : TabResult} (hmem : .tab workbook result ∈ found.flatten) :
    result.Balanced := by
  induction h with
  | nil => cases hmem
  | cons hfinds _ ih =>
    rcases List.mem_append.1 hmem with hmem | hmem
    · exact hfinds.balanced hmem
    · exact ih hmem

/-- The order in which the tree lists its entries does not matter. -/
theorem validation_of_perm {found : List (List Finding)} {other : FileTree}
    (hdistinct : tree.Distinct) (hhome : other.home = tree.home)
    (hperm : tree.entries.Perm other.entries) (hinput : Workbook.Listable tree input location)
    (hloads : ∀ name ∈ Workbook.names tree location, ∀ fault,
      Workbook.load reader tree (input.entry name) = .error fault → fault.isRecorded = true)
    (hfound : List.Forall₂ (fun name ↦ Finds reader delimiter tree (input.entry name))
      (Workbook.names tree location) found) :
    ∃ state, convertAll reader delimiter input none { tree := other } =
      .ok { workbooks := (Workbook.names tree location).length
            entries := (Finding.settleAll [] found.flatten).map (Finding.entry []) } state := by
  -- The same workbooks are listed, and each is loaded as before.
  have hload : ∀ name ∈ Workbook.names tree location,
      Workbook.load reader other (input.entry name) =
        Workbook.load reader tree (input.entry name) := by
    intro name hname
    have hbook := ((Workbook.mem_names hdistinct).1 hname).1
    exact Workbook.load_of_perm reader hdistinct hhome hperm hinput hbook
  have hnames : Workbook.names other location = Workbook.names tree location :=
    Workbook.names_of_perm hdistinct hperm
  have hloads' : ∀ name ∈ Workbook.names other location, ∀ fault,
      Workbook.load reader other (input.entry name) = .error fault → fault.isRecorded = true := by
    rw [hnames]
    intro name hname fault hfault
    exact hloads name hname fault ((hload name hname).symm.trans hfault)
  obtain ⟨found', state, hfound', hrun⟩ :=
    exists_validation delimiter (hinput.of_perm hdistinct hhome hperm) hloads'
  rw [hnames] at hfound' hrun
  rw [forall₂_finds_unique hfound (forall₂_finds_congr hfound' hload)] at hrun
  exact ⟨state, hrun⟩

/-! ### The report, entry by entry -/

/-- **Validation**: the report on a directory whose workbooks can be read, or fail to be in a way
that is recorded. The workbooks are the files whose names say so, in the order of their names. In
that order, and within a workbook in the order of its tabs, there is one entry for each workbook
that cannot be read and one for each tab of the others. Each entry is that of the finding itself,
unless a file name is refused. The order in which the tree lists its entries does not matter. -/
theorem validation_report (hdistinct : tree.Distinct)
    (hinput : Workbook.Listable tree input location)
    (hloads : ∀ name ∈ Workbook.names tree location, ∀ fault,
      Workbook.load reader tree (input.entry name) = .error fault → fault.isRecorded = true) :
    (Workbook.names tree location).Pairwise (· < ·) ∧
    (∀ name, name ∈ Workbook.names tree location ↔ Workbook.isName name = true ∧
      ∃ content, tree.lookup (location ++ [name]) = some (.file content)) ∧
    ∃ report found,
      (∃ state, convertAll reader delimiter input none { tree } = .ok report state) ∧
      List.Forall₂ (fun name ↦ Finds reader delimiter tree (input.entry name))
        (Workbook.names tree location) found ∧
      report.workbooks = (Workbook.names tree location).length ∧
      report.entries.length = found.flatten.length ∧
      (∀ i finding entry, found.flatten[i]? = some finding → report.entries[i]? = some entry →
        Finding.Enters (found.flatten.take i) finding entry) ∧
      ∀ other : FileTree, other.home = tree.home → tree.entries.Perm other.entries →
        ∃ state, convertAll reader delimiter input none { tree := other } = .ok report state := by
  obtain ⟨found, state, hfound, hrun⟩ := exists_validation delimiter hinput hloads
  refine ⟨Workbook.pairwise_names hdistinct location, fun name ↦ Workbook.mem_names hdistinct,
    _, found, ⟨state, hrun⟩, hfound, rfl, ?_, ?_, ?_⟩
  · rw [List.length_map, Finding.length_settleAll]
  · intro i finding entry hfinding hentry
    rw [List.getElem?_map, Finding.getElem?_settleAll, hfinding] at hentry
    cases hentry
    refine Finding.enters_settle _ _ fun workbook result heq ↦ ?_
    exact balanced_of_forall₂_finds hfound (heq ▸ List.mem_of_getElem? hfinding)
  · intro other hhome hperm
    exact validation_of_perm hdistinct hhome hperm hinput hloads hfound

/-! ### A small directory -/

/-- A tab with one column of numbers. -/
def sampleTab : Tab :=
  { name := "Items"
    rows := [[some Markers.fileMark, some "items"], [some Markers.classMark, some "Items"],
      [some "Number"], [some "int"], [some "id"], [some "sc"], [some "1"], [some "2"]] }

/-- A directory with three files. -/
def sampleTree : FileTree :=
  { entries := [(["in"], .directory), (["in", "c.xls"], .file ⟨#[]⟩),
      (["in", "b.xlsx"], .file ⟨#[]⟩), (["in", "a.xlsx"], .file ⟨#[]⟩)] }

/-- The path of the directory. -/
def sampleInput : Path := { parts := ["in"] }

/-- A reader that gives the same tab for all files but one, for which it fails. -/
def sampleReader (failure : ReadFailure) : WorkbookReader := fun location _ ↦
  if location = ["in", "c.xls"] then .error failure else .ok [sampleTab]

theorem distinct_sampleTree : sampleTree.Distinct := by
  unfold FileTree.Distinct
  decide

theorem listable_sampleTree : Workbook.Listable sampleTree sampleInput ["in"] := by
  refine ⟨rfl, rfl, ?_⟩
  decide

theorem names_sampleTree :
    Workbook.names sampleTree ["in"] = ["a.xlsx", "b.xlsx", "c.xls"] := by
  have hperm := (Workbook.names_perm sampleTree ["in"]).trans
    (by decide : List.Perm _ ["a.xlsx", "b.xlsx", "c.xls"])
  refine hperm.eq_of_pairwise' (Workbook.pairwise_names distinct_sampleTree _) ?_
  simp only [String.lt_iff_toList_lt, List.pairwise_cons]
  decide

/-- Two of the workbooks have the same tab, and the third cannot be read. -/
theorem load_sampleTree (failure : ReadFailure) :
    Workbook.load (sampleReader failure) sampleTree (sampleInput.entry "a.xlsx") =
        .ok [sampleTab.squared] ∧
      Workbook.load (sampleReader failure) sampleTree (sampleInput.entry "b.xlsx") =
        .ok [sampleTab.squared] ∧
      Workbook.load (sampleReader failure) sampleTree (sampleInput.entry "c.xls") =
        .error (.ofReadFailure (sampleInput.entry "c.xls") .xls failure) :=
  ⟨rfl, rfl, rfl⟩

theorem isRecorded_sampleTree : ∀ name ∈ Workbook.names sampleTree ["in"], ∀ fault,
    Workbook.load (sampleReader (.unreadable "truncated")) sampleTree (sampleInput.entry name) =
      .error fault → fault.isRecorded = true := by
  obtain ⟨ha, hb, hc⟩ := load_sampleTree (.unreadable "truncated")
  rw [names_sampleTree]
  simp [ha, hb, hc, LoadFault.ofReadFailure, LoadFault.isRecorded]

/-- There is a report on three workbooks, whatever the order of the files. -/
theorem validation_report_sampleTree :
    sampleTree.Distinct ∧ Workbook.Listable sampleTree sampleInput ["in"] ∧
      ∃ report state,
        convertAll (sampleReader (.unreadable "truncated")) .comma sampleInput none
          { tree := sampleTree } = .ok report state ∧
        report.workbooks = 3 := by
  obtain ⟨-, -, report, found, ⟨state, hrun⟩, -, hcount, -⟩ :=
    validation_report distinct_sampleTree listable_sampleTree isRecorded_sampleTree
  refine ⟨distinct_sampleTree, listable_sampleTree, report, state, hrun, ?_⟩
  rw [hcount, names_sampleTree]
  rfl

end Batch

end ConfigTables
