import ConfigTables.Proofs.Run.Exporting

/-!
# Validation and export agree

A run with an output directory writes while it still reads, and the output directory may be the
input directory, or lie above or below it. Even so the run comes across what there is to find in the
workbooks as they were at the start (`Batch.progress_of_export`), since no document is ever where a
workbook is. A run without an output directory comes across the same findings, so the two reports
differ in the listed outputs and in nothing else (`Batch.validation_of_export`).
-/

namespace ConfigTables

/-- A report that lists no outputs. -/
def Report.withoutOutputs (report : Report) : Report :=
  { report with entries := report.entries.map fun entry ↦ { entry with outputs := [] } }

/-- The outputs are the one part of an entry that depends on what was written. -/
theorem Finding.entry_nil (finding : Finding) (outputs : List Path) :
    { finding.entry outputs with outputs := [] } = finding.entry [] := by
  rcases finding with ⟨workbook, fault⟩ | ⟨workbook, result⟩ <;> rfl

namespace Batch

variable {reader : WorkbookReader} {delimiter : Delimiter} {tree : FileTree} {input output : Path}
  {location : Location} {report : Report} {state : BatchState}

/-! ### What an export comes across -/

/-- A run in progress reads the workbooks as they were at the start, as no document is ever where a
workbook is. -/
theorem load_of_progress (hinput : Workbook.Listable tree input location) :
    ∀ before between, Progress (some output) tree before between →
      ∀ path ∈ (Workbook.names tree location).map input.entry,
        Workbook.load reader between.tree path = Workbook.load reader tree path := by
  intro before between hprogress path hpath
  obtain ⟨name, hname, rfl⟩ := List.mem_map.1 hpath
  exact Export.load_of_exports reader hprogress.exports hinput hname

/-- A run that returns a report has come across the findings in the workbooks as they were at the
start, and has entered and written what became of them. -/
theorem progress_of_export
    (h : convertAll reader delimiter input (some output) { tree } = .ok report state) :
    ∃ location found, Workbook.Listable tree input location ∧
      List.Forall₂ (fun name ↦ Finds reader delimiter tree (input.entry name))
        (Workbook.names tree location) found ∧
      Progress (some output) tree found.flatten state ∧
      report = { workbooks := (Workbook.names tree location).length, entries := state.entries } := by
  obtain ⟨paths, hfind, hadd, rfl⟩ := convertAll_eq_ok_iff.1 h
  obtain ⟨location, hinput, rfl⟩ := Workbook.find?_eq_ok_iff.1 hfind
  obtain ⟨found, hfound, hprogress⟩ :=
    (progress_start (some output) tree).addWorkbooks (load_of_progress hinput) hadd
  rw [List.nil_append] at hprogress
  refine ⟨location, found, hinput, List.forall₂_map_left_iff.1 hfound, hprogress, ?_⟩
  rw [List.length_map]

/-! ### What a validation comes across -/

/-- Where there is something to find in a workbook, it loads, or fails to in a way that is
recorded. -/
theorem Finds.isRecorded {path : Path} {found : List Finding}
    (h : Finds reader delimiter tree path found) {fault : LoadFault}
    (hfault : Workbook.load reader tree path = .error fault) : fault.isRecorded = true := by
  rcases h with ⟨hload, hrecorded⟩ | ⟨hload, -⟩
  · cases hload.symm.trans hfault
    exact hrecorded
  · cases hload.symm.trans hfault

/-- Of a directory in which there are findings there is a report on them, and making it changes no
file. -/
theorem validation_of_finds (hinput : Workbook.Listable tree input location)
    {found : List (List Finding)}
    (hfound : List.Forall₂ (fun name ↦ Finds reader delimiter tree (input.entry name))
      (Workbook.names tree location) found) :
    ∃ state, convertAll reader delimiter input none { tree } =
        .ok { workbooks := (Workbook.names tree location).length
              entries := (Finding.settleAll [] found.flatten).map (Finding.entry []) } state ∧
      state.tree = tree := by
  have hpaths : ∀ path ∈ (Workbook.names tree location).map input.entry, ∀ fault,
      Workbook.load reader tree path = .error fault → fault.isRecorded = true := by
    intro path hpath fault hfault
    obtain ⟨name, hname, rfl⟩ := List.mem_map.1 hpath
    obtain ⟨first, -, hfinds⟩ := hfound.exists_of_mem hname
    exact hfinds.isRecorded hfault
  obtain ⟨found', state, hfound', hadd, hprogress⟩ :=
    exists_addWorkbooks delimiter (progress_start none tree) hpaths
  have heq : found' = found :=
    forall₂_finds_unique hfound (List.forall₂_map_left_iff.1 hfound')
  rw [List.nil_append, heq] at hprogress
  refine ⟨state, convertAll_eq_ok_iff.2 ?_, hprogress.tree_eq⟩
  refine ⟨_, Workbook.find?_eq_ok_iff.2 ⟨location, hinput, rfl⟩, hadd, ?_⟩
  rw [hprogress.entries, List.length_map]
  rfl

/-! ### Both runs -/

/-- **Agreement**: if a run with an output directory returns a report, then the run without one from
the same files returns that report with no outputs listed, and changes no file. -/
theorem validation_of_export
    (h : convertAll reader delimiter input (some output) { tree } = .ok report state) :
    ∃ state', convertAll reader delimiter input none { tree } =
        .ok report.withoutOutputs state' ∧
      state'.tree = tree := by
  obtain ⟨location, found, hinput, hfound, hprogress, rfl⟩ := progress_of_export h
  obtain ⟨state', hrun, htree⟩ := validation_of_finds hinput hfound
  refine ⟨state', ?_, htree⟩
  rw [hrun, Report.withoutOutputs, hprogress.entries, List.map_map]
  congr 2
  exact List.map_congr_left fun finding _ ↦ (Finding.entry_nil finding _).symm

/-- The sample directory is reported alike with and without an output directory, the listed outputs
aside. -/
theorem validation_of_export_sampleBook : ∃ report state,
    convertAll (sampleReader (.unreadable "truncated")) .comma sampleInput (some sampleOutput)
        { tree := sampleBook } = .ok report state ∧
      report.entries.flatMap (·.outputs) = ["out/svr/items.json", "out/client/items.json"] ∧
      ∃ state', convertAll (sampleReader (.unreadable "truncated")) .comma sampleInput none
          { tree := sampleBook } = .ok report.withoutOutputs state' ∧
        state'.tree = sampleBook := by
  obtain ⟨report, state, hrun, hlisted⟩ := convertAll_sampleBook (.unreadable "truncated")
  exact ⟨report, state, hrun, hlisted, validation_of_export hrun⟩

end Batch

end ConfigTables
