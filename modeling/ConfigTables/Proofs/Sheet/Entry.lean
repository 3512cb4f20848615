import ConfigTables.Proofs.Sheet.Accounting
import ConfigTables.Proofs.Sheet.Classification

/-!
# What a report says about a tab

A tab of a workbook is converted and entered in a report without a guard ever being tripped, and
what is entered can be told from the cells of the tab (`TabResult.exists_entry_tells`): its status
is the one that the tab is due (`Tab.Due`), and its numbers are those of the rows that came in and
went out.

That no row is gained or lost on the way comes from `TypedRows.Accounts`. That no guard is tripped
comes from the functions themselves (`TabResult.exists_ofTab`, `TabResult.entry_eq_ok`), and that
the columns are complete from the header (`Header.withOutput_of_compile`).
-/

namespace ConfigTables

/-! ### Complete columns -/

/-- The exported columns of a header pass the guard for their names and scopes. -/
theorem Header.withOutput_of_compile {rows : HeaderRows} {columns : List Column}
    (h : compile rows = .ok columns) {column : Column} (hcolumn : column ∈ columns)
    {output : Output} (houtput : column.output = some output) :
    Column.withOutput column.index column.label output.name output.scope output.type =
      .ok column := by
  obtain ⟨cells, -, -, hfailure, hlabels, rfl⟩ := exists_ofColumns h
  have hmade := (failure?_eq_none_iff.1 hfailure).mapM_toColumn
  rw [if_pos hlabels] at hmade
  obtain ⟨⟨here, position⟩, -, hhere⟩ := (Except.mapM_eq_ok_iff.1 hmade).flip.exists_of_mem hcolumn
  have hsame := output_of_toColumn hhere
  rw [HeaderCells.toColumn, ← hsame, houtput] at hhere
  split at hhere
  · cases hhere
  have hcomplete := hhere
  dsimp only [Column.withOutput] at hcomplete
  split_ifs at hcomplete
  cases hcomplete
  exact hhere

/-! ### The status of a tab -/

namespace Tab

variable {delimiter : Delimiter} {tab : Tab} {sheet : Sheet} {status status' : SheetStatus}

/-- A tab is a config sheet, namely the given one. -/
def Holds (tab : Tab) (sheet : Sheet) : Prop :=
  Classification.ofRows tab.name tab.data = .ok (.config sheet)

/-- The status that a tab is due. -/
inductive Due (delimiter : Delimiter) (tab : Tab) : SheetStatus → Prop where
  | skipped (short : tab.rows.length < headerHeight) : Due delimiter tab .skipped
  | malformed (long : headerHeight ≤ tab.rows.length) (rejected : ∀ sheet, ¬tab.Holds sheet) :
      Due delimiter tab .malformed
  | invalidValues {sheet : Sheet} {line position : Nat} {fault : Fault} (holds : tab.Holds sheet)
      (fails : TypedRows.FaultAt delimiter.text tab sheet line position fault) :
      Due delimiter tab .invalidValues
  | converted {sheet : Sheet} (holds : tab.Holds sheet)
      (converts : ∀ line position fault,
        ¬TypedRows.FaultAt delimiter.text tab sheet line position fault) :
      Due delimiter tab .converted

theorem length_data (tab : Tab) : tab.data.length = tab.rows.length := by
  rw [data, List.length_map]

/-- A config sheet has all the rows of a header. -/
theorem Holds.length_le (h : tab.Holds sheet) : headerHeight ≤ tab.rows.length := by
  rw [← length_data]
  by_contra hshort
  rw [Holds, Classification.ofRows_of_length_lt (Nat.lt_of_not_le hshort)] at h
  cases h

/-- A tab is one config sheet at most. -/
theorem Holds.unique {sheet' : Sheet} (h : tab.Holds sheet) (h' : tab.Holds sheet') :
    sheet = sheet' := by
  cases Except.ok.inj (h.symm.trans h')
  rfl

/-- A tab is due at most one status. -/
theorem Due.unique (h : Due delimiter tab status) (h' : Due delimiter tab status') :
    status = status' := by
  have hlong {sheet : Sheet} (holds : tab.Holds sheet) (short : tab.rows.length < headerHeight) :
      False := Nat.not_le.2 short holds.length_le
  cases h with
  | skipped short =>
    cases h' with
    | skipped => rfl
    | malformed long => exact absurd long (Nat.not_le.2 short)
    | invalidValues holds => exact (hlong holds short).elim
    | converted holds => exact (hlong holds short).elim
  | malformed long rejected =>
    cases h' with
    | skipped short => exact absurd long (Nat.not_le.2 short)
    | malformed => rfl
    | invalidValues holds => exact absurd holds (rejected _)
    | converted holds => exact absurd holds (rejected _)
  | invalidValues holds fails =>
    cases h' with
    | skipped short => exact (hlong holds short).elim
    | malformed _ rejected => exact absurd holds (rejected _)
    | invalidValues => rfl
    | converted holds' converts =>
      obtain rfl := holds.unique holds'
      exact absurd fails (converts _ _ _)
  | converted holds converts =>
    cases h' with
    | skipped short => exact (hlong holds short).elim
    | malformed _ rejected => exact absurd holds (rejected _)
    | invalidValues holds' fails =>
      obtain rfl := holds.unique holds'
      exact absurd fails (converts _ _ _)
    | converted => rfl

end Tab

namespace TabResult

variable {delimiter : Delimiter} {tab : Tab} {sheet : Sheet} {result : TabResult}

theorem ofRows_of_ofTab {name : String} {rows : List Datum}
    (h : ofTab delimiter name rows = .ok result) :
    Classification.ofRows name rows = .ok result.outcome := by
  obtain ⟨sheet | ⟨name', rejection⟩, houtcome, h⟩ := Except.bind_eq_ok_iff.1 h
  · obtain ⟨typed, -, h⟩ := Except.bind_eq_ok_iff.1 h
    cases h
    exact houtcome
  · cases h
    exact houtcome

/-- The result of a tab says whether it is a config sheet, and which. -/
theorem holds_iff (h : ofTab delimiter tab.name tab.data = .ok result) :
    tab.Holds sheet ↔ result.outcome = .config sheet := by
  rw [Tab.Holds, ofRows_of_ofTab h, Except.ok.injEq]

theorem accounts_of_ofTab (h : ofTab delimiter tab.name tab.data = .ok result)
    (hsheet : result.outcome = .config sheet) :
    TypedRows.Accounts delimiter.text tab sheet
      { rows := result.rows, errors := result.errors } := by
  obtain ⟨hrows, htyped⟩ := spec_of_ofTab h hsheet
  exact TypedRows.accounts_of_ofSheet (Classification.standsIn_of_ofRows hrows) htyped

/-- **Status**: the result of a tab has the status that the tab is due. -/
theorem due_of_ofTab (h : ofTab delimiter tab.name tab.data = .ok result) :
    tab.Due delimiter result.status := by
  rcases houtcome : result.outcome with sheet | ⟨name, rejection⟩
  · have hholds : tab.Holds sheet := (holds_iff h).2 houtcome
    have haccounts := accounts_of_ofTab h houtcome
    rcases herrors : result.errors with _ | ⟨error, errors⟩
    · rw [(status_eq_converted_iff houtcome).2 herrors]
      refine .converted hholds fun line position fault hfault ↦ ?_
      have herror := (haccounts.errors _).2 ⟨line, position, fault, hfault, rfl⟩
      rw [herrors] at herror
      cases herror
    · obtain ⟨line, position, fault, hfault, -⟩ :=
        (haccounts.errors error).1 (herrors ▸ List.mem_cons_self)
      rw [status, houtcome, herrors]
      exact .invalidValues hholds hfault
  · have hrejected (sheet : Sheet) : ¬tab.Holds sheet := by
      rw [holds_iff h, houtcome]
      rintro ⟨⟩
    have hspec := Classification.rejection_of_ofRows (houtcome ▸ ofRows_of_ofTab h)
    rw [Tab.length_data] at hspec
    rw [status, houtcome]
    obtain ⟨hshort, rfl⟩ | ⟨hlong, error, rfl⟩ := hspec
    · exact .skipped hshort
    · exact .malformed hlong hrejected

/-- **Rows**: a tab that is converted has a row for each of its data rows that is not blank. -/
theorem length_rows_of_ofTab (h : ofTab delimiter tab.name tab.data = .ok result)
    (hstatus : result.status = .converted) :
    result.rows.length =
      (tab.rows.drop headerHeight).countP fun row ↦ !row.all (·.all Text.isBlank) := by
  obtain ⟨sheet, houtcome⟩ : ∃ sheet, result.outcome = .config sheet := by
    have hdue := due_of_ofTab h
    rw [hstatus] at hdue
    cases hdue with
    | converted holds => exact ⟨_, (holds_iff h).1 holds⟩
  obtain ⟨lines, -, hlines, hcount⟩ := (accounts_of_ofTab h houtcome).count
  have hnone : lines = [] := List.eq_nil_iff_forall_not_mem.2 fun line hline ↦ by
    obtain ⟨error, herror, -⟩ := (hlines line).1 hline
    rw [(status_eq_converted_iff houtcome).1 hstatus] at herror
    cases herror
  rw [List.length_eq_countP_add_countP (·.all (·.all Text.isBlank)), Nat.add_assoc,
    Nat.add_left_cancel_iff, hnone] at hcount
  simpa only [List.length_nil, Nat.add_zero, Bool.not_eq_true, Bool.decide_eq_false] using
    hcount.symm

/-- What is entered for a tab, told from the cells of the tab. -/
structure Tells (delimiter : Delimiter) (tab : Tab) (entry : ReportEntry) : Prop where
  status : ∀ status, entry.status = status ↔ tab.Due delimiter status
  rowsIn : (∃ sheet, tab.Holds sheet) → entry.rowsIn = tab.rows.length - headerHeight
  rowsIn_rejected : (¬∃ sheet, tab.Holds sheet) → entry.rowsIn = 0
  /-- As many rows come out as are not blank, if any come out. -/
  rowsOut : entry.status = .converted → entry.rowsOut =
    (tab.rows.drop headerHeight).countP fun row ↦ !row.all (·.all Text.isBlank)
  rowsOut_failed : entry.status ≠ .converted → entry.rowsOut = 0
  balanced : entry.rowsOut ≤ entry.rowsIn

/-- The entry for the result of a tab tells what the cells of the tab are due. -/
theorem tells_report (h : ofTab delimiter tab.name tab.data = .ok result) (workbook : String)
    (outputs : List Path) : Tells delimiter tab (result.report workbook outputs) := by
  have hdue : tab.Due delimiter (result.report workbook outputs).status := due_of_ofTab h
  refine ⟨fun _ ↦ ⟨fun heq ↦ heq ▸ hdue, hdue.unique⟩, ?_, fun hnone ↦ ?_, fun hstatus ↦ ?_,
    fun hstatus ↦ if_neg hstatus, ?_⟩
  · rintro ⟨sheet, holds⟩
    have hdata := (Classification.standsIn_of_ofRows holds).dataRows
    change result.sheet?.elim 0 (·.dataRows.length) = _
    rw [sheet?, (holds_iff h).1 holds, Option.elim_some, hdata, List.length_map, List.length_drop]
  · change result.sheet?.elim 0 (·.dataRows.length) = 0
    rcases houtcome : result.outcome with sheet | ⟨name, rejection⟩
    · exact absurd ⟨sheet, (holds_iff h).2 houtcome⟩ hnone
    · rw [sheet?, houtcome, Option.elim_none]
  · exact (if_pos hstatus).trans (length_rows_of_ofTab h hstatus)
  · change (if result.status = .converted then result.rows.length else 0) ≤
      result.sheet?.elim 0 (·.dataRows.length)
    split_ifs with hstatus
    · exact balanced_of_ofTab h hstatus
    · exact Nat.zero_le _

/-- **Entries**: a tab of a workbook is converted and entered, whatever its texts are, and the entry
tells what its cells are due. All of its exported columns pass their guard. -/
theorem exists_entry_tells (delimiter : Delimiter) (tab : Tab) (workbook : String)
    (outputs : List Path) :
    (∃ result entry, ofTab delimiter tab.name tab.data = .ok result ∧
      result.entry workbook outputs = .ok entry ∧ Tells delimiter tab entry) ∧
    ∀ sheet, tab.Holds sheet → ∀ column ∈ sheet.columns, ∀ output,
      column.output = some output →
      Column.withOutput column.index column.label output.name output.scope output.type =
        .ok column := by
  constructor
  · obtain ⟨result, hresult⟩ := exists_ofTab delimiter tab
    exact ⟨result, result.report workbook outputs, hresult,
      entry_eq_ok (balanced_of_ofTab hresult) workbook outputs,
      tells_report hresult workbook outputs⟩
  · intro sheet holds column hcolumn output houtput
    obtain ⟨_, _, header, _, -, -, -, hheader, -⟩ := Classification.spec_of_ofRows holds
    exact Header.withOutput_of_compile hheader hcolumn houtput

end TabResult

end ConfigTables
