import ConfigTables.Proofs.Sheet.Classification
import ConfigTables.Sheet.Conversion
import ConfigTables.Workbook.Basic

/-!
# Tabs of workbooks always convert

The cells of a workbook hold texts or nothing. For such tabs no step of a conversion aborts: the
guards against an empty delimiter, an incomplete column, a cell of another shape and a row that is
no row are never tripped, and there is a text for whatever is put into one
(`TabResult.exists_ofTab`). The checks of a report entry let every result pass
(`TabResult.entry_eq_ok`).

Conversions are programs in `Except`, so each lemma follows one function: what it returns if its
parts return, with the induction of the function itself.
-/

namespace ConfigTables

/-! ### Values and rows -/

namespace Value

/-- A cell with a text or without anything in it is converted or has a fault. -/
theorem ofScalar_ne_abort (t : ScalarType) (cell : Option String) (cause : Abort) :
    ofScalar t (.ofCell cell) ≠ .error (.abort cause) := by
  cases t <;> cases cell <;> simp only [Datum.ofCell_none, Datum.ofCell_some, ofScalar, ne_eq,
    reduceCtorEq, not_false_iff, Except.error.injEq]
  split <;> simp

theorem ofCell_ne_abort (delimiter : Delimiter) (type : ColumnType) (cell : Option String)
    (cause : Abort) : ofCell delimiter.text type (.ofCell cell) ≠ .error (.abort cause) := by
  cases type with
  | scalar t => exact ofScalar_ne_abort t cell cause
  | array t =>
    have hparts : ∃ parts, elements delimiter.text (.ofCell cell) = .ok parts := by
      rw [elements, if_neg delimiter.text_ne]
      split_ifs
      · exact ⟨_, rfl⟩
      · cases cell <;> exact ⟨_, rfl⟩
    obtain ⟨parts, hparts⟩ := hparts
    intro h
    rw [ofCell, hparts] at h
    change ((parts.mapM fun part ↦ ofScalar t (.text part)) >>= fun values ↦
      Except.ok (Datum.list values)) = _ at h
    cases hvalues : parts.mapM fun part ↦ ofScalar t (.text part) with
    | ok values =>
      rw [hvalues] at h
      simp [bind, Except.bind] at h
    | error failure =>
      obtain ⟨part, -, hpart⟩ := Except.exists_of_mapM_eq_error hvalues
      rw [hvalues] at h
      cases h
      exact ofScalar_ne_abort t (some part) cause hpart

end Value

namespace TypedRows

/-- Where a row has no cell, nothing is what is there. -/
theorem exists_cellAt_eq (cells : List (Option String)) (index : Int) :
    ∃ cell, cellAt (cells.map .ofCell) index = .ofCell cell := by
  cases index with
  | negSucc n => exact ⟨none, rfl⟩
  | ofNat n =>
    refine ⟨cells[n]?.getD none, ?_⟩
    rw [cellAt, List.getElem?_map]
    cases cells[n]? <;> rfl

/-- A row of such cells is typed, with a value or an error in every exported column. -/
theorem exists_typeRow (delimiter : Delimiter) (line : Nat) (cells : List (Option String))
    (columns : List Column) :
    ∃ typed, typeRow delimiter.text line (cells.map .ofCell) columns = .ok typed := by
  induction columns with
  | nil => exact ⟨([], []), rfl⟩
  | cons column columns ih =>
    obtain ⟨rest, hrest⟩ := ih
    obtain ⟨cell, hcell⟩ := exists_cellAt_eq cells column.index
    rw [typeRow, hrest, hcell]
    cases column.output with
    | none => exact ⟨rest, rfl⟩
    | some output =>
      simp only
      cases hvalue : Value.ofCell delimiter.text output.type (.ofCell cell) with
      | ok value =>
        rw [Value.ofCellAt_of_ok hvalue]
        exact ⟨_, rfl⟩
      | error failure =>
        cases failure with
        | fault fault =>
          rw [Value.ofCellAt_of_fault hvalue]
          exact ⟨_, rfl⟩
        | abort cause => exact absurd hvalue (Value.ofCell_ne_abort delimiter _ cell cause)

/-- Rows of such cells are typed one and all. -/
theorem exists_ofBlock (delimiter : Delimiter) (columns : List Column) (line : Nat)
    (block : List (List (Option String))) :
    ∃ typed, ofBlock delimiter.text columns line (block.map (·.map .ofCell)) = .ok typed := by
  induction block generalizing line with
  | nil => exact ⟨{}, rfl⟩
  | cons cells block ih =>
    obtain ⟨rest, hrest⟩ := ih (line + 1)
    obtain ⟨⟨row, errors⟩, htyped⟩ := exists_typeRow delimiter line cells columns
    rw [List.map_cons, ofBlock, hrest, htyped]
    split_ifs
    · exact ⟨rest, rfl⟩
    · simp only [Except.bind_ok]
      split <;> exact ⟨_, rfl⟩

/-- Of each data row at most one typed row is made. -/
theorem length_rows_le {delimiter : String} {columns : List Column} {line : Nat}
    {block : List (List Datum)} {typed : TypedRows}
    (h : ofBlock delimiter columns line block = .ok typed) :
    typed.rows.length ≤ block.length := by
  induction block generalizing line typed with
  | nil =>
    cases h
    simp
  | cons cells block ih =>
    rw [ofBlock] at h
    split_ifs at h
    · exact (ih h).trans (Nat.le_succ _)
    · obtain ⟨⟨row, errors⟩, -, h⟩ := Except.bind_eq_ok_iff.1 h
      obtain ⟨rest, hrest, h⟩ := Except.bind_eq_ok_iff.1 h
      have hlength := ih hrest
      split at h <;> cases h <;> simp only [List.length_cons] <;> omega

end TypedRows

/-! ### Tabs -/

namespace Classification

/-- The data rows of a tab are its rows from the seventh on. -/
theorem exists_ofRows (tab : Tab) :
    ∃ outcome, ofRows tab.name tab.data = .ok outcome ∧ ∀ sheet, outcome = .config sheet →
      sheet.dataRows = (tab.rows.drop headerHeight).map (·.map .ofCell) := by
  have hcells (rows : List (List (Option String))) :
      (rows.map fun row ↦ Datum.list (row.map .ofCell)).mapM dataCells =
        .ok (rows.map (·.map .ofCell)) := by
    rw [Except.mapM_eq_ok_iff, List.forall₂_map_left_iff, List.forall₂_map_right_iff]
    exact List.forall₂_same.2 fun _ _ ↦ rfl
  have hreadable : ¬Unreadable tab.data := fun hunreadable ↦ by
    obtain ⟨row, hmem, htextless⟩ := hunreadable.exists_not_hasText
    obtain ⟨cells, -, rfl⟩ := List.mem_map.1 (List.mem_of_mem_take hmem)
    exact htextless (Datum.hasText_list_map_ofCell cells)
  obtain ⟨-, -, sheet, hrows⟩ | ⟨-, -, rejection, hrows⟩ | ⟨-, hunreadable, -⟩ :=
    ofRows_cases tab.name tab.data
  · rw [Tab.data, ← List.map_drop, hcells, Except.bind_ok] at hrows
    refine ⟨_, hrows, ?_⟩
    rintro sheet ⟨⟩
    rfl
  · exact ⟨_, hrows, nofun⟩
  · exact absurd hunreadable hreadable

end Classification

namespace TabResult

/-- **No tab aborts**: the tabs of a workbook convert, whatever their texts are. -/
theorem exists_ofTab (delimiter : Delimiter) (tab : Tab) :
    ∃ result, ofTab delimiter tab.name tab.data = .ok result := by
  obtain ⟨outcome, houtcome, hrows⟩ := Classification.exists_ofRows tab
  rw [ofTab, houtcome, Except.bind_ok]
  cases outcome with
  | rejected name rejection => exact ⟨_, rfl⟩
  | config sheet =>
    obtain ⟨typed, htyped⟩ := TypedRows.exists_ofBlock delimiter sheet.columns headerHeight
      (tab.rows.drop headerHeight)
    rw [← hrows sheet rfl] at htyped
    simp only [TypedRows.ofSheet, htyped, Except.bind_ok]
    exact ⟨_, rfl⟩

/-- What is entered in a report for a result. -/
def report (result : TabResult) (workbook : String) (outputs : List Path) : ReportEntry :=
  { workbook := .text workbook
    sheetName := .text result.name
    status := result.status
    fileName := .text (result.sheet?.elim "" (·.markers.fileName))
    className := .text (result.sheet?.elim "" (·.markers.className))
    rowsIn := result.sheet?.elim 0 (·.dataRows.length)
    rowsOut := if result.status = .converted then result.rows.length else 0
    errors := result.messages
    outputs := outputs.map Path.text }

/-- No more rows come out than went in. -/
def Balanced (result : TabResult) : Prop :=
  result.status = .converted →
    result.rows.length ≤ result.sheet?.elim 0 (·.dataRows.length)

/-- The name of a rejected tab is kept, and it is a classification that no rows come with. -/
theorem balanced_of_ofTab {delimiter : Delimiter} {name : String} {rows : List Datum}
    {result : TabResult} (h : ofTab delimiter name rows = .ok result) : result.Balanced := by
  obtain ⟨outcome, -, h⟩ := Except.bind_eq_ok_iff.1 h
  cases outcome with
  | rejected name rejection =>
    cases h
    cases rejection <;> simp [Balanced, status]
  | config sheet =>
    obtain ⟨typed, htyped, h⟩ := Except.bind_eq_ok_iff.1 h
    cases h
    exact fun _ ↦ TypedRows.length_rows_le htyped

/-- The checks of a report entry let every balanced result pass. -/
theorem entry_eq_ok {result : TabResult} (h : result.Balanced) (workbook : String)
    (outputs : List Path) :
    result.entry workbook outputs = .ok (result.report workbook outputs) := by
  have hstatus : Field.readStatus (.text result.status.name) = .ok result.status := by
    simp [Field.readStatus, SheetStatus.ofName?_name]
  have hin : ((result.sheet?.elim 0 (·.dataRows.length) : Nat) : Int) =
      result.sheet?.elim 0 fun sheet ↦ (sheet.dataRows.length : Int) := by
    cases result.sheet? <;> rfl
  have hout : ((if result.status = .converted then result.rows.length else 0 : Nat) : Int) =
      if result.status = .converted then (result.rows.length : Int) else 0 := by
    split_ifs <;> rfl
  have htexts : (outputs.map fun path ↦ Datum.text path.text) =
      (outputs.map Path.text).map .text := by
    simp
  have hrows : ¬(result.sheet?.elim 0 (·.dataRows.length)) <
      (if result.status = .converted then result.rows.length else 0) := by
    split_ifs with hconverted
    · exact Nat.not_lt.2 (h hconverted)
    · exact Nat.not_lt_zero _
  simp only [entry, entryFields, ReportEntry.ofFields, hstatus, ← hin, ← hout, htexts,
    Field.readCount_int, Field.readTexts_texts, Except.bind_ok, if_neg hrows]
  rfl

end TabResult

end ConfigTables
