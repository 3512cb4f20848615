import ConfigTables.Proofs.Column.Outputs
import ConfigTables.Sheet.Conversion

/-!
# Typed rows and the columns of their entries

A typed row has an entry for each exported column, in column order: the name of the column, and what
its cell converts to (`TypedRows.EntryOf`). The induction is that of `TypedRows.typeRow`
(`TypedRows.forall₂_of_typeRow`), and a typed row is the row that was made of some data row
(`TypedRows.exists_of_mem_rows`). So all rows have the same names, those that the columns export.

`TypedRows.Made` says this of the rows of a sheet, together with what its header guarantees. It is
what remains to be known of a tab when its documents are made.
-/

namespace ConfigTables

namespace TypedRows

/-- An entry of a typed row is that of a column: it has the name of the column, and what the cell of
the column converts to. -/
def EntryOf (delimiter : String) (cells : List Datum) (column : Column)
    (entry : String × Datum) : Prop :=
  ∃ output, column.output = some output ∧ entry.1 = output.name ∧
    Value.ofCell delimiter output.type (cellAt cells column.index) = .ok entry.2

/-- A row without errors has an entry for each exported column. -/
theorem forall₂_of_typeRow {delimiter : String} {line : Nat} {cells : List Datum}
    {columns : List Column} {row : Row}
    (h : typeRow delimiter line cells columns = .ok (row, [])) :
    List.Forall₂ (EntryOf delimiter cells) (columns.filter (·.isExported)) row := by
  -- Without an error, each exported column has left an entry.
  induction columns generalizing row with
  | nil =>
    cases h
    exact .nil
  | cons column columns ih =>
    rw [typeRow] at h
    rcases houtput : column.output with _ | output
    · have hskip : column.isExported = false := by simp [Column.isExported, houtput]
      simp only [houtput] at h
      rw [List.filter_cons_of_neg (by simp [hskip])]
      exact ih h
    · have hkeep : column.isExported = true := by simp [Column.isExported, houtput]
      simp only [houtput] at h
      rw [List.filter_cons_of_pos hkeep]
      rcases hvalue : Value.ofCell delimiter output.type (cellAt cells column.index) with
        (fault | cause) | value
      · -- A cell that does not convert leaves an error.
        simp only [Value.ofCellAt_of_fault hvalue] at h
        obtain ⟨rest, -, heq⟩ := Except.map_eq_ok_iff.1 h
        cases heq
      · simp only [Value.ofCellAt_of_abort hvalue] at h
        cases h
      · simp only [Value.ofCellAt_of_ok hvalue] at h
        obtain ⟨⟨rest, errors⟩, hrest, heq⟩ := Except.map_eq_ok_iff.1 h
        cases heq
        exact .cons ⟨output, houtput, rfl, hvalue⟩ (ih hrest)

/-- A row with an entry for each of some columns has the names of these, in their order. -/
theorem map_fst_of_forall₂ {delimiter : String} {cells : List Datum} {columns : List Column}
    {row : Row} (h : List.Forall₂ (EntryOf delimiter cells) columns row) :
    row.map Prod.fst = (Column.outputs columns).map (·.name) := by
  induction h with
  | nil => rfl
  | cons hentry _ ih =>
    obtain ⟨output, houtput, hname, -⟩ := hentry
    rw [List.map_cons, ih, hname, Column.outputs, Column.outputs,
      List.filterMap_cons_some houtput, List.map_cons]

/-- Every typed row comes from a data row. -/
theorem exists_of_mem_rows {delimiter : String} {columns : List Column} {line : Nat}
    {block : List (List Datum)} {typed : TypedRows}
    (h : ofBlock delimiter columns line block = .ok typed) :
    ∀ row ∈ typed.rows, ∃ cells ∈ block,
      List.Forall₂ (EntryOf delimiter cells) (columns.filter (·.isExported)) row := by
  induction block generalizing line typed with
  | nil =>
    cases h
    simp
  | cons cells block ih =>
    have hlater {typed : TypedRows} (hrest : ofBlock delimiter columns (line + 1) block = .ok typed)
        (row : Row) (hmem : row ∈ typed.rows) : ∃ cells' ∈ cells :: block,
          List.Forall₂ (EntryOf delimiter cells') (columns.filter (·.isExported)) row := by
      obtain ⟨cells', hcells, hrow⟩ := ih hrest row hmem
      exact ⟨cells', List.mem_cons_of_mem _ hcells, hrow⟩
    rw [ofBlock] at h
    split_ifs at h
    · exact hlater h
    · obtain ⟨⟨row, errors⟩, hrow, h⟩ := Except.bind_eq_ok_iff.1 h
      obtain ⟨rest, hrest, h⟩ := Except.bind_eq_ok_iff.1 h
      rcases errors with _ | ⟨error, errors⟩
      · cases h
        intro row' hmem
        rcases List.mem_cons.1 hmem with rfl | hmem
        · exact ⟨cells, List.mem_cons_self, forall₂_of_typeRow hrow⟩
        · exact hlater hrest row' hmem
      · cases h
        intro row' hmem
        exact hlater hrest row' hmem

/-- The columns of a sheet can be exported, and each of the given rows was made of one of its data
rows. -/
structure Made (delimiter : String) (sheet : Sheet) (rows : List Row) : Prop where
  exportable : Header.Exportable sheet.columns
  made : ∀ row ∈ rows, ∃ cells ∈ sheet.dataRows,
    List.Forall₂ (EntryOf delimiter cells) (sheet.columns.filter (·.isExported)) row

/-- All rows have the names that the columns export. -/
theorem Made.map_fst {delimiter : String} {sheet : Sheet} {rows : List Row}
    (h : Made delimiter sheet rows) {row : Row} (hmem : row ∈ rows) :
    row.map Prod.fst = (Column.outputs sheet.columns).map (·.name) := by
  obtain ⟨cells, -, hrow⟩ := h.made row hmem
  rw [map_fst_of_forall₂ hrow, Column.outputs_filter]

end TypedRows

/-! ### The rows of a tab -/

namespace Classification

/-- A config sheet has what its first six rows say, and the rows below them. -/
theorem spec_of_ofRows {name : String} {rows : List Datum} {sheet : Sheet}
    (h : ofRows name rows = .ok (.config sheet)) : ∃ first second header data,
      rows = first :: second :: header.labels :: header.types :: header.names ::
        header.scopes :: data ∧
      sheet.name = name ∧ Markers.read first second = .ok sheet.markers ∧
      Header.compile header = .ok sheet.columns ∧ data.mapM dataCells = .ok sheet.dataRows := by
  unfold ofRows at h
  split at h
  · next first second labels types names scopes data =>
    rcases hmarkers : Markers.read first second with (fault | cause) | markers
    · simp [hmarkers] at h
    · simp [hmarkers] at h
    · simp only [hmarkers] at h
      rcases hheader : Header.compile { labels, types, names, scopes } with
        (error | cause) | columns
      · simp [hheader] at h
      · simp [hheader] at h
      · simp only [hheader] at h
        obtain ⟨dataRows, hdata, h⟩ := Except.bind_eq_ok_iff.1 h
        cases h
        exact ⟨first, second, _, data, rfl, rfl, hmarkers, hheader, hdata⟩
  · simp at h

/-- The rows of a tab with the given marker rows, header rows and data block. -/
def tabOf (first second : Datum) (header : HeaderRows) (block : List (List Datum)) : List Datum :=
  first :: second :: header.labels :: header.types :: header.names :: header.scopes ::
    block.map .list

/-- The sheet in such a tab has the block for data rows. -/
theorem spec_of_ofRows_tabOf {name : String} {first second : Datum} {header : HeaderRows}
    {block : List (List Datum)} {sheet : Sheet}
    (h : ofRows name (tabOf first second header block) = .ok (.config sheet)) :
    sheet.name = name ∧ Markers.read first second = .ok sheet.markers ∧
      Header.compile header = .ok sheet.columns ∧ sheet.dataRows = block := by
  obtain ⟨_, _, ⟨_, _, _, _⟩, data, hrows, hname, hmarkers, hheader, hdata⟩ := spec_of_ofRows h
  cases hrows
  have hblock : (block.map Datum.list).mapM dataCells = .ok block := by
    rw [Except.mapM_eq_ok_iff, List.forall₂_map_left_iff, List.forall₂_same]
    exact fun _ _ ↦ rfl
  exact ⟨hname, hmarkers, hheader, Except.ok.inj (hdata.symm.trans hblock)⟩

end Classification

theorem TypedRows.made_of_ofSheet {delimiter name : String} {rows : List Datum} {sheet : Sheet}
    {typed : TypedRows} (hsheet : Classification.ofRows name rows = .ok (.config sheet))
    (htyped : ofSheet delimiter sheet = .ok typed) : Made delimiter sheet typed.rows := by
  obtain ⟨_, _, header, _, -, -, -, hheader, -⟩ := Classification.spec_of_ofRows hsheet
  exact ⟨Header.exportable_of_compile hheader, exists_of_mem_rows htyped⟩

/-- A tab that is found to be a config sheet has its typed rows. -/
theorem TabResult.spec_of_ofTab {delimiter : Delimiter} {name : String} {rows : List Datum}
    {result : TabResult} {sheet : Sheet} (h : ofTab delimiter name rows = .ok result)
    (hsheet : result.outcome = .config sheet) :
    Classification.ofRows name rows = .ok (.config sheet) ∧
      TypedRows.ofSheet delimiter.text sheet =
        .ok { rows := result.rows, errors := result.errors } := by
  obtain ⟨outcome, houtcome, h⟩ := Except.bind_eq_ok_iff.1 h
  rcases outcome with other | ⟨name, rejection⟩
  · obtain ⟨typed, htyped, h⟩ := Except.bind_eq_ok_iff.1 h
    cases h
    cases hsheet
    exact ⟨houtcome, htyped⟩
  · cases h
    cases hsheet

/-- A config sheet is converted if no cell has an error. -/
theorem TabResult.status_eq_converted_iff {result : TabResult} {sheet : Sheet}
    (hsheet : result.outcome = .config sheet) :
    result.status = .converted ↔ result.errors = [] := by
  rw [status, hsheet]
  rcases result.errors <;> simp

theorem TabResult.made_of_ofTab {delimiter : Delimiter} {name : String} {rows : List Datum}
    {result : TabResult} {sheet : Sheet} (h : ofTab delimiter name rows = .ok result)
    (hsheet : result.outcome = .config sheet) :
    TypedRows.Made delimiter.text sheet result.rows := by
  obtain ⟨hrows, htyped⟩ := spec_of_ofTab h hsheet
  exact TypedRows.made_of_ofSheet hrows htyped

end ConfigTables
