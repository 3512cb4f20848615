import ConfigTables.Proofs.Column.Outputs

/-!
# Headers, column by column

A header whose rows are lists of one length is given by the cells of its columns
(`HeaderRows.ofColumns`), and only such a header compiles (`Header.exists_ofColumns`). For it the
compiler has a closed form (`Header.compile_ofColumns`): it reports the first failure of the first
pass that finds any, or else takes for each column what its own cells say (`HeaderCells.column`), if
all labels have texts.

Two headers are compared through this form. What the passes report depends on the answers that they
get column by column (`Header.firstFailure_congr`), and the first of them asks for nothing but the
names (`Header.nameFailure_congr`).
-/

namespace ConfigTables

/-- The header rows with the given columns. -/
def HeaderRows.ofColumns (columns : List HeaderCells) : HeaderRows :=
  { labels := .list (columns.map (·.label))
    types := .list (columns.map (·.type))
    names := .list (columns.map (·.name))
    scopes := .list (columns.map (·.scope)) }

/-- The column that cells stand for at a position, if their label has a text. -/
def HeaderCells.column (cells : HeaderCells) (position : Nat) : Column :=
  { index := position, label := cells.label.cellText?.getD "", output := cells.output? }

namespace Header

/-- The columns that the cells of a header stand for. -/
def schema (columns : List HeaderCells) : List Column :=
  columns.zipIdx.map fun cells ↦ cells.1.column cells.2

variable {columns columns' : List HeaderCells}

/-! ### The closed form of the compiler -/

theorem zipCells_map (columns : List HeaderCells) :
    zipCells (columns.map (·.label)) (columns.map (·.type)) (columns.map (·.name))
      (columns.map (·.scope)) = columns := by
  induction columns with
  | nil => rfl
  | cons cells columns ih => simp [zipCells, ih]

/-- Rows of one length are those of the columns that they make. -/
theorem ofColumns_zipCells {labels types names scopes : List Datum}
    (htypes : types.length = labels.length) (hnames : names.length = labels.length)
    (hscopes : scopes.length = labels.length) :
    HeaderRows.ofColumns (zipCells labels types names scopes) =
      ⟨.list labels, .list types, .list names, .list scopes⟩ := by
  induction labels generalizing types names scopes with
  | nil =>
    rw [List.length_nil, List.length_eq_zero_iff] at htypes hnames hscopes
    rw [htypes, hnames, hscopes]
    rfl
  | cons label labels ih =>
    obtain ⟨type, types, rfl⟩ := List.exists_cons_of_length_eq_add_one htypes
    obtain ⟨name, names, rfl⟩ := List.exists_cons_of_length_eq_add_one hnames
    obtain ⟨scope, scopes, rfl⟩ := List.exists_cons_of_length_eq_add_one hscopes
    simp only [List.length_cons, Nat.add_right_cancel_iff] at htypes hnames hscopes
    have hrest := ih htypes hnames hscopes
    simp only [HeaderRows.ofColumns, HeaderRows.mk.injEq, Datum.list.injEq] at hrest
    simp [HeaderRows.ofColumns, zipCells, hrest]

theorem columns_ofColumns (h : columns ≠ []) :
    Header.columns (.ofColumns columns) = .ok columns :=
  columns_eq_ok_iff.2 ⟨by simp, by simp, by simp, by simpa using h, zipCells_map columns⟩

/-- Sound cells make the column that they stand for. -/
theorem Sound.toColumn_eq {cells : HeaderCells} (h : Sound cells) (hlabel : cells.label.HasText)
    (position : Nat) : cells.toColumn position = .ok (cells.column position) := by
  obtain ⟨text, htext⟩ := Option.isSome_iff_exists.1 (Datum.isSome_cellText?_iff.2 hlabel)
  obtain ⟨⟨index, label, output⟩, hcolumn, hdescribes⟩ := h.exists_toColumn htext position
  have houtput := output_of_toColumn hcolumn
  have hindex := hdescribes.index
  have hlabel := hdescribes.label
  dsimp only at houtput hindex hlabel
  rw [hcolumn, HeaderCells.column, hindex, hlabel, houtput, Option.getD_some]

/-- Sound cells whose label has no text stop the compiler for good. -/
theorem toColumn_eq_of_not_hasText {cells : HeaderCells} (h : ¬cells.label.HasText) (index : Int) :
    cells.toColumn index = .error .tooManyDigits := by
  rw [HeaderCells.toColumn, Datum.cellText?_eq_none_iff.2 h]

/-- Where no pass finds a failure, the columns are made if all labels have texts. -/
theorem Faultless.mapM_toColumn (h : Faultless columns) :
    columns.zipIdx.mapM (fun cells : HeaderCells × Nat ↦ cells.1.toColumn cells.2) =
      if ∀ cells ∈ columns, cells.label.HasText then .ok (schema columns)
      else .error .tooManyDigits := by
  have hsound (cells : HeaderCells × Nat) (hmem : cells ∈ columns.zipIdx) : Sound cells.1 :=
    h.sound (List.fst_mem_of_mem_zipIdx hmem)
  split_ifs with hlabels
  · rw [Except.mapM_eq_ok_iff, schema, List.forall₂_map_right_iff, List.forall₂_same]
    exact fun cells hmem ↦
      (hsound cells hmem).toColumn_eq (hlabels _ (List.fst_mem_of_mem_zipIdx hmem)) cells.2
  · rcases hmade : columns.zipIdx.mapM
      (fun cells : HeaderCells × Nat ↦ cells.1.toColumn cells.2) with cause | made
    · obtain ⟨cells, hmem, hcells⟩ := Except.exists_of_mapM_eq_error hmade
      by_cases hlabel : cells.1.label.HasText
      · cases hcells.symm.trans ((hsound cells hmem).toColumn_eq hlabel cells.2)
      · cases hcells.symm.trans (toColumn_eq_of_not_hasText hlabel cells.2)
        rfl
    · exact absurd (h.exists_columns_iff.1 ⟨made, hmade⟩) hlabels

/-- **The compiler in closed form**: a header with columns has the first failure of the first pass
that finds any, or the columns that its cells stand for, if their labels have texts. -/
theorem compile_ofColumns (h : columns ≠ []) :
    compile (.ofColumns columns) =
      match failure? columns with
      | some failure => .error failure
      | none =>
        if ∀ cells ∈ columns, cells.label.HasText then .ok (schema columns)
        else .error (.abort .tooManyDigits) := by
  rw [compile, columns_ofColumns h]
  dsimp only
  rcases hfailure : failure? columns with _ | failure
  · rw [(failure?_eq_none_iff.1 hfailure).mapM_toColumn]
    split_ifs <;> rfl
  · rfl

/-- A header without columns has a fault of its own. -/
theorem compile_ofColumns_nil :
    compile (.ofColumns []) = .error (.fault { fault := .headerEmpty }) :=
  rfl

/-- A header row that is looked at successfully is a list. -/
theorem rowCells_eq_ok_iff {row : HeaderRow} {found : Datum} {cells : List Datum} :
    rowCells row found = .ok cells ↔ found = .list cells := by
  cases found <;> simp [rowCells, Datum.cells?]

/-- The rows that make columns are the rows of these columns, of which there are some. -/
theorem columns_eq_ok_iff_ofColumns {rows : HeaderRows} :
    Header.columns rows = .ok columns ↔ rows = .ofColumns columns ∧ columns ≠ [] := by
  refine ⟨fun hcolumns ↦ ?_, fun ⟨hrows, hne⟩ ↦ hrows ▸ columns_ofColumns hne⟩
  obtain ⟨labels, types, names, scopes, rfl⟩ : ∃ labels types names scopes,
      rows = ⟨.list labels, .list types, .list names, .list scopes⟩ := by
    obtain ⟨labels, hlabels, hrest⟩ := Except.bind_eq_ok_iff.1 hcolumns
    obtain ⟨types, htypes, hrest⟩ := Except.bind_eq_ok_iff.1 hrest
    obtain ⟨names, hnames, hrest⟩ := Except.bind_eq_ok_iff.1 hrest
    obtain ⟨scopes, hscopes, -⟩ := Except.bind_eq_ok_iff.1 hrest
    rw [rowCells_eq_ok_iff] at hlabels htypes hnames hscopes
    exact ⟨labels, types, names, scopes, by rw [← hlabels, ← htypes, ← hnames, ← hscopes]⟩
  obtain ⟨htypes, hnames, hscopes, hne, rfl⟩ := columns_eq_ok_iff.1 hcolumns
  refine ⟨(ofColumns_zipCells htypes hnames hscopes).symm, ?_⟩
  rw [← List.length_pos_iff, length_zipCells htypes hnames hscopes, List.length_pos_iff]
  exact hne

/-- A header that compiles is that of some columns, without a failure. -/
theorem exists_ofColumns {rows : HeaderRows} {compiled : List Column}
    (h : compile rows = .ok compiled) :
    ∃ columns, rows = .ofColumns columns ∧ columns ≠ [] ∧ failure? columns = none ∧
      (∀ cells ∈ columns, cells.label.HasText) ∧ compiled = schema columns := by
  obtain ⟨columns, hcolumns⟩ : ∃ columns, Header.columns rows = .ok columns := by
    rw [compile] at h
    split at h
    · cases h
    · next columns hcolumns => exact ⟨columns, hcolumns⟩
  obtain ⟨rfl, hne⟩ := columns_eq_ok_iff_ofColumns.1 hcolumns
  rw [compile_ofColumns hne] at h
  refine ⟨columns, rfl, hne, ?_⟩
  split at h
  · cases h
  · next hfailure =>
    split_ifs at h with hlabels
    exact ⟨hfailure, hlabels, (Except.ok.inj h).symm⟩

/-- The columns of a header are numbered from the left. -/
theorem map_index_schema (columns : List HeaderCells) :
    (schema columns).map (·.index) = (List.range columns.length).map (fun i : Nat ↦ (i : Int)) := by
  rw [List.range_eq_range', ← List.zipIdx_map_snd, List.map_map, schema, List.map_map]
  rfl

/-! ### Headers that give the same answers -/

/-- What a pass reports depends on the answers that it gets. -/
theorem firstFailure_congr {check check' : Nat → HeaderCells → Option (Failure Fault)}
    (hlength : columns.length = columns'.length)
    (h : ∀ (i : Nat) cells cells', columns[i]? = some cells → columns'[i]? = some cells' →
      check i cells = check' i cells') :
    firstFailure check columns = firstFailure check' columns' := by
  have hanswers : columns.zipIdx.map (fun cells ↦ (check cells.2 cells.1, cells.2)) =
      columns'.zipIdx.map fun cells ↦ (check' cells.2 cells.1, cells.2) := by
    refine List.ext_getElem (by simpa using hlength) fun i hi hi' ↦ ?_
    simp only [List.getElem_map, List.getElem_zipIdx, Nat.zero_add]
    simp only [List.length_map, List.length_zipIdx] at hi hi'
    rw [h i _ _ (List.getElem?_eq_getElem hi) (List.getElem?_eq_getElem hi')]
  have hplace (check : Nat → HeaderCells → Option (Failure Fault)) (columns : List HeaderCells) :
      firstFailure check columns =
        (columns.zipIdx.map fun cells ↦ (check cells.2 cells.1, cells.2)).findSome? fun answer ↦
          answer.1.map (·.placed (some answer.2) none) := by
    rw [List.findSome?_map]
    rfl
  rw [hplace, hplace, hanswers]

/-- The first pass asks for the names of the columns and for nothing else. -/
theorem nameFailure_congr (h : columns.map (·.name?) = columns'.map (·.name?))
    {cells cells' : HeaderCells} (hname : cells.name? = cells'.name?)
    (hblank : cells.name.isBlank = cells'.name.isBlank) (i : Nat) :
    nameFailure columns i cells = nameFailure columns' i cells' := by
  have hearlier : (columns.take i).filterMap (·.name?) = (columns'.take i).filterMap (·.name?) := by
    have hnames := congrArg (fun names ↦ (names.take i).filterMap id) h
    simpa [← List.map_take, List.filterMap_map, Function.comp_def] using hnames
  rw [nameFailure, nameFailure, hname, hblank, hearlier]

end Header

end ConfigTables
