import ConfigTables.Proofs.Sheet.Padding
import ConfigTables.Proofs.Sheet.Reordering

/-!
# Every row and every cell is accounted for

A data row of a config sheet is blank, or it is typed, or it has errors. `TypedRows.spec_of_ofBlock`
says so without the recursion of `TypedRows.ofBlock`: the typed rows are those that
`TypedRows.isTyped` picks, and the errors are those of one row after the other, each row with the
line on which it stands.

From this form `TypedRows.accounts_of_ofRows` says what typing gives in terms of the cells of the
tab. The errors are exactly those of the cells that do not convert, in the order of their places
(`PlacedFault.Before`). The typed rows are those of the lines with data and without such cells, in
their order. No row is lost (`TypedRows.count_of_ofBlock`), and blocks of rows may be typed one
after the other (`TypedRows.ofBlock_append`).
-/

namespace ConfigTables

/-- What stands at a place of a tab. A row that is too short has nothing there. -/
def Tab.cell (tab : Tab) (line position : Nat) : Option String :=
  (tab.rows.getD line []).getD position none

/-- A line of a tab holds data: it is below the header, and not all of its cells are blank. -/
def Tab.HasData (tab : Tab) (line : Nat) : Prop :=
  headerHeight ≤ line ∧ ∃ row, tab.rows[line]? = some row ∧ row.all (·.all Text.isBlank) = false

namespace PlacedFault

/-- The error that it is so many lines further down. -/
def lowered (lines : Nat) (error : PlacedFault) : PlacedFault :=
  { error with row := error.row.map (· + lines) }

/-- The order of places: by lines, and on one line by columns. -/
def Before (error error' : PlacedFault) : Prop :=
  ∃ line column line' column', error.row = some line ∧ error.column = some column ∧
    error'.row = some line' ∧ error'.column = some column' ∧
    (line < line' ∨ line = line' ∧ column < column')

end PlacedFault

namespace TypedRows

/-! ### One block, row by row -/

/-- The entries that the cells of a row make. -/
def entriesOf (delimiter : String) (columns : List Column) (cells : List Datum) : Row :=
  columns.filterMap fun column ↦ entry? delimiter column.output (cellAt cells column.index)

/-- The errors of a row on a line. A blank row has none. -/
def errorsOf (delimiter : String) (columns : List Column) (cells : List Datum) (line : Nat) :
    List PlacedFault :=
  if cells.all (·.isBlank) then [] else columns.filterMap fun column ↦
    error? delimiter line column.index column.output (cellAt cells column.index)

/-- Whether a row is typed: it is not blank, and each of its cells in an exported column
converts. -/
def isTyped (delimiter : String) (columns : List Column) (cells : List Datum) : Bool :=
  !cells.all (·.isBlank) && columns.all fun column ↦
    (cellFault? delimiter column.output (cellAt cells column.index)).isNone

section Block

variable {delimiter : String} {columns : List Column} {cells : List Datum} {line : Nat}
  {block : List (List Datum)} {typed : TypedRows} {error : PlacedFault}

/-- A row that is typed is not blank. -/
theorem not_all_isBlank_of_isTyped (h : isTyped delimiter columns cells = true) :
    ¬cells.all (·.isBlank) = true := by
  rw [isTyped, Bool.and_eq_true, Bool.not_eq_true'] at h
  exact Bool.not_eq_true _ ▸ h.1

/-- A row has no errors just if it is blank or typed. -/
theorem isEmpty_errorsOf (delimiter : String) (columns : List Column) (cells : List Datum)
    (line : Nat) :
    (errorsOf delimiter columns cells line).isEmpty =
      (cells.all (·.isBlank) || isTyped delimiter columns cells) := by
  rw [errorsOf, isTyped]
  rcases cells.all (·.isBlank) with _ | _
  · rw [Bool.eq_iff_iff, if_neg Bool.false_ne_true, List.isEmpty_iff, List.filterMap_eq_nil_iff]
    simp [error?]
  · rfl

/-- **One block, row by row**: the rows that are typed, and the errors of each row on its line. -/
theorem spec_of_ofBlock (h : ofBlock delimiter columns line block = .ok typed) :
    typed.rows = (block.filter (isTyped delimiter columns)).map (entriesOf delimiter columns) ∧
    typed.errors =
      (block.zipIdx line).flatMap fun row ↦ errorsOf delimiter columns row.1 row.2 := by
  induction block generalizing line typed with
  | nil =>
    cases h
    exact ⟨rfl, rfl⟩
  | cons cells block ih =>
    rw [ofBlock] at h
    rw [List.zipIdx_cons, List.flatMap_cons, List.filter_cons]
    split_ifs at h with hblank
    · obtain ⟨hrows, herrors⟩ := ih h
      rw [hrows, herrors, isTyped, errorsOf, hblank]
      exact ⟨rfl, rfl⟩
    · obtain ⟨⟨row, errors⟩, hrow, h⟩ := Except.bind_eq_ok_iff.1 h
      obtain ⟨rest, hrest, h⟩ := Except.bind_eq_ok_iff.1 h
      obtain ⟨hrows, herrors⟩ := ih hrest
      obtain ⟨rfl, hspec⟩ := spec_of_typeRow hrow
      have hhere : errors = errorsOf delimiter columns cells line := by
        rw [hspec, errorsOf, if_neg hblank]
      -- A row that is not blank is typed just if it has no errors.
      have htyped : isTyped delimiter columns cells = errors.isEmpty := by
        rw [hhere, isEmpty_errorsOf, Bool.eq_false_of_not_eq_true hblank, Bool.false_or]
      rw [htyped, ← herrors, ← hhere]
      rcases errors with _ | ⟨error, errors⟩
      · cases h
        exact ⟨congrArg (_ :: ·) hrows, rfl⟩
      · cases h
        exact ⟨hrows, rfl⟩

/-! ### Blocks one after the other -/

/-- The errors of a row move with it. -/
theorem errorsOf_add (n : Nat) :
    errorsOf delimiter columns cells (line + n) =
      (errorsOf delimiter columns cells line).map (·.lowered n) := by
  rw [errorsOf, errorsOf]
  split_ifs
  · rfl
  · rw [List.map_filterMap]
    congr 1
    funext column
    simp only [error?, Option.map_map, Function.comp_def, PlacedFault.lowered, Option.map_some,
      Int.natCast_add]

theorem flatMap_errorsOf_add (block : List (List Datum)) (n : Nat) :
    ((block.zipIdx (line + n)).flatMap fun row ↦ errorsOf delimiter columns row.1 row.2) =
      ((block.zipIdx line).flatMap fun row ↦ errorsOf delimiter columns row.1 row.2).map
        (·.lowered n) := by
  induction block generalizing line with
  | nil => rfl
  | cons cells block ih =>
    rw [List.zipIdx_cons, List.zipIdx_cons, List.flatMap_cons, List.flatMap_cons, List.map_append,
      Nat.add_right_comm, ih, errorsOf_add]

/-- **Blocks**: a block behind another one is typed as if it stood alone, and its errors are so many
lines further down as the other block is long. -/
theorem ofBlock_append {block' : List (List Datum)} {typed' whole : TypedRows}
    (h : ofBlock delimiter columns line block = .ok typed)
    (h' : ofBlock delimiter columns line block' = .ok typed')
    (hwhole : ofBlock delimiter columns line (block ++ block') = .ok whole) :
    whole.rows = typed.rows ++ typed'.rows ∧
      whole.errors = typed.errors ++ typed'.errors.map (·.lowered block.length) := by
  obtain ⟨hrows, herrors⟩ := spec_of_ofBlock h
  obtain ⟨hrows', herrors'⟩ := spec_of_ofBlock h'
  obtain ⟨hrows'', herrors''⟩ := spec_of_ofBlock hwhole
  constructor
  · rw [hrows'', hrows, hrows', List.filter_append, List.map_append]
  · rw [herrors'', herrors, herrors', List.zipIdx_append, List.flatMap_append,
      flatMap_errorsOf_add]

/-! ### The order of errors, and the number of rows with errors -/

/-- An error of a row is reported in its line. -/
theorem row_of_mem_errorsOf (h : error ∈ errorsOf delimiter columns cells line) :
    error.row = some (line : Int) := by
  rw [errorsOf] at h
  split_ifs at h
  · cases h
  · obtain ⟨column, -, herror⟩ := List.mem_filterMap.1 h
    obtain ⟨fault, -, rfl⟩ := Option.map_eq_some_iff.1 herror
    rfl

/-- An error of a row is reported in one of the columns. -/
theorem column_of_mem_errorsOf (h : error ∈ errorsOf delimiter columns cells line) :
    ∃ column ∈ columns, error.column = some column.index := by
  rw [errorsOf] at h
  split_ifs at h
  · cases h
  · obtain ⟨column, hcolumn, herror⟩ := List.mem_filterMap.1 h
    obtain ⟨fault, -, rfl⟩ := Option.map_eq_some_iff.1 herror
    exact ⟨column, hcolumn, rfl⟩

/-- The errors of a row are in the order of its columns. -/
theorem pairwise_errorsOf (hcolumns : columns.Pairwise fun left right ↦ left.index < right.index) :
    (errorsOf delimiter columns cells line).Pairwise PlacedFault.Before := by
  rw [errorsOf]
  split_ifs
  · exact .nil
  · refine List.pairwise_filterMap.2 (hcolumns.imp fun hlt error herror error' herror' ↦ ?_)
    obtain ⟨fault, -, rfl⟩ := Option.map_eq_some_iff.1 herror
    obtain ⟨fault', -, rfl⟩ := Option.map_eq_some_iff.1 herror'
    exact ⟨_, _, _, _, rfl, rfl, rfl, rfl, .inr ⟨rfl, hlt⟩⟩

theorem pairwise_zipIdx (block : List (List Datum)) :
    (block.zipIdx line).Pairwise fun row row' ↦ row.2 < row'.2 := by
  have hlines := List.pairwise_lt_range' (s := line) (n := block.length) 1
  rwa [← List.zipIdx_map_snd, List.pairwise_map] at hlines

/-- **Order**: errors are in the order of their places. -/
theorem pairwise_errors (hcolumns : columns.Pairwise fun left right ↦ left.index < right.index)
    (h : ofBlock delimiter columns line block = .ok typed) :
    typed.errors.Pairwise PlacedFault.Before := by
  rw [(spec_of_ofBlock h).2]
  refine List.pairwise_flatMap.2 ⟨fun row _ ↦ pairwise_errorsOf hcolumns, ?_⟩
  refine (pairwise_zipIdx block).imp fun hlt error herror error' herror' ↦ ?_
  obtain ⟨column, -, hcolumn⟩ := column_of_mem_errorsOf herror
  obtain ⟨column', -, hcolumn'⟩ := column_of_mem_errorsOf herror'
  exact ⟨_, _, _, _, row_of_mem_errorsOf herror, hcolumn, row_of_mem_errorsOf herror', hcolumn',
    .inl (Int.ofNat_lt.2 hlt)⟩

/-- A row is blank, or it is typed, or it has errors. -/
theorem length_eq_countP (delimiter : String) (columns : List Column) (block : List (List Datum)) :
    block.length = block.countP (·.all (·.isBlank)) + block.countP (isTyped delimiter columns) +
      block.countP fun cells ↦ !(cells.all (·.isBlank) || isTyped delimiter columns cells) := by
  induction block with
  | nil => rfl
  | cons cells block ih =>
    have hone : (if cells.all (·.isBlank) then 1 else 0) +
        (if isTyped delimiter columns cells then 1 else 0) +
        (if !(cells.all (·.isBlank) || isTyped delimiter columns cells) then 1 else 0) = 1 := by
      rw [isTyped]
      rcases cells.all (·.isBlank) <;> rcases columns.all _ <;> rfl
    simp only [List.length_cons, List.countP_cons, ih]
    omega

/-- **Count**: the rows of a block are the blank ones, the typed ones and those on the lines of the
errors. -/
theorem count_of_ofBlock (h : ofBlock delimiter columns line block = .ok typed) :
    ∃ lines : List Nat, lines.Pairwise (· < ·) ∧
      (∀ line, line ∈ lines ↔ ∃ error ∈ typed.errors, error.row = some (line : Int)) ∧
      block.length =
        block.countP (·.all (·.isBlank)) + typed.rows.length + lines.length := by
  let faulty (row : List Datum × Nat) : Bool :=
    !(row.1.all (·.isBlank) || isTyped delimiter columns row.1)
  have hfaulty (row : List Datum × Nat) :
      faulty row = true ↔ ∃ error, error ∈ errorsOf delimiter columns row.1 row.2 := by
    rw [← List.isEmpty_eq_false_iff_exists_mem, isEmpty_errorsOf, Bool.not_eq_true']
  refine ⟨((block.zipIdx line).filter faulty).map Prod.snd,
    List.pairwise_map.2 ((pairwise_zipIdx block).filter _), fun line' ↦ ?_, ?_⟩
  · simp only [(spec_of_ofBlock h).2, List.mem_map, List.mem_flatMap, List.mem_filter, hfaulty]
    constructor
    · rintro ⟨row, ⟨hrow, error, herror⟩, rfl⟩
      exact ⟨error, ⟨row, hrow, herror⟩, row_of_mem_errorsOf herror⟩
    · rintro ⟨error, ⟨row, hrow, herror⟩, hline⟩
      have hsame := (row_of_mem_errorsOf herror).symm.trans hline
      exact ⟨row, ⟨hrow, error, herror⟩, Int.ofNat_inj.1 (Option.some.inj hsame)⟩
  · have hlines : (block.zipIdx line).countP faulty = block.countP fun cells ↦
        !(cells.all (·.isBlank) || isTyped delimiter columns cells) := by
      conv_rhs => rw [← List.zipIdx_map_fst line block, List.countP_map]
      rfl
    rw [(spec_of_ofBlock h).1, List.length_map, List.length_map, ← List.countP_eq_length_filter,
      ← List.countP_eq_length_filter, hlines]
    exact length_eq_countP delimiter columns block

end Block

/-! ### The cells of a tab -/

/-- The cell at a place is at fault: its line holds data, its column is exported, and it does not
convert to the type of this column. -/
def FaultAt (delimiter : String) (tab : Tab) (sheet : Sheet) (line position : Nat) (fault : Fault) :
    Prop :=
  tab.HasData line ∧ ∃ column ∈ sheet.columns, ∃ output,
    column.index = position ∧ column.output = some output ∧
    Value.ofCell delimiter output.type (.ofCell (tab.cell line position)) = .error (.fault fault)

/-- A row is that of a line: its keys are the exported names, each of them once, and under the name
of a column it has what the cell of this column on the line converts to. -/
structure RowOf (delimiter : String) (tab : Tab) (sheet : Sheet) (line : Nat) (row : Row) :
    Prop where
  keys : row.map Prod.fst = (Column.outputs sheet.columns).map (·.name)
  nodup : (row.map Prod.fst).Nodup
  values : ∀ column ∈ sheet.columns, ∀ output, column.output = some output →
    ∃ (position : Nat) (value : Datum), column.index = position ∧
      Value.ofCell delimiter output.type (.ofCell (tab.cell line position)) = .ok value ∧
      row.lookup output.name = some value

/-- Typed rows and errors account for every row and every cell of a tab. -/
structure Accounts (delimiter : String) (tab : Tab) (sheet : Sheet) (typed : TypedRows) :
    Prop where
  /-- There is an error for each cell at fault, and for no other. -/
  errors : ∀ error, error ∈ typed.errors ↔ ∃ line position fault,
    FaultAt delimiter tab sheet line position fault ∧
      error = { fault, column := some (position : Int), row := some (line : Int) }
  ordered : typed.errors.Pairwise PlacedFault.Before
  /-- There is a row for each line that holds data and no cell at fault, from top to bottom. -/
  rows : ∃ lines : List Nat, lines.Pairwise (· < ·) ∧
    (∀ line, line ∈ lines ↔
      tab.HasData line ∧ ∀ position fault, ¬FaultAt delimiter tab sheet line position fault) ∧
    List.Forall₂ (RowOf delimiter tab sheet) lines typed.rows
  /-- Every row is blank, or it is typed, or it stands on one of the lines of the errors. -/
  count : ∃ lines : List Nat, lines.Pairwise (· < ·) ∧
    (∀ line, line ∈ lines ↔ ∃ error ∈ typed.errors, error.row = some (line : Int)) ∧
    (tab.rows.drop headerHeight).length =
      (tab.rows.drop headerHeight).countP (·.all (·.all Text.isBlank)) + typed.rows.length +
        lines.length

end TypedRows

/-- A sheet is that of a tab: its data rows are the rows below the header, its columns are numbered
from the left, and they can be exported. -/
structure Sheet.StandsIn (tab : Tab) (sheet : Sheet) : Prop where
  dataRows : sheet.dataRows = (tab.rows.drop headerHeight).map (·.map .ofCell)
  numbered : sheet.columns.map (·.index) =
    (List.range sheet.columns.length).map fun i : Nat ↦ (i : Int)
  exportable : Header.Exportable sheet.columns

/-- A config sheet stands in the tab from which it was made. -/
theorem Classification.standsIn_of_ofRows {tab : Tab} {sheet : Sheet}
    (h : ofRows tab.name tab.data = .ok (.config sheet)) : sheet.StandsIn tab := by
  obtain ⟨outcome, houtcome, hdata⟩ := exists_ofRows tab
  obtain ⟨_, _, header, _, -, -, -, hheader, -⟩ := spec_of_ofRows h
  refine ⟨hdata sheet (Except.ok.inj (houtcome.symm.trans h)), ?_,
    Header.exportable_of_compile hheader⟩
  obtain ⟨columns, -, -, -, -, hcolumns⟩ := Header.exists_ofColumns hheader
  rw [hcolumns, Header.map_index_schema, Header.schema, List.length_map, List.length_zipIdx]

namespace Sheet.StandsIn

variable {tab : Tab} {sheet : Sheet}

/-- The columns of a sheet have their positions in order. -/
theorem pairwise_index (h : sheet.StandsIn tab) :
    sheet.columns.Pairwise fun left right ↦ left.index < right.index := by
  rw [← List.pairwise_map, h.numbered, List.pairwise_map]
  exact List.pairwise_lt_range.imp Int.ofNat_lt.2

theorem exists_index (h : sheet.StandsIn tab) {column : Column} (hcolumn : column ∈ sheet.columns) :
    ∃ position : Nat, column.index = position := by
  have hindex := List.mem_map_of_mem (f := (·.index)) hcolumn
  rw [h.numbered] at hindex
  obtain ⟨position, -, hposition⟩ := List.mem_map.1 hindex
  exact ⟨position, hposition.symm⟩

/-- The data rows, each with its line. -/
theorem mem_zipIdx_iff (h : sheet.StandsIn tab) {cells : List Datum} {line : Nat} :
    (cells, line) ∈ sheet.dataRows.zipIdx headerHeight ↔
      headerHeight ≤ line ∧ ∃ row, tab.rows[line]? = some row ∧ row.map .ofCell = cells := by
  rw [List.mk_mem_zipIdx_iff_le_and_getElem?_sub, h.dataRows, List.getElem?_map,
    List.getElem?_drop, Option.map_eq_some_iff]
  refine and_congr_right fun hle ↦ ?_
  rw [Nat.add_sub_cancel' hle]

end Sheet.StandsIn

namespace TypedRows

section Tab

variable {delimiter : Delimiter} {tab : Tab} {sheet : Sheet} {typed : TypedRows} {line : Nat}
  {row : List (Option String)}

theorem all_isBlank_row (row : List (Option String)) :
    (row.map Datum.ofCell).all (·.isBlank) = row.all (·.all Text.isBlank) := by
  rw [List.all_map]
  congr 1
  funext cell
  exact Datum.isBlank_ofCell cell

/-- The cell of a row at a position is that of the tab there, if there is one. -/
theorem cellAt_row (hrow : tab.rows[line]? = some row) (position : Nat) :
    cellAt (row.map .ofCell) position = .ofCell (tab.cell line position) := by
  rw [Tab.cell, List.getD_eq_getElem?_getD, List.getD_eq_getElem?_getD, hrow, Option.getD_some]
  change (row.map Datum.ofCell)[position]?.getD .null = _
  rw [List.getElem?_map]
  rcases row[position]? <;> rfl

/-- A cell has just the fault with which its conversion fails. -/
theorem cellFault?_eq_some_iff {delimiter : String} {output? : Option Output} {cell : Datum}
    {fault : Fault} : cellFault? delimiter output? cell = some fault ↔
      ∃ output, output? = some output ∧
        Value.ofCell delimiter output.type cell = .error (.fault fault) := by
  rw [cellFault?, Option.bind_eq_some_iff]
  refine exists_congr fun output ↦ and_congr_right fun _ ↦ ?_
  rcases Value.ofCell delimiter output.type cell with (_ | _) | _ <;> simp

/-- **Errors**: those of a line are the cells at fault. -/
theorem mem_errorsOf_iff (h : sheet.StandsIn tab) (hline : headerHeight ≤ line)
    (hrow : tab.rows[line]? = some row) {error : PlacedFault} :
    error ∈ errorsOf delimiter.text sheet.columns (row.map .ofCell) line ↔
      ∃ position fault, FaultAt delimiter.text tab sheet line position fault ∧
        error = { fault, column := some (position : Int), row := some (line : Int) } := by
  rw [errorsOf, all_isBlank_row]
  split_ifs with hblank
  · refine iff_of_false List.not_mem_nil ?_
    rintro ⟨position, fault, ⟨⟨-, row', hrow', hblank'⟩, -⟩, -⟩
    rw [Option.some.inj (hrow'.symm.trans hrow), hblank] at hblank'
    cases hblank'
  · have hdata : tab.HasData line := ⟨hline, row, hrow, Bool.eq_false_of_not_eq_true hblank⟩
    rw [List.mem_filterMap]
    constructor
    · rintro ⟨column, hcolumn, herror⟩
      obtain ⟨position, hposition⟩ := h.exists_index hcolumn
      obtain ⟨fault, hfault, rfl⟩ := Option.map_eq_some_iff.1 herror
      obtain ⟨output, houtput, hvalue⟩ := cellFault?_eq_some_iff.1 hfault
      rw [hposition, cellAt_row hrow] at hvalue
      exact ⟨position, fault, ⟨hdata, column, hcolumn, output, hposition, houtput, hvalue⟩,
        by rw [hposition]⟩
    · rintro ⟨position, fault, ⟨-, column, hcolumn, output, hposition, houtput, hvalue⟩, rfl⟩
      refine ⟨column, hcolumn, Option.map_eq_some_iff.2 ⟨fault, ?_, by rw [hposition]⟩⟩
      rw [cellFault?_eq_some_iff, hposition, cellAt_row hrow]
      exact ⟨output, houtput, hvalue⟩

/-- **Rows**: a row is typed if its line holds data, and no cell at fault. -/
theorem isTyped_iff (h : sheet.StandsIn tab) (hline : headerHeight ≤ line)
    (hrow : tab.rows[line]? = some row) :
    isTyped delimiter.text sheet.columns (row.map .ofCell) = true ↔
      tab.HasData line ∧
        ∀ position fault, ¬FaultAt delimiter.text tab sheet line position fault := by
  have hempty := isEmpty_errorsOf delimiter.text sheet.columns (row.map .ofCell) line
  rw [all_isBlank_row] at hempty
  rcases hblank : row.all (·.all Text.isBlank) with _ | _
  · have hdata : tab.HasData line := ⟨hline, row, hrow, hblank⟩
    rw [hblank, Bool.false_or] at hempty
    rw [← hempty, List.isEmpty_iff, List.eq_nil_iff_forall_not_mem]
    simp only [mem_errorsOf_iff h hline hrow]
    constructor
    · exact fun hnone ↦ ⟨hdata, fun position fault hfault ↦
        hnone _ ⟨position, fault, hfault, rfl⟩⟩
    · rintro ⟨-, hnone⟩ error ⟨position, fault, hfault, -⟩
      exact hnone position fault hfault
  · refine iff_of_false (fun htyped ↦ ?_) ?_
    · rw [isTyped, all_isBlank_row, hblank] at htyped
      cases htyped
    · rintro ⟨⟨-, row', hrow', hblank'⟩, -⟩
      rw [Option.some.inj (hrow'.symm.trans hrow), hblank] at hblank'
      cases hblank'

/-- The entries of a row that is typed. -/
theorem rowOf_entriesOf (h : sheet.StandsIn tab) (hrow : tab.rows[line]? = some row)
    (htyped : isTyped delimiter.text sheet.columns (row.map .ofCell) = true) :
    RowOf delimiter.text tab sheet line
      (entriesOf delimiter.text sheet.columns (row.map .ofCell)) := by
  obtain ⟨⟨entries, errors⟩, htypeRow⟩ := exists_typeRow delimiter line row sheet.columns
  obtain ⟨rfl, rfl⟩ := spec_of_typeRow htypeRow
  have hnone : errorsOf delimiter.text sheet.columns (row.map .ofCell) line = [] :=
    List.isEmpty_iff.1 (by rw [isEmpty_errorsOf, htyped, Bool.or_true])
  rw [errorsOf, if_neg (not_all_isBlank_of_isTyped htyped)] at hnone
  rw [hnone] at htypeRow
  have hentries := forall₂_of_typeRow htypeRow
  have hkeys := map_fst_of_forall₂ hentries
  rw [Column.outputs_filter] at hkeys
  have hnodup : (List.map Prod.fst _).Nodup := hkeys ▸ h.exportable.nodup
  refine ⟨hkeys, hnodup, fun column hcolumn output houtput ↦ ?_⟩
  obtain ⟨entry, hentry, output', houtput', hname, hvalue⟩ := hentries.exists_of_mem
    (List.mem_filter.2 ⟨hcolumn, Option.isSome_iff_exists.2 ⟨output, houtput⟩⟩)
  obtain rfl := Option.some.inj (houtput'.symm.trans houtput)
  obtain ⟨position, hposition⟩ := h.exists_index hcolumn
  rw [hposition, cellAt_row hrow] at hvalue
  exact ⟨position, entry.2, hposition, hvalue, hname ▸ lookup_of_mem hnodup hentry⟩

/-- The errors are just the faults of the cells of the tab, each in its place. -/
theorem mem_errors_iff (h : sheet.StandsIn tab) (htyped : ofSheet delimiter.text sheet = .ok typed)
    {error : PlacedFault} :
    error ∈ typed.errors ↔ ∃ line position fault,
      FaultAt delimiter.text tab sheet line position fault ∧
        error = { fault, column := some (position : Int), row := some (line : Int) } := by
  rw [(spec_of_ofBlock htyped).2, List.mem_flatMap]
  constructor
  · rintro ⟨⟨cells, line⟩, hmem, herror⟩
    obtain ⟨hline, row, hrow, rfl⟩ := h.mem_zipIdx_iff.1 hmem
    obtain ⟨position, fault, hfault, rfl⟩ := (mem_errorsOf_iff h hline hrow).1 herror
    exact ⟨line, position, fault, hfault, rfl⟩
  · rintro ⟨line, position, fault, hfault, rfl⟩
    obtain ⟨hline, row, hrow, -⟩ := hfault.1
    exact ⟨(row.map .ofCell, line), h.mem_zipIdx_iff.2 ⟨hline, row, hrow, rfl⟩,
      (mem_errorsOf_iff h hline hrow).2 ⟨position, fault, hfault, rfl⟩⟩

/-- The typed rows are those of the lines with data and without a fault, from top to bottom. -/
theorem exists_lines_of_rows (h : sheet.StandsIn tab)
    (htyped : ofSheet delimiter.text sheet = .ok typed) :
    ∃ lines : List Nat, lines.Pairwise (· < ·) ∧
      (∀ line, line ∈ lines ↔ tab.HasData line ∧
        ∀ position fault, ¬FaultAt delimiter.text tab sheet line position fault) ∧
      List.Forall₂ (RowOf delimiter.text tab sheet) lines typed.rows := by
  -- The rows that are kept, each with its line.
  let kept := (sheet.dataRows.zipIdx headerHeight).filter fun row ↦
    isTyped delimiter.text sheet.columns row.1
  have hkept : typed.rows = kept.map fun row ↦ entriesOf delimiter.text sheet.columns row.1 := by
    rw [(spec_of_ofBlock htyped).1]
    conv_lhs =>
      rw [← List.zipIdx_map_fst headerHeight sheet.dataRows, List.filter_map, List.map_map]
    rfl
  refine ⟨kept.map Prod.snd, List.pairwise_map.2 ((pairwise_zipIdx _).filter _), fun line ↦ ?_, ?_⟩
  · rw [List.mem_map]
    constructor
    · rintro ⟨⟨cells, line⟩, hmem, rfl⟩
      obtain ⟨hmem, hconverts⟩ := List.mem_filter.1 hmem
      obtain ⟨hline, row, hrow, rfl⟩ := h.mem_zipIdx_iff.1 hmem
      exact (isTyped_iff h hline hrow).1 hconverts
    · intro hdata
      obtain ⟨hline, row, hrow, -⟩ := hdata.1
      exact ⟨(row.map .ofCell, line), List.mem_filter.2
        ⟨h.mem_zipIdx_iff.2 ⟨hline, row, hrow, rfl⟩, (isTyped_iff h hline hrow).2 hdata⟩, rfl⟩
  · rw [hkept, List.forall₂_map_left_iff, List.forall₂_map_right_iff, List.forall₂_same]
    rintro ⟨cells, line⟩ hmem
    obtain ⟨hmem, hconverts⟩ := List.mem_filter.1 hmem
    obtain ⟨-, row, hrow, rfl⟩ := h.mem_zipIdx_iff.1 hmem
    exact rowOf_entriesOf h hrow hconverts

/-- **One sheet**: what typing gives accounts for every row and every cell. -/
theorem accounts_of_ofSheet (h : sheet.StandsIn tab)
    (htyped : ofSheet delimiter.text sheet = .ok typed) :
    Accounts delimiter.text tab sheet typed where
  errors _ := mem_errors_iff h htyped
  ordered := pairwise_errors h.pairwise_index htyped
  rows := exists_lines_of_rows h htyped
  count := by
    obtain ⟨lines, hsorted, hlines, hcount⟩ := count_of_ofBlock htyped
    rw [h.dataRows, List.length_map, List.countP_map] at hcount
    refine ⟨lines, hsorted, hlines, ?_⟩
    simpa only [Function.comp_def, all_isBlank_row] using hcount

end Tab

end TypedRows

/-- The sheet with another data block. -/
def Sheet.withBlock (sheet : Sheet) (block : List (List (Option String))) : Sheet :=
  { sheet with dataRows := block.map (·.map .ofCell) }

namespace TypedRows

/-- **Accounting**: a config sheet is typed, and what this gives accounts for every row and every
cell of its tab. Data blocks may be typed one after the other: rows follow rows and errors follow
errors, with the lines counted on. -/
theorem accounts_of_ofRows (delimiter : Delimiter) {tab : Tab} {sheet : Sheet}
    (hsheet : Classification.ofRows tab.name tab.data = .ok (.config sheet)) :
    (∃ typed, ofSheet delimiter.text sheet = .ok typed ∧
      Accounts delimiter.text tab sheet typed) ∧
    ∀ block block' : List (List (Option String)), ∃ typed typed',
      ofSheet delimiter.text (sheet.withBlock block) = .ok typed ∧
      ofSheet delimiter.text (sheet.withBlock block') = .ok typed' ∧
      ofSheet delimiter.text (sheet.withBlock (block ++ block')) =
        .ok
          { rows := typed.rows ++ typed'.rows
            errors := typed.errors ++ typed'.errors.map (·.lowered block.length) } := by
  have htypes (block : List (List (Option String))) :=
    exists_ofBlock delimiter sheet.columns headerHeight block
  constructor
  · have h := Classification.standsIn_of_ofRows hsheet
    obtain ⟨typed, htyped⟩ := htypes (tab.rows.drop headerHeight)
    rw [← h.dataRows] at htyped
    exact ⟨typed, htyped, accounts_of_ofSheet h htyped⟩
  · intro block block'
    obtain ⟨typed, htyped⟩ := htypes block
    obtain ⟨typed', htyped'⟩ := htypes block'
    obtain ⟨⟨rows, errors⟩, hwhole⟩ := htypes (block ++ block')
    refine ⟨typed, typed', htyped, htyped', hwhole.trans ?_⟩
    rw [List.map_append] at hwhole
    obtain ⟨rfl, rfl⟩ := ofBlock_append htyped htyped' hwhole
    rw [List.length_map]

/-- Of the three rows of the ragged tab the second is blank, and the third has a cell at fault. -/
theorem accounts_of_ofRows_raggedTab :
    Classification.ofRows Classification.raggedTab.name Classification.raggedTab.data =
      .ok (.config Classification.raggedSheet) ∧
    ∃ typed, ofSheet Delimiter.comma.text Classification.raggedSheet = .ok typed ∧
      Accounts Delimiter.comma.text Classification.raggedTab Classification.raggedSheet typed ∧
      typed.rows = [[("id", .int 1)]] ∧
      typed.errors = [{ fault := .notInteger (some "x"), column := some 0, row := some 8 }] := by
  have hsheet : Classification.ofRows Classification.raggedTab.name Classification.raggedTab.data =
      .ok (.config Classification.raggedSheet) := rfl
  obtain ⟨⟨typed, htyped, haccounts⟩, -⟩ := accounts_of_ofRows .comma hsheet
  refine ⟨hsheet, typed, htyped, haccounts, ?_⟩
  have hvalue : ofSheet Delimiter.comma.text Classification.raggedSheet =
      .ok
        { rows := [[("id", .int 1)]]
          errors :=
            [{ fault := .notInteger (some "x"), column := some 0, row := some 8 }] } := rfl
  cases htyped.symm.trans hvalue
  exact ⟨rfl, rfl⟩

end TypedRows

end ConfigTables
