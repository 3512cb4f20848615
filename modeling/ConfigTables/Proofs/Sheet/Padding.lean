import ConfigTables.Proofs.Sheet.Reading
import ConfigTables.Workbook.Basic

/-!
# Padding a tab has no effect

The rows of a loaded tab are filled up with empty cells to the length of the longest, those of a tab
in memory may have any length. For a config sheet it makes no difference
(`Classification.padded_of_ofRows`). The new cells are of three sorts:

* behind the two cells that count in a marker row (`Markers.read_append`);
* in columns with neither name nor scope, which make annotations behind all other columns
  (`Header.compile_append`);
* in data rows, where a cell that is missing counts as an absent one anyway
  (`TypedRows.SameIn.append`).

A tab that is no config sheet can become one, since rows of different lengths make no header.
-/

namespace ConfigTables

namespace Tab

/-- The tab with all rows filled up with empty cells to a width. A longer row stays as it is. -/
def padded (width : Nat) (tab : Tab) : Tab :=
  { tab with rows := tab.rows.map (List.rightpad width none) }

/-- The data of a tab with six rows and a block. -/
theorem data_eq_tabOf {tab : Tab} {first second labels types names scopes : List (Option String)}
    {block : List (List (Option String))}
    (h : tab.rows = first :: second :: labels :: types :: names :: scopes :: block) :
    tab.data = Classification.tabOf (.list (first.map .ofCell)) (.list (second.map .ofCell))
      { labels := .list (labels.map .ofCell), types := .list (types.map .ofCell)
        names := .list (names.map .ofCell), scopes := .list (scopes.map .ofCell) }
      (block.map (·.map .ofCell)) := by
  rw [data, h, Classification.tabOf, List.map_map]
  rfl

end Tab

/-- A row of data with cells filled up is the row with absent cells behind it. -/
theorem Datum.map_ofCell_rightpad (width : Nat) (row : List (Option String)) :
    (row.rightpad width none).map Datum.ofCell =
      row.map Datum.ofCell ++ List.replicate (width - row.length) .null := by
  rw [List.rightpad, List.map_append, List.map_replicate]
  rfl

/-! ### Marker rows -/

namespace Markers

theorem markerValue_append {line : Nat} {label value : String} {cells : List Datum}
    (h : markerValue line label (.list cells) = .ok value) (more : List Datum) :
    markerValue line label (.list (cells ++ more)) = .ok value := by
  match cells with
  | [] | [_] => cases h
  | key :: second :: cells => exact h

/-- Cells behind those of the marker rows change nothing. -/
theorem read_append {first second : List Datum} {markers : Markers}
    (h : read (.list first) (.list second) = .ok markers) (more more' : List Datum) :
    read (.list (first ++ more)) (.list (second ++ more')) = .ok markers := by
  obtain ⟨fileName, hfile, h⟩ := Except.bind_eq_ok_iff.1 h
  obtain ⟨className, hclass, h⟩ := Except.bind_eq_ok_iff.1 h
  obtain ⟨word, hword, hfile⟩ := Except.bind_eq_ok_iff.1 hfile
  obtain ⟨word', hword', hclass⟩ := Except.bind_eq_ok_iff.1 hclass
  rw [read, readFileName, readClassName, markerValue_append hword more,
    markerValue_append hword' more', Except.bind_ok, Except.bind_ok, hfile, Except.bind_ok, hclass]
  exact h

end Markers

/-! ### Headers -/

/-- The cells of a column that has none of them. -/
def HeaderCells.absent : HeaderCells :=
  { label := .null, type := .null, name := .null, scope := .null }

namespace Header

variable {columns more : List HeaderCells}

/-- Columns without names behind a header have no failure, and none of the others gets one. -/
theorem Faultless.append (h : Faultless columns)
    (hmore : ∀ cells ∈ more, cells.name.isBlank = true) : Faultless (columns ++ more) := by
  refine ⟨fun i cells hcells ↦ ?_, ?_, ?_⟩
  · -- A name is compared with those before it, and before a column there is what was there.
    rcases Nat.lt_or_ge i columns.length with hi | hi
    · rw [List.getElem?_append_left hi] at hcells
      have hfailure := h.names i cells hcells
      have hearlier : (columns ++ more).take i = columns.take i :=
        List.take_append_of_le_length hi.le
      rwa [nameFailure, ← hearlier, ← nameFailure] at hfailure
    · rw [List.getElem?_append_right hi] at hcells
      rw [nameFailure, if_pos (hmore cells (List.mem_of_getElem? hcells))]
  · intro cells hmem
    rcases List.mem_append.1 hmem with hmem | hmem
    · exact h.scopes cells hmem
    · rw [scopeFailure, if_pos (hmore cells hmem)]
  · intro cells hmem
    rcases List.mem_append.1 hmem with hmem | hmem
    · exact h.types cells hmem
    · rw [typeFailure, HeaderCells.scope?, hmore cells hmem]
      rfl

theorem schema_append (columns more : List HeaderCells) :
    schema (columns ++ more) = schema columns ++
      (more.zipIdx columns.length).map fun cells ↦ cells.1.column cells.2 := by
  rw [schema, schema, List.zipIdx_append, List.map_append, Nat.zero_add]

/-- **Columns**: columns without names behind a header make annotations behind its columns. -/
theorem compile_append {compiled : List Column} (h : compile (.ofColumns columns) = .ok compiled)
    (hmore : ∀ cells ∈ more, cells.name.isBlank = true)
    (hlabels : ∀ cells ∈ more, cells.label.HasText) : ∃ extra,
      compile (.ofColumns (columns ++ more)) = .ok (compiled ++ extra) ∧
        ∀ column ∈ extra, column.isExported = false := by
  have hne : columns ≠ [] := by
    rintro rfl
    cases h
  rw [compile_ofColumns hne] at h
  split at h
  · cases h
  · next hfailure =>
    split_ifs at h with htexts
    obtain rfl := Except.ok.inj h
    -- More columns without names make no pass fail.
    have hfailure' := failure?_eq_none_iff.2 ((failure?_eq_none_iff.1 hfailure).append hmore)
    have htexts' : ∀ cells ∈ columns ++ more, cells.label.HasText :=
      List.forall_mem_append.2 ⟨htexts, hlabels⟩
    refine ⟨(more.zipIdx columns.length).map fun cells ↦ cells.1.column cells.2, ?_, ?_⟩
    · rw [compile_ofColumns (List.append_ne_nil_of_left_ne_nil hne more), hfailure', schema_append]
      exact if_pos htexts'
    · intro column hmem
      obtain ⟨cells, hcells, rfl⟩ := List.mem_map.1 hmem
      have hname := hmore cells.1 (List.fst_mem_of_mem_zipIdx hcells)
      simp [Column.isExported, HeaderCells.column, HeaderCells.output?, HeaderCells.name?, hname]

/-- Filling up the rows of a header adds columns with nothing in them. -/
theorem ofColumns_rightpad {labels types names scopes : List (Option String)}
    (h : ({ labels := .list (labels.map .ofCell), types := .list (types.map .ofCell)
            names := .list (names.map .ofCell), scopes := .list (scopes.map .ofCell) } :
          HeaderRows) = .ofColumns columns) (width : Nat) :
    ({ labels := .list ((labels.rightpad width none).map .ofCell)
       types := .list ((types.rightpad width none).map .ofCell)
       names := .list ((names.rightpad width none).map .ofCell)
       scopes := .list ((scopes.rightpad width none).map .ofCell) } : HeaderRows) =
      .ofColumns (columns ++ List.replicate (width - columns.length) .absent) := by
  have hpad {row : List (Option String)} {cell : HeaderCells → Datum}
      (hrow : row.map Datum.ofCell = columns.map cell) (habsent : cell .absent = .null) :
      (row.rightpad width none).map Datum.ofCell =
        (columns ++ List.replicate (width - columns.length) HeaderCells.absent).map cell := by
    have hlength : row.length = columns.length := by simpa using congrArg List.length hrow
    rw [Datum.map_ofCell_rightpad, hrow, hlength, List.map_append, List.map_replicate, habsent]
  simp only [HeaderRows.ofColumns, HeaderRows.mk.injEq, Datum.list.injEq] at h ⊢
  obtain ⟨hlabels, htypes, hnames, hscopes⟩ := h
  exact ⟨hpad hlabels rfl, hpad htypes rfl, hpad hnames rfl, hpad hscopes rfl⟩

end Header

/-! ### Data rows -/

namespace TypedRows

theorem cellAt_append_replicate (cells : List Datum) (n : Nat) (index : Int) :
    cellAt (cells ++ List.replicate n .null) index = cellAt cells index := by
  cases index with
  | negSucc i => rfl
  | ofNat i =>
    rw [cellAt, cellAt]
    rcases Nat.lt_or_ge i cells.length with hi | hi
    · rw [List.getElem?_append_left hi]
    · rw [List.getElem?_append_right hi, List.getElem?_eq_none hi, List.getElem?_replicate]
      split_ifs <;> rfl

/-- Absent cells behind those of a row change nothing. -/
theorem SameIn.append (columns : List Column) (cells : List Datum) (n : Nat) :
    SameIn columns cells (cells ++ List.replicate n .null) where
  blank := by
    have hnull : (List.replicate n Datum.null).all (·.isBlank) = true :=
      List.all_eq_true.2 fun cell hmem ↦ by rw [List.eq_of_mem_replicate hmem]; rfl
    rw [List.all_append, hnull, Bool.and_true]
  cell column _ := (cellAt_append_replicate cells n column.index).symm

end TypedRows

/-! ### Tabs -/

namespace Classification

/-- The rows of a tab that is a config sheet. -/
theorem exists_rows_of_ofRows {tab : Tab} {sheet : Sheet}
    (h : ofRows tab.name tab.data = .ok (.config sheet)) :
    ∃ first second labels types names scopes block,
      tab.rows = first :: second :: labels :: types :: names :: scopes :: block := by
  obtain ⟨name, rows⟩ := tab
  match rows, h with
  | first :: second :: labels :: types :: names :: scopes :: block, _ =>
    exact ⟨first, second, labels, types, names, scopes, block, rfl⟩

/-- **Padding**: a config sheet whose rows are filled up to a width is a config sheet. It has the
same names, and its new columns are annotations behind the others. Its typed rows and errors are the
same, and so are its documents. -/
theorem padded_of_ofRows {tab : Tab} {sheet : Sheet}
    (hsheet : ofRows tab.name tab.data = .ok (.config sheet)) (width : Nat) :
    ∃ (padded : Sheet) (extra : List Column),
      ofRows tab.name (tab.padded width).data = .ok (.config padded) ∧
      padded.name = sheet.name ∧ padded.markers = sheet.markers ∧
      padded.columns = sheet.columns ++ extra ∧ (∀ column ∈ extra, column.isExported = false) ∧
      ∀ delimiter : Delimiter, ∃ typed,
        TypedRows.ofSheet delimiter.text sheet = .ok typed ∧
        TypedRows.ofSheet delimiter.text padded = .ok typed ∧
        ∀ audience, ∃ document?,
          Document.ofSheet? sheet typed.rows audience = .ok document? ∧
          Document.ofSheet? padded typed.rows audience = .ok document? := by
  obtain ⟨first, second, labels, types, names, scopes, block, hrows⟩ :=
    exists_rows_of_ofRows hsheet
  rw [Tab.data_eq_tabOf hrows] at hsheet
  obtain ⟨hname, hmarkers, hheader, hdata⟩ := spec_of_ofRows_tabOf hsheet
  obtain ⟨columns, hcolumns, -⟩ := Header.exists_ofColumns hheader
  -- The header gets columns without names, and only these.
  have habsent (cells : HeaderCells)
      (hmem : cells ∈ List.replicate (width - columns.length) HeaderCells.absent) :
      cells.name.isBlank = true ∧ cells.label.HasText := by
    rw [List.eq_of_mem_replicate hmem]
    exact ⟨rfl, Datum.hasText_null⟩
  obtain ⟨extra, hheader', hunexported⟩ := Header.compile_append (hcolumns ▸ hheader)
    (fun cells hmem ↦ (habsent cells hmem).1) fun cells hmem ↦ (habsent cells hmem).2
  rw [← Header.ofColumns_rightpad hcolumns width] at hheader'
  have hmarkers' := Markers.read_append hmarkers (List.replicate (width - first.length) .null)
    (List.replicate (width - second.length) .null)
  rw [← Datum.map_ofCell_rightpad, ← Datum.map_ofCell_rightpad] at hmarkers'
  let padded : Sheet :=
    { name := tab.name, markers := sheet.markers, columns := sheet.columns ++ extra
      dataRows := (block.map (List.rightpad width none)).map (·.map .ofCell) }
  have hpadded : ofRows tab.name (tab.padded width).data = .ok (.config padded) := by
    have hrows' : (tab.padded width).rows = _ :=
      congrArg (List.map (List.rightpad width none)) hrows
    rw [Tab.data_eq_tabOf hrows', ofRows_tabOf, hmarkers']
    simp only [hheader']
    rfl
  have hexported : sheet.exported = padded.exported := by
    have hnone : extra.filter (·.isExported) = [] := List.filter_eq_nil_iff.2 fun column hmem ↦ by
      simp [hunexported column hmem]
    rw [Sheet.exported, Sheet.exported, List.filter_append, hnone, List.append_nil]
  have hreads : sheet.ReadsAs padded := by
    refine ⟨hname, rfl, hexported, ?_⟩
    rw [hdata, List.forall₂_map_left_iff, List.forall₂_map_right_iff, List.forall₂_map_right_iff,
      List.forall₂_same]
    intro row _
    rw [Datum.map_ofCell_rightpad]
    exact .append _ _ _
  refine ⟨padded, extra, hpadded, hname.symm, rfl, rfl, hunexported, fun delimiter ↦ ?_⟩
  obtain ⟨typed, htyped⟩ := TypedRows.exists_ofBlock delimiter sheet.columns headerHeight block
  rw [← hdata] at htyped
  have hmade := TypedRows.made_of_ofSheet hsheet htyped
  have htyped' := (hreads.ofSheet_eq delimiter.text).symm.trans htyped
  exact ⟨typed, htyped, htyped', hreads.exists_document hmade⟩

/-! ### A small ragged tab -/

/-- A config sheet of one column, with rows of other lengths above and below its header. -/
def raggedTab : Tab :=
  { name := "Stock"
    rows :=
      [[some Markers.fileMark, some "stock"], [some Markers.classMark, some "Stock", some "draft"],
        [some "Number"], [some "int"], [some "id"], [some "sc"],
        [some "1"], [], [some "x", some "new", none, some "old"]] }

/-- The sheet in the tab. -/
def raggedSheet : Sheet :=
  { name := "Stock"
    markers := { fileName := "stock", className := "Stock" }
    columns :=
      [{ index := 0
         label := "Number"
         output := some
          { name := "id", scope := .ofList [.server, .client], type := .scalar .int } }]
    dataRows :=
      [[.text "1"], [], [.text "x", .text "new", .null, .text "old"]] }

/-- The ragged tab arrives with rows of four cells each, which changes nothing. -/
theorem padded_of_ofRows_raggedTab :
    ofRows raggedTab.name raggedTab.data = .ok (.config raggedSheet) ∧
      raggedTab.squared.rows.map List.length = List.replicate 9 4 ∧
      ∃ padded extra, ofRows raggedTab.name raggedTab.squared.data = .ok (.config padded) ∧
        padded.columns = raggedSheet.columns ++ extra ∧
        (∀ column ∈ extra, column.isExported = false) ∧
        ∃ typed, TypedRows.ofSheet Delimiter.comma.text raggedSheet = .ok typed ∧
          TypedRows.ofSheet Delimiter.comma.text padded = .ok typed := by
  have hsheet : ofRows raggedTab.name raggedTab.data = .ok (.config raggedSheet) := rfl
  obtain ⟨padded, extra, hpadded, -, -, hcolumns, hunexported, hsame⟩ := padded_of_ofRows hsheet 4
  obtain ⟨typed, htyped, htyped', -⟩ := hsame .comma
  exact ⟨hsheet, rfl, padded, extra, hpadded, hcolumns, hunexported, typed, htyped, htyped'⟩

end Classification

end ConfigTables
