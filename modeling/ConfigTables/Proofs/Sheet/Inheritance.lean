import ConfigTables.Proofs.Datum.Texts
import ConfigTables.Proofs.Sheet.Document
import ConfigTables.Proofs.Value.Integer

/-!
# What documents have from their tabs

The values in a document were made of cells of its tab, one by one, and the document is put together
of them. So a property that goes from the parts of a datum to the whole and back
(`Datum.Inherited`) is one of all documents of a tab if it is one of the rows of the tab
(`Document.inherits_toDatum`).

Having a text is such a property, since an integer that was read from a cell is small
(`Datum.inherited_hasText`). The cells of a tab in a workbook are texts, so its documents always
have texts and can be put into JSON (`Document.hasText_toDatum`).
-/

namespace ConfigTables

/-- A property of data that typed values and documents have from the cells that they are made of. -/
structure Datum.Inherited (p : Datum → Prop) : Prop where
  null : p .null
  bool : ∀ b, p (.bool b)
  /-- No integer in a cell has more digits than these. -/
  int : ∀ n : Int, -10 ^ 17 < n → n < 10 ^ 17 → p (.int n)
  text : ∀ s, p (.text s)
  list : ∀ items : List Datum, (∀ d ∈ items, p d) → p (.list items)
  items : ∀ items : List Datum, p (.list items) → ∀ d ∈ items, p d
  object : ∀ entries : List (String × Datum), (entries.map Prod.fst).Nodup →
    (∀ entry ∈ entries, p entry.2) → p (.object entries)

namespace Datum.Inherited

variable {p : Datum → Prop} (hp : Inherited p)
include hp

/-- What can be gone through in a datum is like the datum. -/
theorem of_members? {d : Datum} (h : p d) {cells : List Datum} (hcells : d.members? = some cells) :
    ∀ cell ∈ cells, p cell := by
  cases d with
  | list items =>
    cases hcells
    exact hp.items _ h
  | text s =>
    cases hcells
    exact List.forall_mem_map.2 fun c _ ↦ hp.text _
  | object entries =>
    cases hcells
    exact List.forall_mem_map.2 fun entry _ ↦ hp.text _
  | null | bool | int | float => cases hcells

/-! ### Values -/

variable {delimiter : String} {cell value : Datum}

/-- A value is the cell itself, or one that has every inherited property. -/
theorem of_ofScalar {element : ScalarType} (hcell : p cell)
    (h : Value.ofScalar element cell = .ok value) : p value := by
  unfold Value.ofScalar at h
  split at h
  · cases h
    exact hcell
  · cases h
    exact hp.bool _
  · cases h
    exact hp.bool _
  · cases h
    exact hp.text _
  · cases h
    exact hp.text _
  · cases h
  · split at h
    · next n hread =>
      cases h
      obtain ⟨hlow, hhigh⟩ := (Value.readInteger_eq_some_iff.1 hread).lt
      exact hp.int n hlow hhigh
    · cases h
  · cases h

/-- The elements of an array are texts, whatever the cell is. -/
theorem of_ofCell {type : ColumnType} (hcell : p cell)
    (h : Value.ofCell delimiter type cell = .ok value) : p value := by
  rcases type with element | element
  · exact hp.of_ofScalar hcell h
  · obtain ⟨parts, -, h⟩ := Except.bind_eq_ok_iff.1 h
    obtain ⟨values, hvalues, h⟩ := Except.bind_eq_ok_iff.1 h
    cases h
    refine hp.list _ fun value hvalue ↦ ?_
    obtain ⟨part, -, hpart⟩ := (Except.mapM_eq_ok_iff.1 hvalues).flip.exists_of_mem hvalue
    exact hp.of_ofScalar (hp.text part) hpart

/-! ### Rows -/

theorem of_cellAt {cells : List Datum} (hcells : ∀ cell ∈ cells, p cell) (index : Int) :
    p (TypedRows.cellAt cells index) := by
  rcases index with index | index
  · rw [TypedRows.cellAt]
    rcases hcell : cells[index]? with _ | cell
    · exact hp.null
    · exact hcells cell (List.mem_of_getElem? hcell)
  · exact hp.null

/-- What holds of the cells of a row holds of the values in it. -/
theorem of_entryOf {cells : List Datum} {columns : List Column} {row : Row}
    (hcells : ∀ cell ∈ cells, p cell)
    (h : List.Forall₂ (TypedRows.EntryOf delimiter cells) columns row) :
    ∀ entry ∈ row, p entry.2 := by
  intro entry hentry
  obtain ⟨column, -, output, -, -, hvalue⟩ := h.flip.exists_of_mem hentry
  exact hp.of_ofCell (hp.of_cellAt hcells column.index) hvalue

/-- The data rows of a sheet are taken from the rows of its tab. -/
theorem of_dataRows {name : String} {rows : List Datum} {sheet : Sheet}
    (hrows : ∀ row ∈ rows, p row) (h : Classification.ofRows name rows = .ok (.config sheet)) :
    ∀ cells ∈ sheet.dataRows, ∀ cell ∈ cells, p cell := by
  obtain ⟨first, second, header, data, rfl, -, -, -, hdata⟩ := Classification.spec_of_ofRows h
  intro cells hcells
  obtain ⟨row, hrow, hmembers⟩ := (Except.mapM_eq_ok_iff.1 hdata).flip.exists_of_mem hcells
  have hhas : p row := hrows row (List.mem_append_right
    [first, second, header.labels, header.types, header.names, header.scopes] hrow)
  rw [Classification.dataCells] at hmembers
  split at hmembers
  · next hfound =>
    cases hmembers
    exact hp.of_members? hhas hfound
  · cases hmembers

end Datum.Inherited

/-! ### Documents -/

/-- **Documents**: a document has what the rows of its tab have, and its entries stand under
distinct keys. -/
theorem Document.inherits_toDatum {p : Datum → Prop} (hp : Datum.Inherited p)
    {delimiter : Delimiter} {name : String} {rows : List Datum} {result : TabResult} {sheet : Sheet}
    {audience : Audience} {document : Document} (hrows : ∀ row ∈ rows, p row)
    (hresult : TabResult.ofTab delimiter name rows = .ok result)
    (hsheet : result.outcome = .config sheet)
    (hdocument : ofSheet? sheet result.rows audience = .ok (some document)) :
    p document.toDatum := by
  have hmade := TabResult.made_of_ofTab hresult hsheet
  have hcells := hp.of_dataRows hrows (TabResult.spec_of_ofTab hresult hsheet).1
  rw [ofSheet?_eq_ok hmade] at hdocument
  have hextract := extract_of_view? hmade (Except.ok.inj hdocument)
  have hcolumns : ∀ d ∈ document.columns.map fun column : DocumentColumn ↦ Datum.object
      [("name", .text column.name), ("type", .text column.type.expression),
        ("label", .text column.label)], p d := by
    refine List.forall_mem_map.2 fun column _ ↦ hp.object _ (by simp) ?_
    simp only [List.forall_mem_cons]
    exact ⟨hp.text _, hp.text _, hp.text _, List.forall_mem_nil _⟩
  have hparts : ∀ d ∈ document.rows.map Datum.object, p d := by
    refine List.forall_mem_map.2 fun part hpart ↦ hp.object _ ?_ ?_
    · obtain ⟨k, hk⟩ := List.getElem?_of_mem hpart
      obtain ⟨hbound, -⟩ := List.getElem?_eq_some_iff.1 hk
      obtain ⟨row, hrow⟩ : ∃ row, result.rows[k]? = some row :=
        ⟨_, List.getElem?_eq_getElem
          (show k < result.rows.length from hextract.length_rows ▸ hbound)⟩
      rw [(hextract.row k row part hrow hk).1]
      exact hextract.distinct
    · obtain ⟨cells, hmem, hentries⟩ := hextract.made part hpart
      exact hp.of_entryOf (hcells cells hmem) hentries
  refine hp.object _ (by simp) ?_
  simp only [List.forall_mem_cons]
  exact ⟨hp.text _, hp.text _, hp.text _, hp.list _ hcolumns, hp.list _ hparts,
    List.forall_mem_nil _⟩

/-! ### Texts -/

/-- An integer from a cell has few enough digits to be written. -/
theorem Datum.isWritable_of_lt {n : Int} (hlow : -10 ^ 17 < n) (hhigh : n < 10 ^ 17) :
    isWritable n = true := by
  rw [isWritable, decide_eq_true_iff]
  have hlength : (Nat.toDigits 10 n.natAbs).length ≤ 17 :=
    (Nat.length_toDigits_le_iff (by decide) (by decide)).2 (by omega)
  exact hlength.trans (by decide)

/-- Having a text is inherited: the integers that are read from cells are short. -/
theorem Datum.inherited_hasText : Inherited HasText where
  null := hasText_null
  bool b := by cases b <;> rfl
  int n hlow hhigh := by
    rw [HasText, display?, if_pos (isWritable_of_lt hlow hhigh)]
    rfl
  text := hasText_text
  list _ := hasText_list_iff.2
  items _ := hasText_list_iff.1
  object _ _ := hasText_object_iff.2

theorem Tab.hasText_data (tab : Tab) : ∀ row ∈ tab.data, row.HasText :=
  List.forall_mem_map.2 fun row _ ↦ Datum.hasText_list_map_ofCell row

/-- The documents of a tab in a workbook have texts. -/
theorem Document.hasText_toDatum {delimiter : Delimiter} {tab : Tab} {result : TabResult}
    {sheet : Sheet} {audience : Audience} {document : Document}
    (hresult : TabResult.ofTab delimiter tab.name tab.data = .ok result)
    (hsheet : result.outcome = .config sheet)
    (hdocument : ofSheet? sheet result.rows audience = .ok (some document)) :
    document.toDatum.HasText :=
  inherits_toDatum Datum.inherited_hasText tab.hasText_data hresult hsheet hdocument

end ConfigTables
