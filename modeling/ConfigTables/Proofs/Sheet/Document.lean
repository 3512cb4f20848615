import ConfigTables.Proofs.Datum.Json
import ConfigTables.Proofs.Sheet.Conversion
import ConfigTables.Proofs.Sheet.Rows
import ConfigTables.Sheet.Document
import Mathlib.Data.List.Perm.Subperm

/-!
# How typed rows are split into documents

The names of exported columns differ. So the part of a typed row that a document takes is the
entries of the row under the names of its columns (`Document.pick_eq_restrict`), and taking it never
fails (`Document.ofSheet?_eq_ok`).

The main statement, `Document.split_of_ofRows`, says of all audiences at once what there is in their
documents, and that the documents together have just what the typed rows have.
-/

namespace ConfigTables

/-! ### Entries under distinct keys -/

/-- Among distinct keys, those in a sublist of them are the sublist. -/
theorem filter_mem_of_sublist {names keys : List String} (h : names.Sublist keys)
    (hnodup : keys.Nodup) : keys.filter (· ∈ names) = names := by
  have hkept : names.Sublist (keys.filter (· ∈ names)) := by
    have hself : names.filter (· ∈ names) = names := List.filter_eq_self.2 fun name hmem ↦ by
      simpa using hmem
    simpa [hself] using h.filter (· ∈ names)
  have hsub : keys.filter (· ∈ names) ⊆ names := fun name hmem ↦ by
    simpa using (List.mem_filter.1 hmem).2
  have hlength := (List.Nodup.subperm (hnodup.filter (· ∈ names)) hsub).length_le
  exact (hkept.eq_of_length_le hlength).symm

namespace Document

/-- The entries of a row under the given names. -/
def restrict (names : List String) (row : Row) : Row :=
  row.filter fun entry ↦ entry.1 ∈ names

/-- A row that is restricted to some of its keys has just these, in their order. -/
theorem map_fst_restrict {names : List String} {row : Row}
    (h : names.Sublist (row.map Prod.fst)) (hnodup : (row.map Prod.fst).Nodup) :
    (restrict names row).map Prod.fst = names := by
  have hmap := filter_mem_of_sublist h hnodup
  rwa [List.filter_map] at hmap

/-- Picking some of the distinct names of a row, in their order, takes its entries under them. -/
theorem pick_eq_restrict {names : List String} {row : Row}
    (h : names.Sublist (row.map Prod.fst)) (hnodup : (row.map Prod.fst).Nodup) :
    pick names row = .ok (restrict names row) := by
  rw [pick, Except.mapM_eq_ok_iff]
  nth_rewrite 1 [← map_fst_restrict h hnodup]
  rw [List.forall₂_map_left_iff, List.forall₂_same]
  intro entry hmem
  rw [lookup_of_mem hnodup (List.mem_of_mem_filter hmem)]

/-! ### The columns of a document -/

/-- A column is shown with its name, its type and its label. -/
def Shows (column : Column) (shown : DocumentColumn) : Prop :=
  ∃ output, column.output = some output ∧
    shown = { name := output.name, type := output.type, label := column.label }

/-- An audience is shown the columns that it sees, in the order of the sheet. -/
theorem forall₂_columnsFor (audience : Audience) (columns : List Column) :
    List.Forall₂ Shows (columns.filter (·.isSeenBy audience)) (columnsFor audience columns) := by
  induction columns with
  | nil => exact .nil
  | cons column columns ih =>
    rw [columnsFor] at ih ⊢
    rcases houtput : column.output with _ | output
    · have hskip : column.isSeenBy audience = false := by simp [Column.isSeenBy, houtput]
      rw [List.filter_cons_of_neg (by simp [hskip]), List.filterMap_cons_none (by simp [houtput])]
      exact ih
    · rcases hseen : output.scope.includes audience with _ | _
      · have hskip : column.isSeenBy audience = false := by
          simp [Column.isSeenBy, houtput, hseen]
        rw [List.filter_cons_of_neg (by simp [hskip]),
          List.filterMap_cons_none (by simp [houtput, hseen])]
        exact ih
      · have hkeep : column.isSeenBy audience = true := by
          simp [Column.isSeenBy, houtput, hseen]
        rw [List.filter_cons_of_pos (by exact hkeep), List.filterMap_cons_some
          (b := { name := output.name, type := output.type, label := column.label })
          (by simp [houtput, hseen])]
        exact .cons ⟨output, houtput, rfl⟩ ih

theorem map_name_of_forall₂ {columns : List Column} {shown : List DocumentColumn}
    (h : List.Forall₂ Shows columns shown) :
    shown.map (·.name) = (Column.outputs columns).map (·.name) := by
  induction h with
  | nil => rfl
  | cons hshown _ ih =>
    obtain ⟨output, houtput, rfl⟩ := hshown
    rw [List.map_cons, ih, Column.outputs, Column.outputs, List.filterMap_cons_some houtput,
      List.map_cons]

/-- The names of the columns that an audience sees. -/
def namesFor (audience : Audience) (columns : List Column) : List String :=
  (columnsFor audience columns).map (·.name)

/-- An audience gets the names of the columns that it sees. -/
theorem mem_namesFor {audience : Audience} {columns : List Column} {name : String} :
    name ∈ namesFor audience columns ↔ ∃ column ∈ columns, ∃ output,
      column.output = some output ∧ output.scope.includes audience = true ∧ output.name = name := by
  simp only [namesFor, columnsFor, List.mem_map, List.mem_filterMap, Option.bind_eq_some_iff]
  constructor
  · rintro ⟨shown, ⟨column, hmem, output, houtput, hshown⟩, rfl⟩
    split_ifs at hshown with hseen
    cases hshown
    exact ⟨column, hmem, output, houtput, hseen, rfl⟩
  · rintro ⟨column, hmem, output, houtput, hseen, rfl⟩
    exact ⟨_, ⟨column, hmem, output, houtput, if_pos hseen⟩, rfl⟩

/-- The names for an audience are among those of all exported columns. -/
theorem namesFor_sublist (audience : Audience) (columns : List Column) :
    (namesFor audience columns).Sublist ((Column.outputs columns).map (·.name)) := by
  rw [namesFor, map_name_of_forall₂ (forall₂_columnsFor audience columns)]
  exact (List.filter_sublist.filterMap _).map _

/-- The name of a column is one for an audience exactly if the audience sees the column. -/
theorem mem_namesFor_iff_isSeenBy {columns : List Column} (h : Header.Exportable columns)
    (audience : Audience) {column : Column} (hmem : column ∈ columns) {output : Output}
    (houtput : column.output = some output) :
    output.name ∈ namesFor audience columns ↔ column.isSeenBy audience = true := by
  rw [mem_namesFor]
  constructor
  · rintro ⟨other, hother, output', houtput', hseen, hname⟩
    rw [Column.isSeenBy_of_output (h.output_eq hmem hother houtput houtput' hname.symm)]
    simp [Column.isSeenBy, houtput', hseen]
  · intro hseen
    exact ⟨column, hmem, output, houtput, by simpa [Column.isSeenBy, houtput] using hseen, rfl⟩

/-! ### The part of a row for an audience -/

section Parts

variable {delimiter : String} {cells : List Datum} {columns : List Column} {row : Row}
  {audience : Audience}

/-- The part of a row under the names for an audience has an entry for each column that the audience
sees. -/
theorem forall₂_restrict (h : Header.Exportable columns)
    (hrow : List.Forall₂ (TypedRows.EntryOf delimiter cells) (columns.filter (·.isExported)) row) :
    List.Forall₂ (TypedRows.EntryOf delimiter cells) (columns.filter (·.isSeenBy audience))
      (restrict (namesFor audience columns) row) := by
  have hpart : ∀ {exported : List Column} {row : Row}, (∀ column ∈ exported, column ∈ columns) →
      List.Forall₂ (TypedRows.EntryOf delimiter cells) exported row →
        List.Forall₂ (TypedRows.EntryOf delimiter cells) (exported.filter (·.isSeenBy audience))
          (restrict (namesFor audience columns) row) := by
    intro exported row hsub hrow
    induction hrow with
    | nil => exact .nil
    | @cons column entry exported row hentry _ ih =>
      rw [List.forall_mem_cons] at hsub
      have hrest := ih hsub.2
      obtain ⟨output, houtput, hname, -⟩ := id hentry
      have hseen := mem_namesFor_iff_isSeenBy h audience hsub.1 houtput
      rw [← hname] at hseen
      rw [restrict] at hrest ⊢
      by_cases hmem : entry.1 ∈ namesFor audience columns
      · rw [List.filter_cons_of_pos (by exact hseen.1 hmem),
          List.filter_cons_of_pos (by simpa using hmem)]
        exact .cons hentry hrest
      · rw [List.filter_cons_of_neg (by simpa using fun hs ↦ hmem (hseen.2 hs)),
          List.filter_cons_of_neg (by simpa using hmem)]
        exact hrest
  have hseen := hpart (fun column hmem ↦ List.mem_of_mem_filter hmem) hrow
  -- Nobody sees an annotation, so seeing alone decides.
  rwa [List.filter_filter, List.filter_congr (q := (·.isSeenBy audience))] at hseen
  intro column _
  rcases hs : column.isSeenBy audience with _ | _
  · rfl
  · simp [Column.isExported_of_isSeenBy hs]

theorem mem_restrict {names : List String} {entry : String × Datum} :
    entry ∈ restrict names row ↔ entry ∈ row ∧ entry.1 ∈ names := by
  simp [restrict]

end Parts

/-! ### Whole documents -/

section Documents

variable {delimiter : String} {sheet : Sheet} {rows : List Row} {audience : Audience}

/-- The document of a sheet for an audience, if each row has the names that the columns export. -/
def view? (sheet : Sheet) (rows : List Row) (audience : Audience) : Option Document :=
  match columnsFor audience sheet.columns with
  | [] => none
  | columns => some
    { fileName := sheet.markers.fileName
      className := sheet.markers.className
      sheetName := sheet.name
      columns
      rows := rows.map (restrict (namesFor audience sheet.columns)) }

/-- **Documents**: nothing that a document needs is missing from the typed rows. -/
theorem ofSheet?_eq_ok (h : TypedRows.Made delimiter sheet rows) (audience : Audience) :
    ofSheet? sheet rows audience = .ok (view? sheet rows audience) := by
  have hparts : rows.mapM (pick (namesFor audience sheet.columns)) =
      .ok (rows.map (restrict (namesFor audience sheet.columns))) := by
    rw [Except.mapM_eq_ok_iff, List.forall₂_map_right_iff, List.forall₂_same]
    intro row hmem
    have hnames := h.map_fst hmem
    exact pick_eq_restrict (hnames ▸ namesFor_sublist audience sheet.columns)
      (hnames ▸ h.exportable.nodup)
  rw [ofSheet?, view?, namesFor]
  rw [namesFor] at hparts
  rcases hcolumns : columnsFor audience sheet.columns with _ | ⟨shown, columns⟩
  · rfl
  · rw [hcolumns] at hparts
    simp only [hparts, Except.bind_ok]
    rfl

/-- An audience that sees no column has no document. -/
theorem view?_eq_none_iff : view? sheet rows audience = none ↔
    ∀ column ∈ sheet.columns, column.isSeenBy audience = false := by
  have hnone : columnsFor audience sheet.columns = [] ↔
      sheet.columns.filter (·.isSeenBy audience) = [] := by
    rw [← List.length_eq_zero_iff, ← List.length_eq_zero_iff,
      (forall₂_columnsFor audience sheet.columns).length_eq]
  have hview : view? sheet rows audience = none ↔ columnsFor audience sheet.columns = [] := by
    rw [view?]
    rcases columnsFor audience sheet.columns <;> simp
  rw [hview, hnone, List.filter_eq_nil_iff]
  simp

/-- A document has the names of its sheet, the audience's columns and their part of each row. -/
theorem spec_of_view? {document : Document} (h : view? sheet rows audience = some document) :
    document =
      { fileName := sheet.markers.fileName
        className := sheet.markers.className
        sheetName := sheet.name
        columns := columnsFor audience sheet.columns
        rows := rows.map (restrict (namesFor audience sheet.columns)) } := by
  rw [view?] at h
  split at h <;> cases h
  rfl

/-- What the document of an audience has of its sheet and of the typed rows: the columns that the
audience sees, with name, type and label, and of each row the values of just these columns. -/
structure Extract (delimiter : String) (sheet : Sheet) (rows : List Row) (audience : Audience)
    (document : Document) : Prop where
  fileName : document.fileName = sheet.markers.fileName
  className : document.className = sheet.markers.className
  sheetName : document.sheetName = sheet.name
  columns : List.Forall₂ Shows (sheet.columns.filter (·.isSeenBy audience)) document.columns
  distinct : (document.columns.map (·.name)).Nodup
  length_rows : document.rows.length = rows.length
  /-- A row has the names of the columns for keys, and the values of the typed row. -/
  row : ∀ (k : Nat) (row part : Row), rows[k]? = some row → document.rows[k]? = some part →
    part.map Prod.fst = document.columns.map (·.name) ∧ ∀ entry ∈ part, entry ∈ row
  /-- Each value was made of a cell of a column that the audience sees. -/
  made : ∀ part ∈ document.rows, ∃ cells ∈ sheet.dataRows,
    List.Forall₂ (TypedRows.EntryOf delimiter cells) (sheet.columns.filter (·.isSeenBy audience))
      part
  /-- The name of a column that the audience does not see is the key of nothing. -/
  hidden : ∀ column ∈ sheet.columns, ∀ output, column.output = some output →
    column.isSeenBy audience = false → ∀ part ∈ document.rows, output.name ∉ part.map Prod.fst

/-- What an audience gets to see is an extract of the sheet. -/
theorem extract_of_view? (h : TypedRows.Made delimiter sheet rows) {document : Document}
    (hview : view? sheet rows audience = some document) :
    Extract delimiter sheet rows audience document := by
  have hkeys : ∀ row ∈ rows, (restrict (namesFor audience sheet.columns) row).map Prod.fst =
      namesFor audience sheet.columns := by
    intro row hmem
    have hnames := h.map_fst hmem
    exact map_fst_restrict (hnames ▸ namesFor_sublist audience sheet.columns)
      (hnames ▸ h.exportable.nodup)
  rw [spec_of_view? hview]
  refine ⟨rfl, rfl, rfl, forall₂_columnsFor audience sheet.columns,
    h.exportable.nodup.sublist (namesFor_sublist audience sheet.columns), List.length_map _,
    ?_, ?_, ?_⟩
  · intro k row part hrow hpart
    rw [List.getElem?_map, hrow] at hpart
    cases hpart
    exact ⟨hkeys row (List.mem_of_getElem? hrow), fun entry hmem ↦ (mem_restrict.1 hmem).1⟩
  · intro part hpart
    obtain ⟨row, hrow, rfl⟩ := List.mem_map.1 hpart
    obtain ⟨cells, hcells, hmade⟩ := h.made row hrow
    exact ⟨cells, hcells, forall₂_restrict h.exportable hmade⟩
  · intro column hmem output houtput hunseen part hpart
    obtain ⟨row, hrow, rfl⟩ := List.mem_map.1 hpart
    rw [hkeys row hrow, mem_namesFor_iff_isSeenBy h.exportable audience hmem houtput, hunseen]
    exact Bool.false_ne_true

/-! ### Documents together -/

/-- The part of the row at a place that a document has. An absent document has none. -/
def partAt (document? : Option Document) (k : Nat) : Row :=
  (document?.bind (·.rows[k]?)).getD []

/-- The part of a row in a document is the row restricted to the names of the audience. -/
theorem partAt_view? {k : Nat} {row : Row} (hrow : rows[k]? = some row) :
    partAt (view? sheet rows audience) k = restrict (namesFor audience sheet.columns) row := by
  rw [partAt, view?, namesFor]
  rcases columnsFor audience sheet.columns with _ | ⟨shown, columns⟩
  · simp [restrict]
  · simp [hrow]

/-- Every column is seen by somebody, so every entry of a row is in one of its parts. -/
theorem mem_iff_exists_restrict (h : TypedRows.Made delimiter sheet rows) {row : Row}
    (hrow : row ∈ rows) {entry : String × Datum} :
    entry ∈ row ↔ ∃ audience, entry ∈ restrict (namesFor audience sheet.columns) row := by
  constructor
  · intro hmem
    have hname := List.mem_map_of_mem (f := Prod.fst) hmem
    rw [h.map_fst hrow] at hname
    obtain ⟨output, houtput, hname⟩ := List.mem_map.1 hname
    obtain ⟨column, hcolumn, houtput⟩ := List.mem_filterMap.1 houtput
    obtain ⟨audience, hseen⟩ := h.exportable.seen column hcolumn (by
      simp [Column.isExported, houtput])
    refine ⟨audience, mem_restrict.2 ⟨hmem, ?_⟩⟩
    rw [← hname]
    exact (mem_namesFor_iff_isSeenBy h.exportable audience hcolumn houtput).2 hseen
  · rintro ⟨audience, hmem⟩
    exact (mem_restrict.1 hmem).1

/-- **Splitting**: the documents of a config sheet and its typed rows. Making them never fails. An
audience has none exactly if it sees no column, and otherwise it has an extract. The parts of a row
that the documents have agree where they have the same key, and together they are the row. -/
theorem split_of_ofRows {name : String} {tab : List Datum} {sheet : Sheet} {delimiter : Delimiter}
    {typed : TypedRows} (hsheet : Classification.ofRows name tab = .ok (.config sheet))
    (htyped : TypedRows.ofSheet delimiter.text sheet = .ok typed) :
    ∃ documents : Audience → Option Document,
      (∀ audience, ofSheet? sheet typed.rows audience = .ok (documents audience)) ∧
      (∀ audience, documents audience = none ↔
        ∀ column ∈ sheet.columns, column.isSeenBy audience = false) ∧
      (∀ audience document, documents audience = some document →
        Extract delimiter.text sheet typed.rows audience document) ∧
      ∀ (k : Nat) (row : Row), typed.rows[k]? = some row →
        (row.map Prod.fst).Nodup ∧
        (∀ entry, entry ∈ row ↔
          entry ∈ partAt (documents .server) k ∨ entry ∈ partAt (documents .client) k) ∧
        ∀ key value value', (key, value) ∈ partAt (documents .server) k →
          (key, value') ∈ partAt (documents .client) k → value = value' := by
  have hmade := TypedRows.made_of_ofSheet hsheet htyped
  refine ⟨view? sheet typed.rows, ofSheet?_eq_ok hmade, fun _ ↦ view?_eq_none_iff,
    fun _ _ ↦ extract_of_view? hmade, fun k row hrow ↦ ?_⟩
  have hmem := List.mem_of_getElem? hrow
  have hnodup : (row.map Prod.fst).Nodup := hmade.map_fst hmem ▸ hmade.exportable.nodup
  simp only [partAt_view? hrow]
  refine ⟨hnodup, fun entry ↦ ?_, fun key value value' hserver hclient ↦ ?_⟩
  · rw [mem_iff_exists_restrict hmade hmem]
    constructor
    · rintro ⟨_ | _, hpart⟩
      · exact .inl hpart
      · exact .inr hpart
    · rintro (hpart | hpart)
      · exact ⟨.server, hpart⟩
      · exact ⟨.client, hpart⟩
  · have hvalue := lookup_of_mem hnodup (mem_restrict.1 hserver).1
    have hvalue' := lookup_of_mem hnodup (mem_restrict.1 hclient).1
    exact Option.some.inj (hvalue.symm.trans hvalue')

end Documents

/-! ### A small sheet -/

/-- A tab with a column for both audiences, one for each of them, and an annotation. -/
def priceTab (block : List (List Datum)) : List Datum :=
  Classification.tabOf (.list [.text Markers.fileMark, .text "prices"])
    (.list [.text Markers.classMark, .text "Price"])
    { labels := .list [.text "Number", .text "Cost", .text "Name", .text "Remark"]
      types := .list [.text "int", .text "int", .text "string", .null]
      names := .list [.text "id", .text "cost", .text "name", .null]
      scopes := .list [.text "sc", .text "s", .text "c", .null] }
    block

/-- The sheet in the tab. -/
def priceSheet (block : List (List Datum)) : Sheet :=
  { name := "Prices"
    markers := { fileName := "prices", className := "Price" }
    columns :=
      [{ index := 0
         label := "Number"
         output := some { name := "id", scope := .ofList [.server, .client], type := .scalar .int } },
        { index := 1
          label := "Cost"
          output := some { name := "cost", scope := .ofList [.server], type := .scalar .int } },
        { index := 2
          label := "Name"
          output := some { name := "name", scope := .ofList [.client], type := .scalar .string } },
        { index := 3, label := "Remark", output := none }]
    dataRows := block }

/-- Three rows of cells, one of them blank. -/
def priceBlock : List (List Datum) :=
  [[.text "1", .text "90", .text " tea ", .text "cheap"], [.null, .text " "],
    [.text "2", .text "70"]]

/-- The typed rows of the block. -/
def priceRows : List Row :=
  [[("id", .int 1), ("cost", .int 90), ("name", .text "tea")],
    [("id", .int 2), ("cost", .int 70), ("name", .text "")]]

/-- Both audiences have a document of the small sheet, and the client's lacks the costs. -/
theorem split_of_ofRows_priceTab :
    Classification.ofRows "Prices" (priceTab priceBlock) = .ok (.config (priceSheet priceBlock)) ∧
      TypedRows.ofSheet Delimiter.comma.text (priceSheet priceBlock) = .ok { rows := priceRows } ∧
      ∃ documents : Audience → Option Document,
        (∀ audience, documents audience ≠ none) ∧
        (("cost", .int 90) ∈ partAt (documents .server) 0 ∨
          ("cost", .int 90) ∈ partAt (documents .client) 0) ∧
        ∀ document, documents .client = some document →
          ∀ part ∈ document.rows, "cost" ∉ part.map Prod.fst := by
  have hsheet : Classification.ofRows "Prices" (priceTab priceBlock) =
      .ok (.config (priceSheet priceBlock)) := rfl
  have htyped : TypedRows.ofSheet Delimiter.comma.text (priceSheet priceBlock) =
      .ok { rows := priceRows } := rfl
  obtain ⟨documents, -, hnone, hextract, hparts⟩ := split_of_ofRows hsheet htyped
  refine ⟨hsheet, htyped, documents, fun audience hdocument ↦ ?_, ?_, fun document hdocument ↦ ?_⟩
  · have hunseen := (hnone audience).1 hdocument _ List.mem_cons_self
    cases audience <;> cases hunseen
  · obtain ⟨-, hunion, -⟩ := hparts 0 _ rfl
    exact (hunion ("cost", .int 90)).1 (by simp)
  · exact (hextract .client document hdocument).hidden _
      (List.mem_cons_of_mem _ List.mem_cons_self) _ rfl rfl

end Document

end ConfigTables
