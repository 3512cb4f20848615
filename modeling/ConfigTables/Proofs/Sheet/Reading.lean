import ConfigTables.Proofs.Column.Schema
import ConfigTables.Proofs.Sheet.Classification
import ConfigTables.Proofs.Sheet.Document

/-!
# What a conversion reads of a sheet

A conversion goes through the exported columns of a sheet and through their cells. Of a whole data
row it asks only whether the row is blank. So two sheets that agree in this much
(`Sheet.ReadsAs`) have the same typed rows and errors (`Sheet.ReadsAs.ofSheet_eq`) and the same
documents (`Sheet.ReadsAs.document_eq`), whatever else there is in them.

What the caller of a conversion gets to see of the two is then the same as well
(`TabResult.Indistinguishable`).
-/

namespace ConfigTables

namespace TypedRows

variable {delimiter : String} {line : Nat} {columns : List Column}

/-- Two rows of cells are the same in some columns: they agree in these, where a cell that is
missing is an absent one, and both are blank or neither is. -/
structure SameIn (columns : List Column) (cells cells' : List Datum) : Prop where
  blank : cells.all (·.isBlank) = cells'.all (·.isBlank)
  cell : ∀ column ∈ columns, cellAt cells column.index = cellAt cells' column.index

/-- Only exported columns count for a typed row. -/
theorem typeRow_exported (cells : List Datum) :
    typeRow delimiter line cells (columns.filter (·.isExported)) =
      typeRow delimiter line cells columns := by
  induction columns with
  | nil => rfl
  | cons column columns ih =>
    rcases houtput : column.output with _ | output
    · have hskip : column.isExported = false := by simp [Column.isExported, houtput]
      rw [List.filter_cons_of_neg (by simp [hskip]), ih, typeRow, houtput]
    · have hkeep : column.isExported = true := by simp [Column.isExported, houtput]
      rw [List.filter_cons_of_pos hkeep, typeRow, typeRow, ih]

theorem typeRow_congr {cells cells' : List Datum}
    (h : ∀ column ∈ columns, cellAt cells column.index = cellAt cells' column.index) :
    typeRow delimiter line cells columns = typeRow delimiter line cells' columns := by
  induction columns with
  | nil => rfl
  | cons column columns ih =>
    rw [List.forall_mem_cons] at h
    rw [typeRow, typeRow, h.1, ih h.2]

theorem ofBlock_exported (block : List (List Datum)) :
    ofBlock delimiter (columns.filter (·.isExported)) line block =
      ofBlock delimiter columns line block := by
  induction block generalizing line with
  | nil => rfl
  | cons cells block ih => rw [ofBlock, ofBlock, ih, typeRow_exported]

/-- Blocks that are the same in the columns, row by row, have the same typed rows and errors. -/
theorem ofBlock_congr {block block' : List (List Datum)}
    (h : List.Forall₂ (SameIn columns) block block') :
    ofBlock delimiter columns line block = ofBlock delimiter columns line block' := by
  induction h generalizing line with
  | nil => rfl
  | cons hcells _ ih => rw [ofBlock, ofBlock, ih, hcells.blank, typeRow_congr hcells.cell]

end TypedRows

theorem Document.columnsFor_exported (audience : Audience) (columns : List Column) :
    columnsFor audience (columns.filter (·.isExported)) = columnsFor audience columns := by
  rw [columnsFor, columnsFor, List.filterMap_filter]
  congr 1
  funext column
  rcases houtput : column.output <;> simp [Column.isExported, houtput]

namespace Sheet

/-- A sheet reads as another one: it has the same names and the same exported columns, and its data
rows are the same in these. -/
structure ReadsAs (sheet other : Sheet) : Prop where
  name : sheet.name = other.name
  markers : sheet.markers = other.markers
  exported : sheet.exported = other.exported
  rows : List.Forall₂ (TypedRows.SameIn other.exported) sheet.dataRows other.dataRows

variable {sheet other : Sheet}

/-- **Typing**: sheets that read alike have the same typed rows and errors. -/
theorem ReadsAs.ofSheet_eq (h : sheet.ReadsAs other) (delimiter : String) :
    TypedRows.ofSheet delimiter sheet = TypedRows.ofSheet delimiter other := by
  calc TypedRows.ofSheet delimiter sheet
      = TypedRows.ofBlock delimiter sheet.exported headerHeight sheet.dataRows :=
        (TypedRows.ofBlock_exported sheet.dataRows).symm
    _ = TypedRows.ofBlock delimiter other.exported headerHeight other.dataRows := by
        rw [h.exported, TypedRows.ofBlock_congr h.rows]
    _ = TypedRows.ofSheet delimiter other := TypedRows.ofBlock_exported other.dataRows

/-- **Exporting**: sheets that read alike have the same documents of given rows. -/
theorem ReadsAs.document_eq (h : sheet.ReadsAs other) (rows : List Row) (audience : Audience) :
    Document.ofSheet? sheet rows audience = Document.ofSheet? other rows audience := by
  have hexported : sheet.columns.filter (·.isExported) = other.columns.filter (·.isExported) :=
    h.exported
  rw [Document.ofSheet?, Document.ofSheet?, ← Document.columnsFor_exported, hexported,
    Document.columnsFor_exported, h.name, h.markers]

/-- The documents of rows that were made from one of two sheets that read alike can be made for
both. -/
theorem ReadsAs.exists_document (h : sheet.ReadsAs other) {delimiter : String} {rows : List Row}
    (hmade : TypedRows.Made delimiter sheet rows) (audience : Audience) : ∃ document?,
      Document.ofSheet? sheet rows audience = .ok document? ∧
        Document.ofSheet? other rows audience = .ok document? := by
  have hdocument := Document.ofSheet?_eq_ok hmade audience
  exact ⟨_, hdocument, (h.document_eq rows audience).symm.trans hdocument⟩

end Sheet

/-! ### Results -/

namespace TabResult

/-- Nothing that a caller sees tells two results apart: they have the same status and messages, the
same typed rows and errors, and the documents of the one are those of the other. -/
structure Indistinguishable (result other : TabResult) : Prop where
  status : result.status = other.status
  messages : result.messages = other.messages
  rows : result.rows = other.rows
  errors : result.errors = other.errors
  /-- If one of them is a config sheet, so is the other, and their documents can be made. -/
  documents : ∀ sheet, result.outcome = .config sheet → ∃ sheet', other.outcome = .config sheet' ∧
    ∀ audience, ∃ document?, Document.ofSheet? sheet result.rows audience = .ok document? ∧
      Document.ofSheet? sheet' other.rows audience = .ok document?

/-- A rejected tab is told from no tab that is rejected for the same reason. -/
theorem Indistinguishable.rejected (name : String) (rejection : Rejection) :
    Indistinguishable { outcome := .rejected name rejection }
      { outcome := .rejected name rejection } :=
  ⟨rfl, rfl, rfl, rfl, nofun⟩

/-- Results of sheets that read alike are not told apart. -/
theorem Indistinguishable.config {delimiter : String} {sheet other : Sheet} {typed : TypedRows}
    (h : sheet.ReadsAs other) (hmade : TypedRows.Made delimiter sheet typed.rows) :
    Indistinguishable { outcome := .config sheet, rows := typed.rows, errors := typed.errors }
      { outcome := .config other, rows := typed.rows, errors := typed.errors } := by
  refine ⟨rfl, rfl, rfl, rfl, ?_⟩
  rintro _ ⟨⟩
  exact ⟨other, rfl, h.exists_document hmade⟩

end TabResult

/-! ### Tabs in parts -/

namespace Classification

/-- The classification of a tab that has its marker rows, its header rows and a data block of
lists. -/
theorem ofRows_tabOf (name : String) (first second : Datum) (header : HeaderRows)
    (block : List (List Datum)) :
    ofRows name (tabOf first second header block) =
      match Markers.read first second with
      | .error (.fault fault) => .ok (.rejected name (.malformed { fault }))
      | .error (.abort cause) => .error cause
      | .ok markers =>
        match Header.compile header with
        | .error (.fault error) => .ok (.rejected name (.malformed error))
        | .error (.abort cause) => .error cause
        | .ok columns => .ok (.config { name, markers, columns, dataRows := block }) := by
  have hblock : (block.map Datum.list).mapM dataCells = .ok block := by
    rw [Except.mapM_eq_ok_iff, List.forall₂_map_left_iff, List.forall₂_same]
    exact fun _ _ ↦ rfl
  rw [tabOf, ofRows, hblock]
  rfl

/-- If such a tab gets no answer, one of its first six rows has no text. -/
theorem exists_not_hasText_of_tabOf {name : String} {first second : Datum} {header : HeaderRows}
    {block : List (List Datum)} {cause : Abort}
    (h : ofRows name (tabOf first second header block) = .error cause) :
    ∃ row ∈ (tabOf first second header block).take headerHeight, ¬row.HasText := by
  obtain ⟨markers, columns, hmarkers, hcolumns, -⟩ | ⟨error, -, hrejected⟩ | hunreadable :=
    ofRows_sixRows name first second header
  · rw [ofRows_tabOf, hmarkers] at h
    simp only [hcolumns] at h
    cases h
  · cases h.symm.trans (hrejected (block.map .list))
  · exact (hunreadable (block.map .list)).1.exists_not_hasText

end Classification

namespace TabResult

variable {delimiter : Delimiter} {name : String} {first second : Datum} {header : HeaderRows}
  {block : List (List Datum)}

/-- A tab without a classification has no result. -/
theorem ofTab_of_ofRows {rows : List Datum} {cause : Abort}
    (h : Classification.ofRows name rows = .error cause) :
    ofTab delimiter name rows = .error cause := by
  rw [ofTab, h]
  rfl

/-- Faulty marker rows are what there is to say about a tab. -/
theorem ofTab_tabOf_of_markers {fault : Fault}
    (h : Markers.read first second = .error (.fault fault)) :
    ofTab delimiter name (Classification.tabOf first second header block) =
      .ok { outcome := .rejected name (.malformed { fault }) } := by
  rw [ofTab, Classification.ofRows_tabOf, h]
  rfl

/-- If the marker rows are not faulty and the header is, so is the tab. -/
theorem ofTab_tabOf_of_header {markers : Markers} {error : PlacedFault}
    (hmarkers : Markers.read first second = .ok markers)
    (h : Header.compile header = .error (.fault error)) :
    ofTab delimiter name (Classification.tabOf first second header block) =
      .ok { outcome := .rejected name (.malformed error) } := by
  rw [ofTab, Classification.ofRows_tabOf, hmarkers]
  simp only [h]
  rfl

/-- Any other tab has typed rows and errors. -/
theorem ofTab_tabOf_of_columns {markers : Markers} {columns : List Column} {typed : TypedRows}
    (hmarkers : Markers.read first second = .ok markers)
    (h : Header.compile header = .ok columns)
    (htyped : TypedRows.ofBlock delimiter.text columns headerHeight block = .ok typed) :
    ofTab delimiter name (Classification.tabOf first second header block) =
      .ok
        { outcome := .config { name, markers, columns, dataRows := block }
          rows := typed.rows
          errors := typed.errors } := by
  rw [ofTab, Classification.ofRows_tabOf, hmarkers]
  simp only [h, Except.bind_ok, TypedRows.ofSheet, htyped]
  rfl

end TabResult

end ConfigTables
