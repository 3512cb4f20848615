import ConfigTables.Proofs.Sheet.Document

/-!
# What an audience does not see has no effect on its document

Two data blocks are the same to an audience if their rows, one by one, agree in the columns that the
audience sees and are blank in the same places (`TypedRows.SameFor`). The rest of a row decides
whether the row converts, but not what is made of the columns that the audience sees. So if both
blocks convert as a whole, the parts of their rows for the audience are equal, row by row
(`TypedRows.map_restrict_eq`), and so are the documents (`Document.ofSheet?_eq_of_sameFor`).

The induction is on both blocks at once: blank rows are left out of both or of neither, which keeps
the rows that remain in step.
-/

namespace ConfigTables

namespace TypedRows

variable {audience : Audience} {columns : List Column} {delimiter : String}

/-- Two rows of cells are the same to an audience: they agree in the columns that it sees, where a
cell that is missing is an absent one, and both are blank or neither is. -/
structure SameFor (audience : Audience) (columns : List Column) (cells cells' : List Datum) :
    Prop where
  blank : cells.all (·.isBlank) = cells'.all (·.isBlank)
  seen : ∀ column ∈ columns, column.isSeenBy audience = true →
    cellAt cells column.index = cellAt cells' column.index

/-- Columns make the same entries of rows that agree in them. -/
theorem eq_of_forall₂_entryOf {cells cells' : List Datum} {row row' : Row}
    (hrow : List.Forall₂ (EntryOf delimiter cells) columns row)
    (hrow' : List.Forall₂ (EntryOf delimiter cells') columns row')
    (hcells : ∀ column ∈ columns, cellAt cells column.index = cellAt cells' column.index) :
    row = row' := by
  induction hrow generalizing row' with
  | nil =>
    cases hrow'
    rfl
  | cons hentry _ ih =>
    obtain ⟨⟨name, value⟩, rest, hentry', hrest, rfl⟩ := List.forall₂_cons_left_iff.1 hrow'
    rw [List.forall_mem_cons] at hcells
    obtain ⟨output, houtput, hname, hvalue⟩ := hentry
    obtain ⟨output', houtput', hname', hvalue'⟩ := hentry'
    cases houtput.symm.trans houtput'
    rw [← hcells.1, hvalue] at hvalue'
    rw [ih hrest hcells.2, Prod.ext_iff.2 ⟨hname.trans hname'.symm, Except.ok.inj hvalue'⟩]

/-- Rows that are the same to an audience have the same part for it. -/
theorem restrict_eq_of_sameFor (h : Header.Exportable columns) {cells cells' : List Datum}
    (hsame : SameFor audience columns cells cells') {row row' : Row}
    (hrow : List.Forall₂ (EntryOf delimiter cells) (columns.filter (·.isExported)) row)
    (hrow' : List.Forall₂ (EntryOf delimiter cells') (columns.filter (·.isExported)) row') :
    Document.restrict (Document.namesFor audience columns) row =
      Document.restrict (Document.namesFor audience columns) row' := by
  refine eq_of_forall₂_entryOf (Document.forall₂_restrict h hrow)
    (Document.forall₂_restrict h hrow') fun column hmem ↦ ?_
  obtain ⟨hmem, hseen⟩ := List.mem_filter.1 hmem
  exact hsame.seen column hmem hseen

/-- A block without errors whose first row is not blank begins with what is made of this row. -/
theorem spec_of_ofBlock_cons {line : Nat} {cells : List Datum} {block : List (List Datum)}
    {typed : TypedRows} (h : ofBlock delimiter columns line (cells :: block) = .ok typed)
    (herrors : typed.errors = []) (hblank : cells.all (·.isBlank) = false) : ∃ row rest,
      List.Forall₂ (EntryOf delimiter cells) (columns.filter (·.isExported)) row ∧
      ofBlock delimiter columns (line + 1) block = .ok rest ∧ rest.errors = [] ∧
      typed.rows = row :: rest.rows := by
  rw [ofBlock, hblank, if_neg Bool.false_ne_true] at h
  obtain ⟨⟨row, errors⟩, hrow, h⟩ := Except.bind_eq_ok_iff.1 h
  obtain ⟨rest, hrest, h⟩ := Except.bind_eq_ok_iff.1 h
  rcases errors with _ | ⟨error, errors⟩
  · cases h
    exact ⟨row, rest, forall₂_of_typeRow hrow, hrest, herrors, rfl⟩
  · cases h
    cases herrors

/-- **Rows**: blocks that are the same to an audience have the same parts for it, row by row, if
neither has an error. -/
theorem map_restrict_eq (h : Header.Exportable columns) {block block' : List (List Datum)}
    (hsame : List.Forall₂ (SameFor audience columns) block block') {line : Nat}
    {typed typed' : TypedRows} (htyped : ofBlock delimiter columns line block = .ok typed)
    (htyped' : ofBlock delimiter columns line block' = .ok typed') (herrors : typed.errors = [])
    (herrors' : typed'.errors = []) :
    typed.rows.map (Document.restrict (Document.namesFor audience columns)) =
      typed'.rows.map (Document.restrict (Document.namesFor audience columns)) := by
  induction hsame generalizing line typed typed' with
  | nil =>
    cases htyped
    cases htyped'
    rfl
  | @cons cells cells' block block' hcells _ ih =>
    rcases hblank : cells.all (·.isBlank) with _ | _
    · have hblank' := hcells.blank.symm.trans hblank
      obtain ⟨row, rest, hrow, hrest, hnone, hrows⟩ := spec_of_ofBlock_cons htyped herrors hblank
      obtain ⟨row', rest', hrow', hrest', hnone', hrows'⟩ :=
        spec_of_ofBlock_cons htyped' herrors' hblank'
      rw [hrows, hrows', List.map_cons, List.map_cons, ih hrest hrest' hnone hnone',
        restrict_eq_of_sameFor h hcells hrow hrow']
    · -- Both rows are blank, and nothing is made of them.
      have hblank' := hcells.blank.symm.trans hblank
      rw [ofBlock, hblank, if_pos rfl] at htyped
      rw [ofBlock, hblank', if_pos rfl] at htyped'
      exact ih htyped htyped' herrors herrors'

end TypedRows

namespace Document

/-- **Secrecy**: two tabs with the same marker rows and header rows have the same document for an
audience if both convert and their data blocks are the same to the audience. -/
theorem ofSheet?_eq_of_sameFor {delimiter : Delimiter} {name : String} {first second : Datum}
    {header : HeaderRows} {block block' : List (List Datum)} {result result' : TabResult}
    {sheet sheet' : Sheet} {audience : Audience}
    (hresult : TabResult.ofTab delimiter name (Classification.tabOf first second header block) =
      .ok result)
    (hresult' : TabResult.ofTab delimiter name (Classification.tabOf first second header block') =
      .ok result')
    (hsheet : result.outcome = .config sheet) (hsheet' : result'.outcome = .config sheet')
    (hstatus : result.status = .converted) (hstatus' : result'.status = .converted)
    (hsame : List.Forall₂ (TypedRows.SameFor audience sheet.columns) block block') :
    ∃ document?, ofSheet? sheet result.rows audience = .ok document? ∧
      ofSheet? sheet' result'.rows audience = .ok document? := by
  have hmade := TabResult.made_of_ofTab hresult hsheet
  have hmade' := TabResult.made_of_ofTab hresult' hsheet'
  obtain ⟨hrows, htyped⟩ := TabResult.spec_of_ofTab hresult hsheet
  obtain ⟨hrows', htyped'⟩ := TabResult.spec_of_ofTab hresult' hsheet'
  obtain ⟨hname, hmarkers, hcolumns, hdata⟩ := Classification.spec_of_ofRows_tabOf hrows
  obtain ⟨hname', hmarkers', hcolumns', hdata'⟩ := Classification.spec_of_ofRows_tabOf hrows'
  have heqMarkers := Except.ok.inj (hmarkers.symm.trans hmarkers')
  have heqColumns := Except.ok.inj (hcolumns.symm.trans hcolumns')
  rw [TypedRows.ofSheet, hdata] at htyped
  rw [TypedRows.ofSheet, hdata', ← heqColumns] at htyped'
  have hparts := TypedRows.map_restrict_eq hmade.exportable hsame htyped htyped'
    ((TabResult.status_eq_converted_iff hsheet).1 hstatus)
    ((TabResult.status_eq_converted_iff hsheet').1 hstatus')
  refine ⟨_, ofSheet?_eq_ok hmade audience, ?_⟩
  rw [ofSheet?_eq_ok hmade' audience, view?, view?, ← heqColumns, ← heqMarkers, hname, hname',
    hparts]

/-! ### A small sheet with other costs -/

/-- The small block with other costs and remarks and with another blank row. -/
def dearBlock : List (List Datum) :=
  [[.text "1", .text "900", .text " tea "], [], [.text "2", .text "+700", .null, .text "last"]]

/-- The typed rows of the block. -/
def dearRows : List Row :=
  [[("id", .int 1), ("cost", .int 900), ("name", .text "tea")],
    [("id", .int 2), ("cost", .int 700), ("name", .text "")]]

theorem forall₂_sameFor_dearBlock :
    List.Forall₂ (TypedRows.SameFor .client (priceSheet priceBlock).columns) priceBlock
      dearBlock := by
  have hsame (cells cells' : List Datum)
      (hblank : cells.all (·.isBlank) = cells'.all (·.isBlank))
      (hid : TypedRows.cellAt cells 0 = TypedRows.cellAt cells' 0)
      (hname : TypedRows.cellAt cells 2 = TypedRows.cellAt cells' 2) :
      TypedRows.SameFor .client (priceSheet priceBlock).columns cells cells' := by
    refine ⟨hblank, ?_⟩
    simp only [priceSheet, List.forall_mem_cons]
    exact ⟨fun _ ↦ hid, nofun, fun _ ↦ hname, nofun, nofun⟩
  exact .cons (hsame _ _ rfl rfl rfl) (.cons (hsame _ _ rfl rfl rfl)
    (.cons (hsame _ _ rfl rfl rfl) .nil))

/-- The client does not see costs and remarks, so its document is the same with others. -/
theorem ofSheet?_eq_of_sameFor_dearBlock :
    TabResult.ofTab .comma "Prices" (priceTab priceBlock) =
        .ok { outcome := .config (priceSheet priceBlock), rows := priceRows } ∧
      TabResult.ofTab .comma "Prices" (priceTab dearBlock) =
        .ok { outcome := .config (priceSheet dearBlock), rows := dearRows } ∧
      ∃ document?, ofSheet? (priceSheet priceBlock) priceRows .client = .ok document? ∧
        ofSheet? (priceSheet dearBlock) dearRows .client = .ok document? := by
  have hresult : TabResult.ofTab .comma "Prices" (priceTab priceBlock) =
      .ok { outcome := .config (priceSheet priceBlock), rows := priceRows } := rfl
  have hresult' : TabResult.ofTab .comma "Prices" (priceTab dearBlock) =
      .ok { outcome := .config (priceSheet dearBlock), rows := dearRows } := rfl
  exact ⟨hresult, hresult',
    ofSheet?_eq_of_sameFor hresult hresult' rfl rfl rfl rfl forall₂_sameFor_dearBlock⟩

end Document

end ConfigTables
