import ConfigTables.Proofs.Sheet.Reading

/-!
# Annotations have no effect

A column whose name cell or scope cell is blank is an annotation. Two headers are alike if they
differ in what the compiler never looks at (`HeaderCells.Alike`): all of a column but its blank name
cell, or the label and the type of a column with a blank scope cell. A pair of alike columns is of
one of three sorts (`HeaderCells.Alike.sorts`), and in each of them both columns give the same
answers to every pass and export the same.

So alike headers have the same first failure, if any (`Header.failure?_eq_of_alike`), and otherwise
the same exported columns (`Header.exported_schema_eq`). The sheets below them read alike if their
data rows agree in the columns with a name and a scope, and no caller of a conversion can tell them
apart (`TabResult.indistinguishable_of_alike`).

One thing is done with the cells of an annotation all the same: its label is put into a text. So a
label without a text in either header leaves only that one without a result.
-/

namespace ConfigTables

namespace HeaderCells

/-- The cells of two columns differ at most where the compiler does not look. -/
structure Alike (cells cells' : HeaderCells) : Prop where
  name : cells.name = cells'.name ∨ cells.name.isBlank = true ∧ cells'.name.isBlank = true
  scope : cells.name.isBlank = false → cells.scope = cells'.scope
  label : cells.name.isBlank = false → cells.scope.isBlank = false → cells.label = cells'.label
  type : cells.name.isBlank = false → cells.scope.isBlank = false → cells.type = cells'.type

variable {cells cells' : HeaderCells}

/-- Alike columns have no name, or the same name and no scope, or the same cells. -/
theorem Alike.sorts (h : cells.Alike cells') :
    (cells.name.isBlank = true ∧ cells'.name.isBlank = true) ∨
      (cells.name = cells'.name ∧ cells.scope = cells'.scope ∧ cells.scope.isBlank = true) ∨
      cells = cells' := by
  by_cases hblank : cells.name.isBlank = true
  · have hblank' : cells'.name.isBlank = true := by
      rcases h.name with heq | ⟨-, hblank'⟩
      · exact heq ▸ hblank
      · exact hblank'
    exact .inl ⟨hblank, hblank'⟩
  · have hnamed := Bool.eq_false_iff.2 hblank
    have hname : cells.name = cells'.name := h.name.resolve_right fun hboth ↦ hblank hboth.1
    have hscope := h.scope hnamed
    by_cases hnobody : cells.scope.isBlank = true
    · exact .inr (.inl ⟨hname, hscope, hnobody⟩)
    · have hseen := Bool.eq_false_iff.2 hnobody
      obtain ⟨label, type, name, scope⟩ := cells
      obtain ⟨label', type', name', scope'⟩ := cells'
      exact .inr (.inr (by
        rw [mk.injEq]
        exact ⟨h.label hnamed hseen, h.type hnamed hseen, hname, hscope⟩))

theorem name?_congr (h : cells.name = cells'.name) : cells.name? = cells'.name? := by
  rw [name?, name?, h]

theorem name?_of_isBlank (h : cells.name.isBlank = true) : cells.name? = none := by
  rw [name?, if_pos h]

/-- A column without a name exports nothing. -/
theorem output?_of_isBlank_name (h : cells.name.isBlank = true) : cells.output? = none := by
  rw [output?, name?_of_isBlank h]

/-- A column without a scope has the scope of nobody, if it has a name. -/
theorem isEmpty_of_scope? (h : cells.scope.isBlank = true) {scope : Scope}
    (hscope : cells.scope? = some scope) : scope.isEmpty = true := by
  have hparse := (scope?_eq_some_iff.1 hscope).2
  rw [Scope.parse_of_isBlank h] at hparse
  rw [← Except.ok.inj hparse]
  rfl

/-- A column without a scope exports nothing. -/
theorem output?_of_isBlank (h : cells.scope.isBlank = true) : cells.output? = none := by
  rw [Option.eq_none_iff_forall_ne_some]
  intro output houtput
  obtain ⟨hname, hscope, hempty, -⟩ := output?_eq_some_iff.1 houtput
  rw [isEmpty_of_scope? h (scope?_eq_some_iff.2 ⟨isBlank_of_name? hname, hscope⟩)] at hempty
  cases hempty

theorem Alike.name?_eq (h : cells.Alike cells') : cells.name? = cells'.name? := by
  obtain ⟨hname, hname'⟩ | ⟨hname, -⟩ | rfl := h.sorts
  · rw [name?_of_isBlank hname, name?_of_isBlank hname']
  · exact name?_congr hname
  · rfl

theorem Alike.isBlank_name_eq (h : cells.Alike cells') :
    cells.name.isBlank = cells'.name.isBlank := by
  obtain ⟨hname, hname'⟩ | ⟨hname, -⟩ | rfl := h.sorts
  · rw [hname, hname']
  · rw [hname]
  · rfl

/-- Alike columns stand for the same column, or both for an annotation. -/
theorem Alike.column_eq (h : cells.Alike cells') (position : Nat) :
    cells.column position = cells'.column position ∨
      (cells.column position).isExported = false ∧
        (cells'.column position).isExported = false := by
  obtain ⟨hname, hname'⟩ | ⟨-, hscope, hblank⟩ | rfl := h.sorts
  · exact .inr ⟨by simp [Column.isExported, column, output?_of_isBlank_name hname],
      by simp [Column.isExported, column, output?_of_isBlank_name hname']⟩
  · have houtput' := output?_of_isBlank (hscope ▸ hblank)
    exact .inr ⟨by simp [Column.isExported, column, output?_of_isBlank hblank],
      by simp [Column.isExported, column, houtput']⟩
  · exact .inl rfl

end HeaderCells

/-! ### Alike headers -/

namespace Header

variable {cells cells' : HeaderCells} {columns columns' : List HeaderCells}

theorem scopeFailure_eq_of_alike (h : cells.Alike cells') :
    scopeFailure cells = scopeFailure cells' := by
  obtain ⟨hname, hname'⟩ | ⟨hname, hscope, -⟩ | rfl := h.sorts
  · rw [scopeFailure, scopeFailure, if_pos hname, if_pos hname']
  · rw [scopeFailure, scopeFailure, hname, hscope]
  · rfl

/-- The third pass passes over a column without a name. -/
theorem typeFailure_of_isBlank_name (h : cells.name.isBlank = true) : typeFailure cells = none := by
  rw [typeFailure, HeaderCells.scope?, h]
  rfl

/-- The third pass passes over a column without a scope. -/
theorem typeFailure_of_isBlank (h : cells.scope.isBlank = true) : typeFailure cells = none := by
  rw [typeFailure, Option.bind_eq_none_iff]
  intro scope hscope
  rw [if_pos (HeaderCells.isEmpty_of_scope? h hscope)]

theorem typeFailure_eq_of_alike (h : cells.Alike cells') :
    typeFailure cells = typeFailure cells' := by
  obtain ⟨hname, hname'⟩ | ⟨-, hscope, hblank⟩ | rfl := h.sorts
  · rw [typeFailure_of_isBlank_name hname, typeFailure_of_isBlank_name hname']
  · rw [typeFailure_of_isBlank hblank, typeFailure_of_isBlank (hscope ▸ hblank)]
  · rfl

/-- **Failures**: every pass finds the same in alike headers. -/
theorem failure?_eq_of_alike (h : List.Forall₂ HeaderCells.Alike columns columns') :
    failure? columns = failure? columns' := by
  have hat (i : Nat) (cells cells' : HeaderCells) (hcells : columns[i]? = some cells)
      (hcells' : columns'[i]? = some cells') : cells.Alike cells' := by
    obtain ⟨hi, rfl⟩ := List.getElem?_eq_some_iff.1 hcells
    obtain ⟨hi', rfl⟩ := List.getElem?_eq_some_iff.1 hcells'
    exact h.get hi hi'
  have hnames : columns.map (·.name?) = columns'.map (·.name?) := by
    rw [← List.forall₂_eq_eq_eq, List.forall₂_map_left_iff, List.forall₂_map_right_iff]
    exact h.imp fun _ _ ↦ HeaderCells.Alike.name?_eq
  -- The passes are made one after the other, and each of them finds the same.
  rw [failure?, failure?]
  congr 1
  · refine firstFailure_congr h.length_eq fun i _ _ hcells hcells' ↦ ?_
    have halike := hat i _ _ hcells hcells'
    exact nameFailure_congr hnames halike.name?_eq halike.isBlank_name_eq i
  · congr 1
    · exact firstFailure_congr h.length_eq fun i _ _ hcells hcells' ↦
        scopeFailure_eq_of_alike (hat i _ _ hcells hcells')
    · exact firstFailure_congr h.length_eq fun i _ _ hcells hcells' ↦
        typeFailure_eq_of_alike (hat i _ _ hcells hcells')

/-- **Columns**: alike headers have the same exported columns, at the same positions. -/
theorem exported_schema_eq (h : List.Forall₂ HeaderCells.Alike columns columns') :
    (schema columns).filter (·.isExported) = (schema columns').filter (·.isExported) := by
  -- The position of the first column grows along the header.
  suffices ∀ position : Nat,
      ((columns.zipIdx position).map fun cells ↦ cells.1.column cells.2).filter (·.isExported) =
        ((columns'.zipIdx position).map fun cells ↦ cells.1.column cells.2).filter
          (·.isExported) from this 0
  induction h with
  | nil => exact fun _ ↦ rfl
  | cons hcells _ ih =>
    intro position
    rw [List.zipIdx_cons, List.zipIdx_cons, List.map_cons, List.map_cons]
    obtain heq | ⟨hskip, hskip'⟩ := hcells.column_eq position
    · rw [List.filter_cons, List.filter_cons, heq, ih]
    · rw [List.filter_cons_of_neg (by simp [hskip]), List.filter_cons_of_neg (by simp [hskip']), ih]

/-- An exported column has a name and a scope in the header. -/
theorem exists_of_mem_exported_schema (h : Faultless columns) {column : Column}
    (hmem : column ∈ (schema columns).filter (·.isExported)) : ∃ (position : Nat) (cells : _),
      columns[position]? = some cells ∧ column.index = position ∧ cells.name.isBlank = false ∧
        cells.scope.isBlank = false := by
  obtain ⟨hmem, hexported⟩ := List.mem_filter.1 hmem
  obtain ⟨⟨cells, position⟩, hcells, rfl⟩ := List.mem_map.1 hmem
  have hsound := h.sound (List.fst_mem_of_mem_zipIdx hcells)
  obtain ⟨hname, hscope⟩ := hsound.isSome_output?.1 hexported
  exact ⟨position, cells, List.mk_mem_zipIdx_iff_getElem?.1 hcells, rfl, hname, hscope⟩

/-- Alike headers have the same failure, or neither has any, and then they compile unless one of
their labels has no text. -/
theorem compile_of_alike (h : List.Forall₂ HeaderCells.Alike columns columns') :
    (∃ failure, compile (.ofColumns columns) = .error failure ∧
      compile (.ofColumns columns') = .error failure) ∨
      Faultless columns ∧
        (compile (.ofColumns columns) = if ∀ cells ∈ columns, cells.label.HasText then
          .ok (schema columns) else .error (.abort .tooManyDigits)) ∧
        compile (.ofColumns columns') = if ∀ cells ∈ columns', cells.label.HasText then
          .ok (schema columns') else .error (.abort .tooManyDigits) := by
  by_cases hne : columns = []
  · subst hne
    obtain rfl := List.forall₂_nil_left_iff.1 h
    exact .inl ⟨_, compile_ofColumns_nil, compile_ofColumns_nil⟩
  · have hne' : columns' ≠ [] := fun hnil ↦ by
      subst hnil
      exact hne (List.forall₂_nil_right_iff.1 h)
    rw [compile_ofColumns hne, compile_ofColumns hne', ← failure?_eq_of_alike h]
    rcases hfailure : failure? columns with _ | failure
    · exact .inr ⟨failure?_eq_none_iff.1 hfailure, rfl, rfl⟩
    · exact .inl ⟨failure, rfl, rfl⟩

end Header

/-! ### Alike tabs -/

/-- Two data rows under a header agree in the columns that have a name and a scope, where a cell
that is missing is an absent one, and both are blank or neither is. -/
structure TypedRows.AlikeUnder (header : List HeaderCells) (cells cells' : List Datum) : Prop where
  blank : cells.all (·.isBlank) = cells'.all (·.isBlank)
  cell : ∀ (position : Nat) (column : HeaderCells), header[position]? = some column →
    column.name.isBlank = false → column.scope.isBlank = false →
      cellAt cells position = cellAt cells' position

/-- A tab with the given marker rows and header columns, and data rows whose cells hold texts or
nothing. -/
def Classification.tabOfCells (first second : Datum) (header : List HeaderCells)
    (block : List (List (Option String))) : List Datum :=
  tabOf first second (.ofColumns header) (block.map (·.map .ofCell))

namespace TabResult

section Alike

variable {delimiter : Delimiter} {name : String} {first second : Datum}
  {header header' : List HeaderCells} {block block' : List (List (Option String))}

/-- Two tabs with columns are not told apart if their headers and their data rows are alike. -/
theorem indistinguishable_of_columns {markers : Markers}
    (hmarkers : Markers.read first second = .ok markers) (hfaultless : Header.Faultless header)
    (hcolumns : Header.compile (.ofColumns header) = .ok (Header.schema header))
    (hcolumns' : Header.compile (.ofColumns header') = .ok (Header.schema header'))
    (hheader : List.Forall₂ HeaderCells.Alike header header')
    (hblock : List.Forall₂ (TypedRows.AlikeUnder header) (block.map (·.map .ofCell))
      (block'.map (·.map .ofCell))) :
    ∃ result result',
      ofTab delimiter name (Classification.tabOfCells first second header block) = .ok result ∧
      ofTab delimiter name (Classification.tabOfCells first second header' block') = .ok result' ∧
      result.Indistinguishable result' := by
  let sheet : Sheet :=
    { name, markers, columns := Header.schema header, dataRows := block.map (·.map .ofCell) }
  let sheet' : Sheet :=
    { name, markers, columns := Header.schema header', dataRows := block'.map (·.map .ofCell) }
  -- Both sheets export the same columns, and hold the same cells in these.
  have hreads : sheet.ReadsAs sheet' := by
    refine ⟨rfl, rfl, Header.exported_schema_eq hheader, hblock.imp fun cells cells' halike ↦ ?_⟩
    refine ⟨halike.blank, fun column hmem ↦ ?_⟩
    rw [Sheet.exported, ← Header.exported_schema_eq hheader] at hmem
    obtain ⟨position, cells, hcells, hindex, hname, hscope⟩ :=
      Header.exists_of_mem_exported_schema hfaultless hmem
    rw [hindex]
    exact halike.cell position cells hcells hname hscope
  obtain ⟨typed, htyped⟩ := TypedRows.exists_ofBlock delimiter sheet.columns headerHeight block
  have hmade : TypedRows.Made delimiter.text sheet typed.rows :=
    ⟨Header.exportable_of_compile hcolumns, TypedRows.exists_of_mem_rows htyped⟩
  refine ⟨_, _, ofTab_tabOf_of_columns hmarkers hcolumns htyped,
    ofTab_tabOf_of_columns hmarkers hcolumns' ?_, Indistinguishable.config hreads hmade⟩
  exact (hreads.ofSheet_eq delimiter.text).symm.trans htyped

/-- What becomes of tabs that are alike: both have results that nobody can tell apart, or both are
given up for the same cause, or one of them is for the sake of a label. -/
theorem cases_of_alike (delimiter : Delimiter) (name : String) (first second : Datum)
    (hheader : List.Forall₂ HeaderCells.Alike header header')
    (hblock : List.Forall₂ (TypedRows.AlikeUnder header) (block.map (·.map .ofCell))
      (block'.map (·.map .ofCell))) :
    (∃ result result',
      ofTab delimiter name (Classification.tabOfCells first second header block) = .ok result ∧
      ofTab delimiter name (Classification.tabOfCells first second header' block') = .ok result' ∧
      result.Indistinguishable result') ∨
    (∃ cause,
      Classification.ofRows name (Classification.tabOfCells first second header block) =
        .error cause ∧
      Classification.ofRows name (Classification.tabOfCells first second header' block') =
        .error cause) ∨
    (¬∀ cells ∈ header, cells.label.HasText) ∧
      (∃ cause, Classification.ofRows name (Classification.tabOfCells first second header block) =
        .error cause) ∨
    (¬∀ cells ∈ header', cells.label.HasText) ∧
      ∃ cause, Classification.ofRows name (Classification.tabOfCells first second header' block') =
        .error cause := by
  simp only [Classification.tabOfCells]
  rcases hmarkers : Markers.read first second with (fault | cause) | markers
  · exact .inl ⟨_, _, ofTab_tabOf_of_markers hmarkers, ofTab_tabOf_of_markers hmarkers,
      Indistinguishable.rejected name _⟩
  · exact .inr (.inl ⟨cause, by simp only [Classification.ofRows_tabOf, hmarkers],
      by simp only [Classification.ofRows_tabOf, hmarkers]⟩)
  obtain ⟨error | cause, hfailure, hfailure'⟩ | ⟨hfaultless, hcolumns, hcolumns'⟩ :=
    Header.compile_of_alike hheader
  · exact .inl ⟨_, _, ofTab_tabOf_of_header hmarkers hfailure,
      ofTab_tabOf_of_header hmarkers hfailure', Indistinguishable.rejected name _⟩
  · exact .inr (.inl ⟨cause, by simp only [Classification.ofRows_tabOf, hmarkers, hfailure],
      by simp only [Classification.ofRows_tabOf, hmarkers, hfailure']⟩)
  -- No pass finds a failure, so what is left to fail is the labels.
  by_cases hlabels : ∀ cells ∈ header, cells.label.HasText
  · by_cases hlabels' : ∀ cells ∈ header', cells.label.HasText
    · rw [if_pos hlabels] at hcolumns
      rw [if_pos hlabels'] at hcolumns'
      exact .inl
        (indistinguishable_of_columns hmarkers hfaultless hcolumns hcolumns' hheader hblock)
    · rw [if_neg hlabels'] at hcolumns'
      exact .inr (.inr (.inr ⟨hlabels', .tooManyDigits, by
        simp only [Classification.ofRows_tabOf, hmarkers, hcolumns']⟩))
  · rw [if_neg hlabels] at hcolumns
    exact .inr (.inr (.inl ⟨hlabels, .tooManyDigits, by
      simp only [Classification.ofRows_tabOf, hmarkers, hcolumns]⟩))

end Alike

/-- **Annotations**: let the headers of two tabs be alike, and their data rows be alike under them.
* If both tabs have results, nobody can tell these apart.
* If all labels have texts, both tabs have results, unless both are given up for the same cause,
  which only happens where one of the first six rows has no text. -/
theorem indistinguishable_of_alike {delimiter : Delimiter} {name : String} {first second : Datum}
    {header header' : List HeaderCells} {block block' : List (List (Option String))}
    (hheader : List.Forall₂ HeaderCells.Alike header header')
    (hblock : List.Forall₂ (TypedRows.AlikeUnder header) (block.map (·.map .ofCell))
      (block'.map (·.map .ofCell))) :
    (∀ result result',
      ofTab delimiter name (Classification.tabOfCells first second header block) = .ok result →
      ofTab delimiter name (Classification.tabOfCells first second header' block') = .ok result' →
      result.Indistinguishable result') ∧
    ((∀ cells ∈ header, cells.label.HasText) → (∀ cells ∈ header', cells.label.HasText) →
      (∃ result result',
        ofTab delimiter name (Classification.tabOfCells first second header block) = .ok result ∧
        ofTab delimiter name (Classification.tabOfCells first second header' block') = .ok result' ∧
        result.Indistinguishable result') ∨
      ∃ cause,
        ofTab delimiter name (Classification.tabOfCells first second header block) = .error cause ∧
        ofTab delimiter name (Classification.tabOfCells first second header' block') =
          .error cause ∧
        ∃ row ∈ (Classification.tabOfCells first second header block).take headerHeight,
          ¬row.HasText) := by
  obtain ⟨result, result', hresult, hresult', hsame⟩ | ⟨cause, hcause, hcause'⟩ |
    ⟨hlabels, cause, hcause⟩ | ⟨hlabels', cause, hcause⟩ :=
    cases_of_alike delimiter name first second hheader hblock
  · refine ⟨fun other other' hother hother' ↦ ?_, fun _ _ ↦
      .inl ⟨result, result', hresult, hresult', hsame⟩⟩
    cases hresult.symm.trans hother
    cases hresult'.symm.trans hother'
    exact hsame
  · refine ⟨fun result result' hresult ↦ ?_, fun _ _ ↦ .inr ⟨cause, ofTab_of_ofRows hcause,
      ofTab_of_ofRows hcause', Classification.exists_not_hasText_of_tabOf hcause⟩⟩
    cases hresult.symm.trans (ofTab_of_ofRows hcause)
  · refine ⟨fun result result' hresult ↦ ?_, fun h ↦ absurd h hlabels⟩
    cases hresult.symm.trans (ofTab_of_ofRows hcause)
  · refine ⟨fun result result' _ hresult' ↦ ?_, fun _ h ↦ absurd h hlabels'⟩
    cases hresult'.symm.trans (ofTab_of_ofRows hcause)

/-! ### A small tab with notes -/

/-- A header with a column for both audiences, a column without a name and one without a scope. -/
def notedHeader : List HeaderCells :=
  [{ label := .text "Number", type := .text "int", name := .text "id", scope := .text "sc" },
    { label := .text "Remark", type := .null, name := .null, scope := .null },
    { label := .text "Draft", type := .text "int", name := .text "draft", scope := .null }]

/-- The header with other notes in it, which would be faulty in an exported column. -/
def rewordedHeader : List HeaderCells :=
  [{ label := .text "Number", type := .text "int", name := .text "id", scope := .text "sc" },
    { label := .null, type := .int 7, name := .text " ", scope := .text "everybody" },
    { label := .text "Old", type := .text "no type", name := .text "draft", scope := .null }]

/-- Two data rows with notes, the second of which has no number. -/
def notedBlock : List (List (Option String)) :=
  [[some "1", some "new", some "7"], [some "x"]]

/-- The data rows with other notes. -/
def rewordedBlock : List (List (Option String)) :=
  [[some "1"], [some "x", some "which?", some "!"]]

/-- Other notes change nothing, in the header or below it. -/
theorem indistinguishable_of_alike_notedHeader :
    List.Forall₂ HeaderCells.Alike notedHeader rewordedHeader ∧
      List.Forall₂ (TypedRows.AlikeUnder notedHeader) (notedBlock.map (·.map .ofCell))
        (rewordedBlock.map (·.map .ofCell)) ∧
      ∃ result result',
        ofTab .comma "Stock" (Classification.tabOfCells
          (.list [.text Markers.fileMark, .text "stock"])
          (.list [.text Markers.classMark, .text "Stock"]) notedHeader notedBlock) = .ok result ∧
        ofTab .comma "Stock" (Classification.tabOfCells
          (.list [.text Markers.fileMark, .text "stock"])
          (.list [.text Markers.classMark, .text "Stock"]) rewordedHeader rewordedBlock) =
            .ok result' ∧
        result.Indistinguishable result' := by
  have hheader : List.Forall₂ HeaderCells.Alike notedHeader rewordedHeader :=
    .cons ⟨.inl rfl, fun _ ↦ rfl, fun _ _ ↦ rfl, fun _ _ ↦ rfl⟩ <|
      .cons ⟨.inr ⟨rfl, rfl⟩, nofun, nofun, nofun⟩ <|
        .cons ⟨.inl rfl, fun _ ↦ rfl, nofun, nofun⟩ .nil
  -- Only the first column has a name and a scope.
  have halike (cells cells' : List Datum)
      (hblank : cells.all (·.isBlank) = cells'.all (·.isBlank))
      (hid : TypedRows.cellAt cells 0 = TypedRows.cellAt cells' 0) :
      TypedRows.AlikeUnder notedHeader cells cells' := by
    refine ⟨hblank, fun position column hcolumn hname hscope ↦ ?_⟩
    match position, hcolumn with
    | 0, rfl => exact hid
    | 1, rfl => cases hname
    | 2, rfl => cases hscope
  have hblock : List.Forall₂ (TypedRows.AlikeUnder notedHeader) (notedBlock.map (·.map .ofCell))
      (rewordedBlock.map (·.map .ofCell)) :=
    .cons (halike _ _ rfl rfl) (.cons (halike _ _ rfl rfl) .nil)
  have htexts : ∀ row ∈ (Classification.tabOfCells (.list [.text Markers.fileMark, .text "stock"])
      (.list [.text Markers.classMark, .text "Stock"]) notedHeader notedBlock).take headerHeight,
      row.HasText := by
    decide
  rcases (indistinguishable_of_alike hheader hblock).2 (by decide) (by decide) with
    hsame | ⟨cause, -, -, row, hmem, htextless⟩
  · exact ⟨hheader, hblock, hsame⟩
  · exact absurd (htexts row hmem) htextless

end TabResult

end ConfigTables
