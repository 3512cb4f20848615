import ConfigTables.Proofs.Column.Order
import ConfigTables.Proofs.Sheet.Document
import ConfigTables.Proofs.Sheet.Reading
import Mathlib.Data.List.FinRange
import Mathlib.Data.List.ReduceOption

/-!
# The order of columns has no effect

A tab whose columns are put into another order, header and data alike, is accepted as before, and
what is made of it is the same up to the order of columns (`TabResult.rearranged_of_perm`).

The columns and the cells of a row are functions on `Fin n` here, and the new order is a permutation
`σ`: what stands at `i` is what stood at `σ i`. What a row contributes is said column by column,
without the recursion of `TypedRows.typeRow` (`TypedRows.spec_of_typeRow`). So the entries of the
reordered row are those of the row in another order, and so are its errors but for the positions of
their columns (`TypedRows.perm_of_typeRow`). The induction over the block keeps rows and lines in
step (`TypedRows.reordered_of_ofBlock`).
-/

namespace ConfigTables

/-- In a row with distinct names the order does not matter for what is found under a name. -/
theorem Row.lookup_eq_of_perm {row row' : Row} (h : row'.Perm row)
    (hnodup : (row.map Prod.fst).Nodup) (name : String) : row'.lookup name = row.lookup name := by
  rcases hlookup : row'.lookup name with _ | value
  · rw [List.lookup_eq_none_iff] at hlookup
    exact (List.lookup_eq_none_iff.2 fun entry hmem ↦ hlookup entry (h.mem_iff.2 hmem)).symm
  · obtain ⟨before, after, hsplit, -⟩ := List.lookup_eq_some_iff.1 hlookup
    have hmem : (name, value) ∈ row := h.mem_iff.1 (by simp [hsplit])
    exact (lookup_of_mem hnodup hmem).symm

variable {n : Nat}

/-- Where a column of the reordered header stood. There are no columns beyond the header. -/
def formerPosition (σ : Equiv.Perm (Fin n)) : Int → Int
  | .ofNat i => if h : i < n then (σ ⟨i, h⟩ : Nat) else i
  | .negSucc i => .negSucc i

theorem formerPosition_natCast (σ : Equiv.Perm (Fin n)) (i : Fin n) :
    formerPosition σ (i : Nat) = (σ i : Nat) := by
  change (if h : (i : Nat) < n then ((σ ⟨i, h⟩ : Nat) : Int) else (i : Nat)) = _
  rw [dif_pos i.isLt]

/-- An error with the position that its column had. -/
def PlacedFault.renumbered (σ : Equiv.Perm (Fin n)) (error : PlacedFault) : PlacedFault :=
  { error with column := error.column.map (formerPosition σ) }

theorem Header.schema_ofFn (header : Fin n → HeaderCells) :
    schema (List.ofFn header) = List.ofFn fun i ↦ (header i).column i := by
  refine List.ext_getElem (by simp [schema]) fun i hi hi' ↦ ?_
  simp [schema]

namespace TypedRows

variable {delimiter : String} {line : Nat}

/-! ### What a column contributes to a row -/

/-- The entry for a cell, if it is that of an exported column and converts. -/
def entry? (delimiter : String) (output? : Option Output) (cell : Datum) :
    Option (String × Datum) :=
  output?.bind fun output ↦
    match Value.ofCell delimiter output.type cell with
    | .ok value => some (output.name, value)
    | .error _ => none

/-- What is wrong with a cell, if it is that of an exported column. -/
def cellFault? (delimiter : String) (output? : Option Output) (cell : Datum) : Option Fault :=
  output?.bind fun output ↦
    match Value.ofCell delimiter output.type cell with
    | .error (.fault fault) => some fault
    | _ => none

/-- The error for a cell at a place. -/
def error? (delimiter : String) (line : Nat) (position : Int) (output? : Option Output)
    (cell : Datum) : Option PlacedFault :=
  (cellFault? delimiter output? cell).map fun fault ↦
    { fault, column := some position, row := some line }

/-- **One row, column by column**: the entries and the errors of its cells. -/
theorem spec_of_typeRow {cells : List Datum} {columns : List Column} {row : Row}
    {errors : List PlacedFault} (h : typeRow delimiter line cells columns = .ok (row, errors)) :
    row = columns.filterMap (fun column ↦
      entry? delimiter column.output (cellAt cells column.index)) ∧
    errors = columns.filterMap fun column ↦
      error? delimiter line column.index column.output (cellAt cells column.index) := by
  -- A cell that converts adds to the row, one with a fault to the errors.
  induction columns generalizing row errors with
  | nil =>
    cases h
    exact ⟨rfl, rfl⟩
  | cons column columns ih =>
    rw [typeRow] at h
    rw [List.filterMap_cons, List.filterMap_cons]
    rcases houtput : column.output with _ | output
    · simp only [houtput] at h
      obtain ⟨hrow, herrors⟩ := ih h
      rw [← hrow, ← herrors]
      exact ⟨rfl, rfl⟩
    · simp only [houtput] at h
      rcases hvalue : Value.ofCell delimiter output.type (cellAt cells column.index) with
        (fault | cause) | value
      · simp only [Value.ofCellAt_of_fault hvalue] at h
        obtain ⟨rest, hrest, heq⟩ := Except.map_eq_ok_iff.1 h
        cases heq
        obtain ⟨hrow, herrors⟩ := ih hrest
        rw [← hrow, ← herrors]
        simp [hvalue, entry?, error?, cellFault?]
      · simp only [Value.ofCellAt_of_abort hvalue] at h
        cases h
      · simp only [Value.ofCellAt_of_ok hvalue] at h
        obtain ⟨rest, hrest, heq⟩ := Except.map_eq_ok_iff.1 h
        cases heq
        obtain ⟨hrow, herrors⟩ := ih hrest
        rw [← hrow, ← herrors]
        simp [hvalue, entry?, error?, cellFault?]

/-! ### Rows in another order -/

theorem cellAt_ofFn (cells : Fin n → Datum) (i : Fin n) :
    cellAt (List.ofFn cells) (i : Nat) = cells i := by
  change (List.ofFn cells)[(i : Nat)]?.getD .null = cells i
  simp

/-- The row of a tab with the given cells. -/
def cellsOf (row : Fin n → Option String) : List Datum :=
  (List.ofFn row).map .ofCell

theorem filterMap_ofFn {α β : Type} (f : α → Option β) (g : Fin n → α) :
    (List.ofFn g).filterMap f = (List.ofFn (f ∘ g)).reduceOption := by
  rw [List.reduceOption, ← List.map_ofFn, List.filterMap_map]
  rfl

/-- The contributions to a row under a header, by position. -/
theorem spec_of_typeRow_ofFn {header : Fin n → HeaderCells} {cells : Fin n → Option String}
    {row : Row} {errors : List PlacedFault}
    (h : typeRow delimiter line (cellsOf cells) (Header.schema (List.ofFn header)) =
      .ok (row, errors)) :
    row = (List.ofFn fun i ↦ entry? delimiter (header i).output? (.ofCell (cells i))).reduceOption ∧
    errors = (List.ofFn fun i : Fin n ↦
      error? delimiter line (i : Nat) (header i).output? (.ofCell (cells i))).reduceOption := by
  obtain ⟨hrow, herrors⟩ := spec_of_typeRow h
  rw [cellsOf, List.map_ofFn, Header.schema_ofFn, filterMap_ofFn] at hrow herrors
  simp only [Function.comp_def, HeaderCells.column, cellAt_ofFn] at hrow herrors
  exact ⟨hrow, herrors⟩

variable {header : Fin n → HeaderCells} (σ : Equiv.Perm (Fin n))

/-- A function on positions has the same values in another order. -/
theorem perm_reduceOption_ofFn {α : Type} (f : Fin n → Option α) :
    (List.ofFn fun i ↦ f (σ i)).reduceOption.Perm (List.ofFn f).reduceOption :=
  (σ.ofFn_comp_perm f).filterMap id

theorem renumbered_error? {output? : Option Output} {cell : Datum} (i : Fin n) :
    (error? delimiter line (i : Nat) output? cell).map (·.renumbered σ) =
      error? delimiter line (σ i : Nat) output? cell := by
  rw [error?, error?, Option.map_map]
  congr 1
  funext fault
  rw [Function.comp_apply, PlacedFault.renumbered, Option.map_some, formerPosition_natCast]

/-- **One row**: the reordered row has the same entries, and the same errors but for their
positions. -/
theorem perm_of_typeRow {cells : Fin n → Option String} {row row' : Row}
    {errors errors' : List PlacedFault}
    (h : typeRow delimiter line (cellsOf cells) (Header.schema (List.ofFn header)) =
      .ok (row, errors))
    (h' : typeRow delimiter line (cellsOf (cells ∘ σ)) (Header.schema (List.ofFn (header ∘ σ))) =
      .ok (row', errors')) :
    row'.Perm row ∧ (errors'.map (·.renumbered σ)).Perm errors := by
  obtain ⟨rfl, rfl⟩ := spec_of_typeRow_ofFn h
  obtain ⟨rfl, rfl⟩ := spec_of_typeRow_ofFn h'
  refine ⟨perm_reduceOption_ofFn σ fun i ↦
    entry? delimiter (header i).output? (.ofCell (cells i)), ?_⟩
  rw [← List.reduceOption_map, List.map_ofFn]
  simp only [Function.comp_def, renumbered_error?]
  exact perm_reduceOption_ofFn σ fun i : Fin n ↦
    error? delimiter line (i : Nat) (header i).output? (.ofCell (cells i))

/-- All errors of a row are on its line. -/
theorem row_of_mem_errors {cells : List Datum} {columns : List Column} {row : Row}
    {errors : List PlacedFault} (h : typeRow delimiter line cells columns = .ok (row, errors))
    {error : PlacedFault} (hmem : error ∈ errors) : error.row = some (line : Int) := by
  rw [(spec_of_typeRow h).2] at hmem
  obtain ⟨column, -, herror⟩ := List.mem_filterMap.1 hmem
  obtain ⟨fault, -, rfl⟩ := Option.map_eq_some_iff.1 herror
  rfl

/-- The errors on a line. -/
def errorsAt (errors : List PlacedFault) (line : Int) : List PlacedFault :=
  errors.filter (·.row = some line)

/-- Typed rows and errors differ at most by the order of columns: each row has the same entries, and
each line the same errors once they are renumbered. -/
structure Reordered (typed typed' : TypedRows) : Prop where
  rows : List.Forall₂ (fun row row' : Row ↦ row'.Perm row) typed.rows typed'.rows
  lines : typed'.errors.map (·.row) = typed.errors.map (·.row)
  errors : ∀ line, ((errorsAt typed'.errors line).map (·.renumbered σ)).Perm
    (errorsAt typed.errors line)

/-- Rows with the same entries may come first. -/
theorem Reordered.cons {typed typed' : TypedRows} {row row' : Row} (hrow : row'.Perm row)
    (h : Reordered σ typed typed') :
    Reordered σ { typed with rows := row :: typed.rows }
      { typed' with rows := row' :: typed'.rows } :=
  ⟨.cons hrow h.rows, h.lines, h.errors⟩

/-- Errors of one line that are the same once they are renumbered may come first. -/
theorem Reordered.append {typed typed' : TypedRows} {errors errors' : List PlacedFault}
    (herrors : (errors'.map (·.renumbered σ)).Perm errors)
    (hline : ∀ error ∈ errors, error.row = some (line : Int))
    (hline' : ∀ error ∈ errors', error.row = some (line : Int)) (h : Reordered σ typed typed') :
    Reordered σ { typed with errors := errors ++ typed.errors }
      { typed' with errors := errors' ++ typed'.errors } := by
  have hrows {errors : List PlacedFault} (hline : ∀ error ∈ errors, error.row = some (line : Int)) :
      errors.map (·.row) = List.replicate errors.length (some (line : Int)) :=
    List.map_eq_replicate_iff.2 hline
  have hlength : errors'.length = errors.length := by simpa using herrors.length_eq
  refine ⟨h.rows, ?_, fun line' ↦ ?_⟩
  · rw [List.map_append, List.map_append, h.lines, hrows hline, hrows hline', hlength]
  · -- Renumbering leaves the line of an error alone, so it does not matter which comes first.
    have hat : ((errorsAt errors' line').map (·.renumbered σ)).Perm (errorsAt errors line') := by
      have hfilter := herrors.filter (·.row = some line')
      rwa [List.filter_map] at hfilter
    rw [errorsAt, errorsAt, List.filter_append, List.filter_append, List.map_append]
    exact hat.append (h.errors line')

/-- **Rows**: a block whose rows are all reordered in the same way has the same typed rows and
errors up to the order of columns. -/
theorem reordered_of_ofBlock {block : List (Fin n → Option String)} {typed typed' : TypedRows}
    (h : ofBlock delimiter (Header.schema (List.ofFn header)) line (block.map cellsOf) = .ok typed)
    (h' : ofBlock delimiter (Header.schema (List.ofFn (header ∘ σ))) line
      (block.map fun cells ↦ cellsOf (cells ∘ σ)) = .ok typed') :
    Reordered σ typed typed' := by
  induction block generalizing line typed typed' with
  | nil =>
    cases h
    cases h'
    exact ⟨.nil, rfl, fun _ ↦ .nil⟩
  | cons cells block ih =>
    have hblank : (cellsOf (cells ∘ σ)).all (·.isBlank) = (cellsOf cells).all (·.isBlank) :=
      ((σ.ofFn_comp_perm cells).map _).all_eq
    rw [List.map_cons, ofBlock] at h h'
    rw [hblank] at h'
    split_ifs at h h'
    · exact ih h h'
    · obtain ⟨⟨row, errors⟩, hrow, h⟩ := Except.bind_eq_ok_iff.1 h
      obtain ⟨⟨row', errors'⟩, hrow', h'⟩ := Except.bind_eq_ok_iff.1 h'
      obtain ⟨rest, hrest, h⟩ := Except.bind_eq_ok_iff.1 h
      obtain ⟨rest', hrest', h'⟩ := Except.bind_eq_ok_iff.1 h'
      obtain ⟨hperm, herrors⟩ := perm_of_typeRow σ hrow hrow'
      have hlater := ih hrest hrest'
      -- A row has errors exactly if the reordered row has some.
      have hlength : errors'.length = errors.length := by simpa using herrors.length_eq
      rcases errors with _ | ⟨error, errors⟩ <;> rcases errors' with _ | ⟨error', errors'⟩
      · cases h
        cases h'
        exact hlater.cons σ hperm
      · cases hlength
      · cases hlength
      · cases h
        cases h'
        exact hlater.append σ herrors (fun _ ↦ row_of_mem_errors hrow)
          fun _ ↦ row_of_mem_errors hrow'

end TypedRows

/-! ### Tabs in another order -/

/-- A tab with the given marker rows, header columns and data rows. -/
def Classification.gridOf (first second : Datum) (header : Fin n → HeaderCells)
    (block : List (Fin n → Option String)) : List Datum :=
  tabOf first second (.ofColumns (List.ofFn header)) (block.map TypedRows.cellsOf)

namespace TabResult

/-- The kind of the fault for which a tab is rejected. -/
def faultKind? (result : TabResult) : Option FaultKind :=
  match result.outcome with
  | .config _ => none
  | .rejected _ rejection => rejection.error?.map (·.fault.kind)

/-- Two results differ at most by the order of columns. -/
structure Rearranged (σ : Equiv.Perm (Fin n)) (result result' : TabResult) : Prop where
  accepted : result'.sheet?.isSome = result.sheet?.isSome
  faultKind : result'.faultKind? = result.faultKind?
  status : result'.status = result.status
  /-- Typed rows have the same value, if any, under each name. -/
  rows : List.Forall₂ (fun row row' : Row ↦ ∀ name, row'.lookup name = row.lookup name)
    result.rows result'.rows
  lines : result'.errors.map (·.row) = result.errors.map (·.row)
  errors : ∀ line, ((TypedRows.errorsAt result'.errors line).map (·.renumbered σ)).Perm
    (TypedRows.errorsAt result.errors line)

/-- Tabs that are rejected for faults of one kind are rearranged. -/
theorem Rearranged.rejected (σ : Equiv.Perm (Fin n)) (name : String) {error error' : PlacedFault}
    (h : error.fault.kind = error'.fault.kind) :
    Rearranged σ { outcome := .rejected name (.malformed error) }
      { outcome := .rejected name (.malformed error') } :=
  ⟨rfl, congrArg some h.symm, rfl, .nil, rfl, fun _ ↦ .nil⟩

/-- A header that fails leaves a tab without a sheet. -/
theorem sheet?_of_compile {first second : Datum} {header : HeaderRows} {markers : Markers}
    {failure : Failure PlacedFault} (hmarkers : Markers.read first second = .ok markers)
    (hfailure : Header.compile header = .error failure) (delimiter : Delimiter) (name : String)
    (block : List (List Datum)) (result : TabResult)
    (hresult : ofTab delimiter name (Classification.tabOf first second header block) =
      .ok result) : result.sheet? = none := by
  rcases failure with error | cause
  · rw [ofTab_tabOf_of_header hmarkers hfailure] at hresult
    cases hresult
    rfl
  · have herror : Classification.ofRows name (Classification.tabOf first second header block) =
        .error cause := by
      simp only [Classification.ofRows_tabOf, hmarkers, hfailure]
    cases hresult.symm.trans (ofTab_of_ofRows herror)

section Grid

variable (delimiter : Delimiter) (name : String) (first second : Datum)
  (header : Fin n → HeaderCells) (block : List (Fin n → Option String)) (σ : Equiv.Perm (Fin n))

/-- A tab in another order has results that are rearranged, if both headers compile. -/
theorem rearranged_of_columns {markers : Markers}
    (hmarkers : Markers.read first second = .ok markers)
    (hcolumns : Header.compile (.ofColumns (List.ofFn header)) =
      .ok (Header.schema (List.ofFn header)))
    (hcolumns' : Header.compile (.ofColumns (List.ofFn (header ∘ σ))) =
      .ok (Header.schema (List.ofFn (header ∘ σ)))) :
    ∃ result result',
      ofTab delimiter name (Classification.gridOf first second header block) = .ok result ∧
      ofTab delimiter name (Classification.gridOf first second (header ∘ σ) (block.map (· ∘ σ))) =
        .ok result' ∧
      result.Rearranged σ result' := by
  obtain ⟨typed, htyped⟩ := TypedRows.exists_ofBlock delimiter
    (Header.schema (List.ofFn header)) headerHeight (block.map List.ofFn)
  obtain ⟨typed', htyped'⟩ := TypedRows.exists_ofBlock delimiter
    (Header.schema (List.ofFn (header ∘ σ))) headerHeight ((block.map (· ∘ σ)).map List.ofFn)
  rw [List.map_map] at htyped htyped'
  refine ⟨_, _, ofTab_tabOf_of_columns hmarkers hcolumns htyped,
    ofTab_tabOf_of_columns hmarkers hcolumns' htyped', ?_⟩
  rw [List.map_map] at htyped'
  have hreordered : TypedRows.Reordered σ typed typed' :=
    TypedRows.reordered_of_ofBlock σ htyped htyped'
  have hkeys (row : Row) (hmem : row ∈ typed.rows) : (row.map Prod.fst).Nodup := by
    obtain ⟨cells, -, hrow⟩ := TypedRows.exists_of_mem_rows htyped row hmem
    rw [TypedRows.map_fst_of_forall₂ hrow, Column.outputs_filter]
    exact (Header.exportable_of_compile hcolumns).nodup
  refine ⟨rfl, rfl, ?_, ?_, hreordered.lines, hreordered.errors⟩
  · have hlength : typed'.errors.length = typed.errors.length := by
      simpa using congrArg List.length hreordered.lines
    have hempty : typed'.errors.isEmpty = typed.errors.isEmpty := by
      rw [Bool.eq_iff_iff, List.isEmpty_iff_length_eq_zero, List.isEmpty_iff_length_eq_zero,
        hlength]
    simp only [status, hempty]
  · exact ((List.forall₂_and_left _ _).2 ⟨hkeys, hreordered.rows⟩).imp fun row row' hrow name ↦
      Row.lookup_eq_of_perm hrow.2 hrow.1 name

/-- What becomes of a tab in two orders: both have results, and these are rearranged, or neither is
accepted and one of the two is given up. -/
theorem cases_of_perm :
    (∃ result result',
      ofTab delimiter name (Classification.gridOf first second header block) = .ok result ∧
      ofTab delimiter name (Classification.gridOf first second (header ∘ σ) (block.map (· ∘ σ))) =
        .ok result' ∧
      result.Rearranged σ result') ∨
    ((∃ cause, Classification.ofRows name (Classification.gridOf first second header block) =
        .error cause) ∨
      ∃ cause, Classification.ofRows name
        (Classification.gridOf first second (header ∘ σ) (block.map (· ∘ σ))) = .error cause) ∧
    (∀ result, ofTab delimiter name (Classification.gridOf first second header block) =
      .ok result → result.sheet? = none) ∧
    ∀ result, ofTab delimiter name
      (Classification.gridOf first second (header ∘ σ) (block.map (· ∘ σ))) = .ok result →
        result.sheet? = none := by
  simp only [Classification.gridOf]
  rcases hmarkers : Markers.read first second with (fault | cause) | markers
  · exact .inl ⟨_, _, ofTab_tabOf_of_markers hmarkers, ofTab_tabOf_of_markers hmarkers,
      .rejected σ name rfl⟩
  · have herror (header : HeaderRows) (block : List (List Datum)) : Classification.ofRows name
        (Classification.tabOf first second header block) = .error cause := by
      simp only [Classification.ofRows_tabOf, hmarkers]
    refine .inr ⟨.inl ⟨cause, herror _ _⟩, fun result hresult ↦ ?_, fun result hresult ↦ ?_⟩
    · cases hresult.symm.trans (ofTab_of_ofRows (herror _ _))
    · cases hresult.symm.trans (ofTab_of_ofRows (herror _ _))
  obtain ⟨failure, failure', hfailure, hfailure', hkind⟩ | ⟨hcolumns, hcolumns'⟩ :=
    Header.compile_of_perm (σ.ofFn_comp_perm header).symm
  · have hnone (result : TabResult) := sheet?_of_compile hmarkers hfailure delimiter name
      (block.map TypedRows.cellsOf) result
    have hnone' (result : TabResult) := sheet?_of_compile hmarkers hfailure' delimiter name
      ((block.map (· ∘ σ)).map TypedRows.cellsOf) result
    rcases failure with error | cause
    · rcases failure' with error' | cause
      · exact .inl ⟨_, _, ofTab_tabOf_of_header hmarkers hfailure,
          ofTab_tabOf_of_header hmarkers hfailure',
          .rejected σ name (hkind error error' rfl rfl)⟩
      · exact .inr ⟨.inr ⟨cause, by simp only [Classification.ofRows_tabOf, hmarkers, hfailure']⟩,
          hnone, hnone'⟩
    · exact .inr ⟨.inl ⟨cause, by simp only [Classification.ofRows_tabOf, hmarkers, hfailure]⟩,
        hnone, hnone'⟩
  · exact .inl (rearranged_of_columns delimiter name first second header block σ hmarkers hcolumns
      hcolumns')

/-- The first six rows of a tab have texts in another order if they have in one. -/
theorem hasText_of_perm
    (h : ∀ row ∈ (Classification.gridOf first second header block).take headerHeight,
      row.HasText) :
    ∀ row ∈ (Classification.gridOf first second (header ∘ σ) (block.map (· ∘ σ))).take headerHeight,
      row.HasText := by
  have hrow {cell : HeaderCells → Datum}
      (htexts : (Datum.list ((List.ofFn header).map cell)).HasText) :
      (Datum.list ((List.ofFn (header ∘ σ)).map cell)).HasText := by
    rw [Datum.hasText_list_iff] at htexts ⊢
    exact fun d hmem ↦ htexts d (((σ.ofFn_comp_perm header).map cell).mem_iff.1 hmem)
  simp only [Classification.gridOf, Classification.tabOf, HeaderRows.ofColumns, headerHeight,
    List.take_succ_cons, List.take_zero, List.forall_mem_cons] at h ⊢
  obtain ⟨hfirst, hsecond, hlabels, htypes, hnames, hscopes, hnil⟩ := h
  exact ⟨hfirst, hsecond, hrow hlabels, hrow htypes, hrow hnames, hrow hscopes, hnil⟩

end Grid

/-- **Order**: let the columns of a tab be put into another order, header and data alike.
* If both tabs have results, they are the same up to the order of columns.
* The one is accepted as a config sheet exactly if the other is.
* If the first six rows of the one have texts, both have results. -/
theorem rearranged_of_perm (delimiter : Delimiter) (name : String) (first second : Datum)
    (header : Fin n → HeaderCells) (block : List (Fin n → Option String))
    (σ : Equiv.Perm (Fin n)) :
    (∀ result result',
      ofTab delimiter name (Classification.gridOf first second header block) = .ok result →
      ofTab delimiter name (Classification.gridOf first second (header ∘ σ) (block.map (· ∘ σ))) =
        .ok result' →
      result.Rearranged σ result') ∧
    ((∃ result, ofTab delimiter name (Classification.gridOf first second header block) =
        .ok result ∧ result.sheet?.isSome = true) ↔
      ∃ result, ofTab delimiter name
        (Classification.gridOf first second (header ∘ σ) (block.map (· ∘ σ))) = .ok result ∧
          result.sheet?.isSome = true) ∧
    ((∀ row ∈ (Classification.gridOf first second header block).take headerHeight, row.HasText) →
      ∃ result result',
        ofTab delimiter name (Classification.gridOf first second header block) = .ok result ∧
        ofTab delimiter name
          (Classification.gridOf first second (header ∘ σ) (block.map (· ∘ σ))) = .ok result' ∧
        result.Rearranged σ result') := by
  obtain ⟨result, result', hresult, hresult', hsame⟩ | ⟨hcause, hnone, hnone'⟩ :=
    cases_of_perm delimiter name first second header block σ
  · refine ⟨fun other other' hother hother' ↦ ?_, ?_, fun _ ↦
      ⟨result, result', hresult, hresult', hsame⟩⟩
    · cases hresult.symm.trans hother
      cases hresult'.symm.trans hother'
      exact hsame
    · simp only [hresult, hresult', Except.ok.injEq, exists_eq_left', hsame.accepted]
  · refine ⟨fun result result' hresult hresult' ↦ ?_, ?_, fun htexts ↦ ?_⟩
    · obtain ⟨cause, hcause⟩ | ⟨cause, hcause⟩ := hcause
      · cases hresult.symm.trans (ofTab_of_ofRows hcause)
      · cases hresult'.symm.trans (ofTab_of_ofRows hcause)
    · refine iff_of_false ?_ ?_
      · rintro ⟨result, hresult, hsome⟩
        rw [hnone result hresult] at hsome
        cases hsome
      · rintro ⟨result, hresult, hsome⟩
        rw [hnone' result hresult] at hsome
        cases hsome
    · obtain ⟨cause, hcause⟩ | ⟨cause, hcause⟩ := hcause
      · obtain ⟨row, hmem, htextless⟩ := Classification.exists_not_hasText_of_tabOf hcause
        exact absurd (htexts row hmem) htextless
      · obtain ⟨row, hmem, htextless⟩ := Classification.exists_not_hasText_of_tabOf hcause
        exact absurd (hasText_of_perm first second header block σ htexts row hmem) htextless

end TabResult

end ConfigTables
