import ConfigTables.Proofs.Column.Header
import Mathlib.Data.List.Nodup

/-!
# What compiled columns export

The columns of a compiled header have what an export relies on (`Header.Exportable`): no two
exported columns have the same name, and each is exported for somebody. Both come from the passes of
the compiler. The first pass compares the names of all columns, exported or not, so the exported
ones differ as well; and a column whose scope is that of nobody is no exported one.
-/

namespace ConfigTables

namespace Column

/-- What columns export, in their order. -/
def outputs (columns : List Column) : List Output :=
  columns.filterMap (·.output)

/-- Annotations export nothing. -/
theorem outputs_filter (columns : List Column) :
    outputs (columns.filter (·.isExported)) = outputs columns := by
  rw [outputs, outputs, List.filterMap_filter]
  congr 1
  funext column
  rcases houtput : column.output <;> simp [isExported, houtput]

/-- What anybody sees is exported. -/
theorem isExported_of_isSeenBy {column : Column} {audience : Audience}
    (h : column.isSeenBy audience = true) : column.isExported = true := by
  rcases houtput : column.output with _ | output
  · simp [isSeenBy, houtput] at h
  · simp [isExported, houtput]

theorem isSeenBy_of_output {column other : Column} (h : column.output = other.output)
    (audience : Audience) : column.isSeenBy audience = other.isSeenBy audience := by
  rw [isSeenBy, isSeenBy, h]

end Column

namespace Header

/-- The names that columns export differ, and each exported column is seen by somebody. -/
structure Exportable (columns : List Column) : Prop where
  nodup : ((Column.outputs columns).map (·.name)).Nodup
  seen : ∀ column ∈ columns, column.isExported = true →
    ∃ audience, column.isSeenBy audience = true

/-- Columns that export the same name export the same. -/
theorem Exportable.output_eq {columns : List Column} (h : Exportable columns)
    {column other : Column} (hmem : column ∈ columns) (hmem' : other ∈ columns)
    {output output' : Output} (houtput : column.output = some output)
    (houtput' : other.output = some output') (hname : output.name = output'.name) :
    column.output = other.output := by
  have heq := List.inj_on_of_nodup_map h.nodup (List.mem_filterMap.2 ⟨column, hmem, houtput⟩)
    (List.mem_filterMap.2 ⟨other, hmem', houtput'⟩) hname
  rw [houtput, houtput', heq]

/-- A column that is made exports what its cells say. -/
theorem output_of_toColumn {cells : HeaderCells} {index : Int} {column : Column}
    (h : cells.toColumn index = .ok column) : column.output = cells.output? := by
  rw [HeaderCells.toColumn] at h
  split at h
  · cases h
  rcases houtput : cells.output? with _ | output
  · simp only [houtput] at h
    cases h
    rfl
  · simp only [houtput, Column.withOutput] at h
    split_ifs at h
    cases h
    rfl

/-- A column is made for each position, with the output that its cells ask for. -/
theorem map_output_of_mapM {cells : List HeaderCells} {columns : List Column}
    (h : cells.zipIdx.mapM (fun cells : HeaderCells × Nat ↦ cells.1.toColumn cells.2) =
      .ok columns) :
    columns.map (·.output) = cells.map (·.output?) := by
  have hcolumns : columns.map (·.output) = cells.zipIdx.map (·.1.output?) := by
    rw [← List.forall₂_eq_eq_eq, List.forall₂_map_left_iff, List.forall₂_map_right_iff]
    exact (Except.mapM_eq_ok_iff.1 h).flip.imp fun _ _ ↦ output_of_toColumn
  rw [hcolumns, ← List.zipIdx_map_fst 0 cells, List.map_map, List.zipIdx_map_fst]
  rfl

/-- No column has the name of a later one. -/
theorem Faultless.pairwise_name? {cells : List HeaderCells} (h : Faultless cells) :
    cells.Pairwise fun first second ↦
      ∀ name, first.name? = some name → second.name? ≠ some name := by
  rw [List.pairwise_iff_getElem]
  intro i j hi hj hij name hfirst hsecond
  exact h.name?_ne hij (List.getElem?_eq_getElem hi) (List.getElem?_eq_getElem hj) hsecond hfirst

/-- Columns without a fault can be exported. -/
theorem Faultless.exportable {cells : List HeaderCells} {columns : List Column}
    (h : Faultless cells) (houtputs : columns.map (·.output) = cells.map (·.output?)) :
    Exportable columns := by
  have hfilter : Column.outputs columns = cells.filterMap (·.output?) := by
    have hid := congrArg (List.filterMap id) houtputs
    rwa [List.filterMap_map, List.filterMap_map] at hid
  refine ⟨?_, fun column hmem hexported ↦ ?_⟩
  · -- The exported names are among the names of the columns.
    rw [hfilter, List.Nodup, List.pairwise_map]
    refine h.pairwise_name?.filterMap _ fun first second hnames output houtput other hother heq ↦ ?_
    have hname := (HeaderCells.output?_eq_some_iff.1 houtput).1
    have hname' := (HeaderCells.output?_eq_some_iff.1 hother).1
    exact hnames _ hname (heq ▸ hname')
  · obtain ⟨output, houtput⟩ := Option.isSome_iff_exists.1 hexported
    have hmem' := List.mem_map_of_mem (f := (·.output)) hmem
    rw [houtputs] at hmem'
    obtain ⟨cells, -, heq⟩ := List.mem_map.1 hmem'
    obtain ⟨-, -, hsomebody, -⟩ :=
      HeaderCells.output?_eq_some_iff.1 (heq.trans houtput)
    obtain ⟨audience, haudience⟩ := Scope.isEmpty_eq_false_iff.1 hsomebody
    exact ⟨audience, by simp [Column.isSeenBy, houtput, haudience]⟩

/-- **Columns**: the columns of a compiled header can be exported. -/
theorem exportable_of_compile {rows : HeaderRows} {columns : List Column}
    (h : compile rows = .ok columns) : Exportable columns := by
  rw [compile] at h
  rcases hcells : Header.columns rows with failure | cells
  · rw [hcells] at h
    cases h
  · simp only [hcells] at h
    rcases hfailure : failure? cells with _ | failure
    · simp only [hfailure] at h
      have houtputs := map_output_of_mapM (Except.mapError_eq_ok_iff.1 h)
      exact (failure?_eq_none_iff.1 hfailure).exportable houtputs
    · simp only [hfailure] at h
      cases h

end Header

end ConfigTables
