import ConfigTables.Proofs.Column.Schema

/-!
# The order of columns

A pass goes through the columns from left to right and stops at its first failure, and the first
pass compares each name with those before it. Which failure is found therefore depends on the order
of the columns. Which pass finds it does not, and a pass reports faults of one kind only
(`Header.failingKind?_of_perm`): whether it reports any is a matter of what there is among the
columns, where names are compared pair by pair (`Header.firstFailure_nameFailure_eq_none_iff`).
-/

namespace ConfigTables

theorem Scope.kind_of_parse {cell : Datum} {fault : Fault}
    (h : parse cell = .error (.fault fault)) : fault.kind = .scope := by
  have hflags {s : String} {letters : List Char} (h : parseFlags s letters = .error fault) :
      fault.kind = .scope := by
    rw [parseFlags] at h
    split at h
    · cases h
      rfl
    split at h
    · cases h
      rfl
    split at h <;> cases h
    rfl
  unfold parse at h
  split at h
  · cases h
  split at h
  · obtain ⟨found, hfound, hsame⟩ := Except.mapError_eq_error_iff.1 h
    cases hsame
    exact hflags hfound
  · obtain ⟨shown, -, rfl⟩ := Failure.quoting_eq_fault_iff.1 (Except.error.inj h)
    rfl

namespace ColumnType

theorem kind_of_parseScalar {expression word : String} {type : ScalarType → ColumnType}
    {fault : Fault} (h : (parseScalar expression word).map type = .error fault) :
    fault.kind = .type := by
  rw [parseScalar] at h
  split at h <;> cases h
  rfl

/-- A fault of a type cell is of the kind for types. -/
theorem kind_of_parse {cell : Datum} {fault : Fault} (h : parse cell = .error (.fault fault)) :
    fault.kind = .type := by
  have hexpression {s : String} (h : parseExpression s = .error fault) : fault.kind = .type := by
    rw [parseExpression] at h
    split at h
    · exact kind_of_parseScalar h
    dsimp only at h
    split at h
    · cases h
      rfl
    split at h
    · cases h
      rfl
    · exact kind_of_parseScalar h
  unfold parse at h
  split at h
  · cases h
    rfl
  split at h
  · obtain ⟨found, hfound, hsame⟩ := Except.mapError_eq_error_iff.1 h
    cases hsame
    exact hexpression hfound
  · obtain ⟨shown, -, rfl⟩ := Failure.quoting_eq_fault_iff.1 (Except.error.inj h)
    rfl

end ColumnType

namespace Header

variable {columns columns' : List HeaderCells}

/-! ### The kinds of faults -/

/-- What the pass over names finds is of the kind for names. -/
theorem kind_of_nameFailure {i : Nat} {cells : HeaderCells} {fault : Fault}
    (h : nameFailure columns i cells = some (.fault fault)) : fault.kind = .name := by
  rw [nameFailure] at h
  split_ifs at h
  split at h
  · cases h
  · split_ifs at h <;> cases h <;> rfl

theorem kind_of_scopeFailure {cells : HeaderCells} {fault : Fault}
    (h : scopeFailure cells = some (.fault fault)) : fault.kind = .scope := by
  rw [scopeFailure] at h
  split_ifs at h
  split at h
  · next hparse =>
    cases h
    exact Scope.kind_of_parse hparse
  · cases h

theorem kind_of_typeFailure {cells : HeaderCells} {fault : Fault}
    (h : typeFailure cells = some (.fault fault)) : fault.kind = .type := by
  obtain ⟨scope, -, h⟩ := Option.bind_eq_some_iff.1 h
  split_ifs at h
  split at h
  · next hparse =>
    cases h
    exact ColumnType.kind_of_parse hparse
  · cases h

/-- The faults that a pass reports are of the kind of those that it finds. -/
theorem kind_of_firstFailure {kind : FaultKind} {check : Nat → HeaderCells → Option (Failure Fault)}
    (hkind : ∀ i cells fault, check i cells = some (.fault fault) → fault.kind = kind)
    {error : PlacedFault} (h : firstFailure check columns = some (.fault error)) :
    error.fault.kind = kind := by
  obtain ⟨⟨cells, i⟩, -, hcheck⟩ := List.exists_of_findSome?_eq_some h
  obtain ⟨failure, hfailure, hplaced⟩ := Option.map_eq_some_iff.1 hcheck
  cases failure with
  | fault fault =>
    cases hplaced
    exact hkind i cells fault hfailure
  | abort cause => cases hplaced

/-- The kind of the faults that the first pass to find anything reports. -/
def failingKind? (columns : List HeaderCells) : Option FaultKind :=
  ((firstFailure (nameFailure columns) columns).map fun _ ↦ .name).or <|
    ((firstFailure (fun _ ↦ scopeFailure) columns).map fun _ ↦ .scope).or <|
      (firstFailure (fun _ ↦ typeFailure) columns).map fun _ ↦ .type

/-- There is no kind just if there is no failure. -/
theorem failingKind?_eq_none_iff : failingKind? columns = none ↔ failure? columns = none := by
  simp only [failingKind?, failure?, Option.or_eq_none_iff, Option.map_eq_none_iff]

/-- A fault that the passes report is of the kind that the failing pass reports. -/
theorem failingKind?_of_failure? {error : PlacedFault}
    (h : failure? columns = some (.fault error)) :
    failingKind? columns = some error.fault.kind := by
  rw [failure?, Option.or_eq_some_iff, Option.or_eq_some_iff] at h
  rw [failingKind?]
  rcases h with hname | ⟨hnames, hscope | ⟨hscopes, htype⟩⟩
  · rw [kind_of_firstFailure (fun _ _ _ ↦ kind_of_nameFailure) hname, hname]
    rfl
  · rw [kind_of_firstFailure (fun _ _ _ ↦ kind_of_scopeFailure) hscope, hnames, hscope]
    rfl
  · rw [kind_of_firstFailure (fun _ _ _ ↦ kind_of_typeFailure) htype, hnames, hscopes, htype]
    rfl

theorem map_const_congr {α β : Type} {first second : Option α} {value : β}
    (h : first = none ↔ second = none) :
    (first.map fun _ ↦ value) = second.map fun _ ↦ value := by
  cases first <;> cases second <;> simp_all

/-! ### Columns in another order -/

/-- Two columns do not have the same name. -/
def NamedApart (cells other : HeaderCells) : Prop :=
  ∀ name, cells.name? = some name → other.name? ≠ some name

theorem NamedApart.symm {cells other : HeaderCells} (h : NamedApart cells other) :
    NamedApart other cells :=
  fun name hother hname ↦ h name hname hother

/-- The first pass finds nothing exactly if all names are valid and no two columns have the same. -/
theorem firstFailure_nameFailure_eq_none_iff :
    firstFailure (nameFailure columns) columns = none ↔
      (∀ cells ∈ columns, cells.name.isBlank = false →
        ∃ name, cells.name? = some name ∧ Name.Form name.toList) ∧
        columns.Pairwise NamedApart := by
  rw [firstFailure_eq_none_iff]
  simp only [nameFailure_eq_none_iff]
  constructor
  · refine fun h ↦ ⟨fun cells hmem hblank ↦ ?_, ?_⟩
    · obtain ⟨i, hi⟩ := List.mem_iff_getElem?.1 hmem
      obtain ⟨name, hname, hform, -⟩ := h i cells hi hblank
      exact ⟨name, hname, hform⟩
    · rw [List.pairwise_iff_getElem]
      intro i j hi hj hij name hname hother
      obtain ⟨found, hfound, -, hearlier⟩ := h j columns[j] (List.getElem?_eq_getElem hj)
        (HeaderCells.isBlank_of_name? hother)
      cases hfound.symm.trans hother
      exact hearlier i hij columns[i] (List.getElem?_eq_getElem hi) hname
  · rintro ⟨hform, hapart⟩ i cells hcells hblank
    obtain ⟨name, hname, hvalid⟩ := hform cells (List.mem_of_getElem? hcells) hblank
    refine ⟨name, hname, hvalid, fun j hj other hother hsame ↦ ?_⟩
    obtain ⟨hi, rfl⟩ := List.getElem?_eq_some_iff.1 hcells
    obtain ⟨hj', rfl⟩ := List.getElem?_eq_some_iff.1 hother
    exact List.pairwise_iff_getElem.1 hapart j i hj' hi hj name hsame hname

/-- Whether a pass finds anything is the same in both orders if it looks at columns one by one. -/
theorem map_firstFailure_const {kind : FaultKind} {check : HeaderCells → Option (Failure Fault)}
    (h : columns.Perm columns') :
    ((firstFailure (fun _ ↦ check) columns).map fun _ ↦ kind) =
      (firstFailure (fun _ ↦ check) columns').map fun _ ↦ kind := by
  refine map_const_congr ?_
  rw [firstFailure_const_eq_none_iff, firstFailure_const_eq_none_iff]
  exact forall_congr' fun cells ↦ imp_congr_left h.mem_iff

/-- **Order**: the kind of the faults that the first failing pass reports does not depend on the
order of the columns. -/
theorem failingKind?_of_perm (h : columns.Perm columns') :
    failingKind? columns = failingKind? columns' := by
  -- Only the first pass looks at more than the one column that it checks.
  have hnames : ((firstFailure (nameFailure columns) columns).map fun _ ↦ FaultKind.name) =
      (firstFailure (nameFailure columns') columns').map fun _ ↦ FaultKind.name := by
    refine map_const_congr ?_
    rw [firstFailure_nameFailure_eq_none_iff, firstFailure_nameFailure_eq_none_iff,
      h.pairwise_iff NamedApart.symm]
    exact and_congr_left' (forall_congr' fun cells ↦ imp_congr_left h.mem_iff)
  rw [failingKind?, failingKind?, hnames, map_firstFailure_const h, map_firstFailure_const h]

/-- The columns of a header in another order fail as well, for a fault of the same kind where both
have one, or neither fails. -/
theorem compile_of_perm (h : columns.Perm columns') :
    (∃ failure failure', compile (.ofColumns columns) = .error failure ∧
      compile (.ofColumns columns') = .error failure' ∧
      ∀ error error', failure = .fault error → failure' = .fault error' →
        error.fault.kind = error'.fault.kind) ∨
      compile (.ofColumns columns) = .ok (schema columns) ∧
        compile (.ofColumns columns') = .ok (schema columns') := by
  by_cases hne : columns = []
  · subst hne
    obtain rfl := List.nil_perm.1 h
    refine .inl ⟨_, _, compile_ofColumns_nil, compile_ofColumns_nil, ?_⟩
    rintro error error' ⟨⟩ ⟨⟩
    rfl
  · have hne' : columns' ≠ [] := by
      rintro rfl
      exact hne (List.perm_nil.1 h)
    -- Which pass fails is the same for both, and only then do the labels count.
    have hkind := failingKind?_of_perm h
    have hlabels : (∀ cells ∈ columns', cells.label.HasText) ↔
        ∀ cells ∈ columns, cells.label.HasText :=
      forall_congr' fun cells ↦ imp_congr_left h.symm.mem_iff
    rw [compile_ofColumns hne, compile_ofColumns hne']
    simp only [hlabels]
    rcases hfailure : failure? columns with _ | failure
    · rw [failingKind?_eq_none_iff.2 hfailure] at hkind
      rw [failingKind?_eq_none_iff.1 hkind.symm]
      dsimp only
      by_cases htexts : ∀ cells ∈ columns, cells.label.HasText
      · rw [if_pos htexts, if_pos htexts]
        exact .inr ⟨rfl, rfl⟩
      · rw [if_neg htexts, if_neg htexts]
        refine .inl ⟨_, _, rfl, rfl, ?_⟩
        rintro error error' ⟨⟩
    · rcases hfailure' : failure? columns' with _ | failure'
      · rw [failingKind?_eq_none_iff.2 hfailure', failingKind?_eq_none_iff, hfailure] at hkind
        cases hkind
      · refine .inl ⟨failure, failure', rfl, rfl, ?_⟩
        rintro error error' rfl rfl
        rw [failingKind?_of_failure? hfailure, failingKind?_of_failure? hfailure'] at hkind
        exact Option.some.inj hkind

end Header

end ConfigTables
