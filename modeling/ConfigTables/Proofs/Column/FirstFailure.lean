import ConfigTables.Proofs.Column.Order

/-!
# Which failure of a header is reported

A header may be wrong in many places, and the compiler reports one of them. `Header.FirstFailure`
says which one, without the compiler:

* rows that make no columns fail as such (`Header.ShapeFailure`): the first row that is no list,
  else their lengths, else that they are empty;
* otherwise the passes decide (`Header.PassFailure`): the leftmost name that is at fault, whatever
  stands in the other rows; if all names pass, the leftmost scope that is at fault; and if all
  scopes pass, the leftmost type.

Where a value that is to be shown, or to be put into a text, has no text, there is an abort in place
of a fault. That can also happen to a label, when all passes are done.

The main statement, `Header.compile_fails_iff_firstFailure`, says that the compiler fails with
exactly this failure, which cell a fault blames, and that an abort comes from a value without a
text. A pass reports the leftmost answer that it gets (`Header.firstFailure_eq_some_iff`). So each
pass needs a lemma that says when a column has an answer, and one that says what the answer is.
-/

namespace ConfigTables

/-- The header rows, from top to bottom. -/
def HeaderRow.all : List HeaderRow := [.labels, .types, .names, .scopes]

/-- What was found in the place of a header row. -/
def HeaderRows.found (rows : HeaderRows) : HeaderRow → Datum
  | .labels => rows.labels
  | .types => rows.types
  | .names => rows.names
  | .scopes => rows.scopes

namespace Header

/-! ### Which failure counts -/

/-- The failure of header rows that make no columns. -/
inductive ShapeFailure : HeaderRows → Failure Fault → Prop where
  /-- Some row is no list, and those above it are. The fault shows the row. -/
  | notList {rows : HeaderRows} {above below : List HeaderRow} {row : HeaderRow}
      (order : HeaderRow.all = above ++ row :: below)
      (lists : ∀ other ∈ above, ∃ cells, rows.found other = .list cells)
      (notList : ∀ cells, rows.found row ≠ .list cells) :
      ShapeFailure rows (.quoting (rows.found row) (.headerRowNotList row))
  /-- All rows are lists, and not of one length. -/
  | differ {labels types names scopes : List Datum}
      (lengths : ¬(types.length = labels.length ∧ names.length = labels.length ∧
        scopes.length = labels.length)) :
      ShapeFailure ⟨.list labels, .list types, .list names, .list scopes⟩
        (.fault (.headerRowsDiffer labels.length types.length names.length scopes.length))
  /-- All rows are lists without cells. -/
  | empty : ShapeFailure (.ofColumns []) (.fault .headerEmpty)

/-- The name of a column is at fault: it is no valid name, or an earlier column has it. -/
def NameFails (columns : List HeaderCells) (i : Nat) (cells : HeaderCells) : Prop :=
  ∃ s, cells.name.isBlank = false ∧ cells.name.text? = some s ∧
    (¬Name.Form (Text.trim s).toList ∨
      ∃ j < i, ∃ earlier t, columns[j]? = some earlier ∧ earlier.name.isBlank = false ∧
        earlier.name.text? = some t ∧ Text.trim t = Text.trim s)

/-- The first pass stops at a column: its name has no text, or is at fault. -/
def NameStops (columns : List HeaderCells) (i : Nat) (cells : HeaderCells) : Prop :=
  (cells.name.isBlank = false ∧ ¬cells.name.HasText) ∨ NameFails columns i cells

/-- The scope of a column with a name is at fault: it is no word of letters. -/
def ScopeFails (cells : HeaderCells) : Prop :=
  cells.name.isBlank = false ∧ cells.scope.isBlank = false ∧
    ¬∃ s, cells.scope = .text s ∧ Scope.Letters (Text.trimChars s.toList)

/-- The type of a column with a name and a scope is at fault: it denotes none. -/
def TypeFails (cells : HeaderCells) : Prop :=
  cells.name.isBlank = false ∧ cells.scope.isBlank = false ∧
    ¬∃ s type, cells.type = .text s ∧ ColumnType.Spelling type s.toList

/-- The cells at a position are the leftmost ones with a property. -/
structure Leftmost (columns : List HeaderCells) (p : Nat → HeaderCells → Prop) (i : Nat)
    (cells : HeaderCells) : Prop where
  here : columns[i]? = some cells
  holds : p i cells
  earlier : ∀ j < i, ∀ other, columns[j]? = some other → ¬p j other

/-- The failure that the passes report. -/
inductive PassFailure (columns : List HeaderCells) : Failure PlacedFault → Prop where
  | nameTextless {i : Nat} {cells : HeaderCells}
      (first : Leftmost columns (NameStops columns) i cells) (textless : ¬cells.name.HasText) :
      PassFailure columns (.abort .tooManyDigits)
  | nameInvalid {i : Nat} {cells : HeaderCells} {s : String}
      (first : Leftmost columns (NameStops columns) i cells) (text : cells.name.text? = some s)
      (form : ¬Name.Form (Text.trim s).toList) :
      PassFailure columns
        (.fault { fault := .outputNameInvalid (Text.trim s), column := some i })
  | nameRepeated {i : Nat} {cells : HeaderCells} {s : String}
      (first : Leftmost columns (NameStops columns) i cells) (text : cells.name.text? = some s)
      (form : Name.Form (Text.trim s).toList) :
      PassFailure columns
        (.fault { fault := .outputNameRepeated (Text.trim s), column := some i })
  | scope {i : Nat} {cells : HeaderCells} {failure : Failure Fault}
      (names : ∀ j other, columns[j]? = some other → ¬NameStops columns j other)
      (first : Leftmost columns (fun _ ↦ ScopeFails) i cells)
      (answer : Scope.parse cells.scope = .error failure) :
      PassFailure columns (failure.placed (some i) none)
  | type {i : Nat} {cells : HeaderCells} {failure : Failure Fault}
      (names : ∀ j other, columns[j]? = some other → ¬NameStops columns j other)
      (scopes : ∀ other ∈ columns, ¬ScopeFails other)
      (first : Leftmost columns (fun _ ↦ TypeFails) i cells)
      (answer : ColumnType.parse cells.type = .error failure) :
      PassFailure columns (failure.placed (some i) none)

/-- The failure that counts among all those of a header. -/
inductive FirstFailure (rows : HeaderRows) : Failure PlacedFault → Prop where
  | shape {failure : Failure Fault} (h : ShapeFailure rows failure) :
      FirstFailure rows (failure.placed none none)
  | pass {columns : List HeaderCells} {failure : Failure PlacedFault}
      (made : rows = .ofColumns columns) (h : PassFailure columns failure) :
      FirstFailure rows failure
  /-- No pass fails, and a label has no text. -/
  | label {columns : List HeaderCells} {cells : HeaderCells} (made : rows = .ofColumns columns)
      (passes : ∀ failure, ¬PassFailure columns failure) (mem : cells ∈ columns)
      (textless : ¬cells.label.HasText) : FirstFailure rows (.abort .tooManyDigits)

section Shape

variable {rows : HeaderRows} {failure : Failure Fault}

theorem rowCells_eq_error_iff {row : HeaderRow} {found : Datum} :
    rowCells row found = .error failure ↔
      (∀ cells, found ≠ .list cells) ∧ .quoting found (.headerRowNotList row) = failure := by
  cases found <;> simp [rowCells, Datum.cells?]

/-- The rows are asked for their cells from top to bottom. -/
theorem columns_of_mapM_eq_error
    (h : HeaderRow.all.mapM (fun row ↦ rowCells row (rows.found row)) = .error failure) :
    Header.columns rows = .error failure := by
  revert h
  simp only [HeaderRow.all, List.mapM_cons, List.mapM_nil, HeaderRows.found, Header.columns]
  rcases rowCells .labels rows.labels with _ | labels
  · rintro ⟨⟩
    rfl
  rcases rowCells .types rows.types with _ | types
  · rintro ⟨⟩
    rfl
  rcases rowCells .names rows.names with _ | names
  · rintro ⟨⟩
    rfl
  rcases rowCells .scopes rows.scopes with _ | scopes
  · rintro ⟨⟩
    rfl
  · exact nofun

/-- Rows that all have cells are four lists. -/
theorem exists_lists_of_mapM_eq_ok {cells : List (List Datum)}
    (h : HeaderRow.all.mapM (fun row ↦ rowCells row (rows.found row)) = .ok cells) :
    ∃ labels types names scopes,
      rows = ⟨.list labels, .list types, .list names, .list scopes⟩ := by
  have hlist (row : HeaderRow) (hmem : row ∈ HeaderRow.all) :
      ∃ cells, rows.found row = .list cells := by
    obtain ⟨cells, -, hcells⟩ := (Except.mapM_eq_ok_iff.1 h).exists_of_mem hmem
    exact ⟨cells, rowCells_eq_ok_iff.1 hcells⟩
  obtain ⟨labels, hlabels⟩ := hlist .labels (by decide)
  obtain ⟨types, htypes⟩ := hlist .types (by decide)
  obtain ⟨names, hnames⟩ := hlist .names (by decide)
  obtain ⟨scopes, hscopes⟩ := hlist .scopes (by decide)
  exact ⟨labels, types, names, scopes, by rw [← hlabels, ← htypes, ← hnames, ← hscopes]; rfl⟩

/-- Rows that are lists make no columns exactly if they differ in length or have no cells. -/
theorem columns_lists_eq_error_iff {labels types names scopes : List Datum} :
    Header.columns ⟨.list labels, .list types, .list names, .list scopes⟩ = .error failure ↔
      (¬(types.length = labels.length ∧ names.length = labels.length ∧
        scopes.length = labels.length) ∧
        .fault (.headerRowsDiffer labels.length types.length names.length scopes.length) =
          failure) ∨
      ((types.length = labels.length ∧ names.length = labels.length ∧
        scopes.length = labels.length) ∧ labels = [] ∧ .fault .headerEmpty = failure) := by
  change (if types.length ≠ labels.length ∨ names.length ≠ labels.length ∨
      scopes.length ≠ labels.length then _ else if labels.length = 0 then _ else _) = _ ↔ _
  have hdiffer : (types.length ≠ labels.length ∨ names.length ≠ labels.length ∨
      scopes.length ≠ labels.length) ↔ ¬(types.length = labels.length ∧
        names.length = labels.length ∧ scopes.length = labels.length) := by
    rw [not_and_or, not_and_or]
  simp only [hdiffer, List.length_eq_zero_iff]
  split_ifs with hsame hnil
  · simp only [Except.error.injEq, eq_true hsame, eq_true hnil, not_true, false_and, false_or,
      true_and]
  · simp only [eq_true hsame, eq_false hnil, not_true, false_and, and_false, or_self]
  · simp only [Except.error.injEq, eq_false hsame, not_false_iff, true_and, false_and, or_false]

/-- **Shape**: the header rows make no columns exactly if they fail as such. -/
theorem columns_eq_error_iff :
    Header.columns rows = .error failure ↔ ShapeFailure rows failure := by
  constructor
  · intro h
    rcases hpass : HeaderRow.all.mapM (fun row ↦ rowCells row (rows.found row)) with error | cells
    · rw [columns_of_mapM_eq_error hpass] at h
      cases h
      obtain ⟨above, row, below, order, hlists, hrow⟩ := Except.mapM_eq_error_iff.1 hpass
      obtain ⟨hnotList, rfl⟩ := rowCells_eq_error_iff.1 hrow
      refine .notList order (fun other hmem ↦ ?_) hnotList
      obtain ⟨cells, hcells⟩ := hlists other hmem
      exact ⟨cells, rowCells_eq_ok_iff.1 hcells⟩
    · obtain ⟨labels, types, names, scopes, rfl⟩ := exists_lists_of_mapM_eq_ok hpass
      rcases columns_lists_eq_error_iff.1 h with ⟨hlengths, rfl⟩ | ⟨hlengths, rfl, rfl⟩
      · exact .differ hlengths
      · simp only [List.length_nil, List.length_eq_zero_iff] at hlengths
        obtain ⟨rfl, rfl, rfl⟩ := hlengths
        exact .empty
  · intro h
    cases h with
    | notList order lists notList =>
      refine columns_of_mapM_eq_error (Except.mapM_eq_error_iff.2 ⟨_, _, _, order, ?_, ?_⟩)
      · intro other hmem
        obtain ⟨cells, hcells⟩ := lists other hmem
        exact ⟨cells, rowCells_eq_ok_iff.2 hcells⟩
      · exact rowCells_eq_error_iff.2 ⟨notList, rfl⟩
    | differ lengths => exact columns_lists_eq_error_iff.2 (.inl ⟨lengths, rfl⟩)
    | empty => rfl

end Shape

/-! ### The leftmost answer -/

section Passes

variable {columns : List HeaderCells} {p q : Nat → HeaderCells → Prop} {i : Nat}
  {cells : HeaderCells} {failure : Failure Fault} {found : Failure PlacedFault}

/-- The leftmost column with a property is that with any property that means the same. -/
theorem Leftmost.congr
    (h : ∀ (i : Nat) (cells : HeaderCells), columns[i]? = some cells → (p i cells ↔ q i cells)) :
    Leftmost columns p i cells ↔ Leftmost columns q i cells := by
  constructor
  · rintro ⟨here, holds, earlier⟩
    exact ⟨here, (h i cells here).1 holds, fun j hj other hother hq ↦
      earlier j hj other hother ((h j other hother).2 hq)⟩
  · rintro ⟨here, holds, earlier⟩
    exact ⟨here, (h i cells here).2 holds, fun j hj other hother hp ↦
      earlier j hj other hother ((h j other hother).1 hp)⟩

/-- There is at most one leftmost place. -/
theorem Leftmost.unique (h : Leftmost columns p i cells) {j : Nat} {other : HeaderCells}
    (h' : Leftmost columns p j other) : i = j ∧ cells = other := by
  rcases Nat.lt_trichotomy i j with hlt | rfl | hlt
  · exact absurd h.holds (h'.earlier i hlt cells h.here)
  · exact ⟨rfl, Option.some.inj (h.here.symm.trans h'.here)⟩
  · exact absurd h'.holds (h.earlier j hlt other h'.here)

/-- What a pass reports is the answer at some position, and no earlier one has an answer. -/
theorem leftmost_of_firstFailure {check : Nat → HeaderCells → Option (Failure Fault)}
    (h : firstFailure check columns = some found) : ∃ i cells failure,
      Leftmost columns (fun i cells ↦ check i cells ≠ none) i cells ∧
        check i cells = some failure ∧ found = failure.placed (some i) none := by
  obtain ⟨before, ⟨cells, i⟩, after, hsplit, hhere, hbefore⟩ := List.findSome?_eq_some_iff.1 h
  obtain ⟨failure, hfailure, rfl⟩ := Option.map_eq_some_iff.1 hhere
  -- The answers before this one are those of the columns to the left.
  have hget : columns.zipIdx[before.length]? = some (cells, i) := by simp [hsplit]
  rw [List.getElem?_zipIdx, Option.map_eq_some_iff] at hget
  obtain ⟨_, hcells, heq⟩ := hget
  rw [Nat.zero_add, Prod.mk.injEq] at heq
  obtain ⟨rfl, rfl⟩ := heq
  refine ⟨before.length, _, failure, ⟨hcells, by simp [hfailure], fun j hj other hother ↦ ?_⟩,
    hfailure, rfl⟩
  have hmem : (other, j) ∈ before := by
    have hget : columns.zipIdx[j]? = some (other, j) := by simp [hother]
    rw [hsplit, List.getElem?_append_left hj] at hget
    exact List.mem_of_getElem? hget
  simpa using hbefore _ hmem

/-- **One pass**: it reports the leftmost answer that it gets, with its position. The columns that
have an answer may be described in any way. -/
theorem firstFailure_eq_some_iff {check : Nat → HeaderCells → Option (Failure Fault)}
    (hp : ∀ (i : Nat) (cells : HeaderCells), columns[i]? = some cells →
      (check i cells ≠ none ↔ p i cells)) :
    firstFailure check columns = some found ↔ ∃ i cells failure, Leftmost columns p i cells ∧
      check i cells = some failure ∧ found = failure.placed (some i) none := by
  simp only [← Leftmost.congr hp]
  refine ⟨leftmost_of_firstFailure, ?_⟩
  rintro ⟨i, cells, failure, hleft, hfailure, rfl⟩
  rcases hfirst : firstFailure check columns with _ | found
  · exact absurd (firstFailure_eq_none_iff.1 hfirst i cells hleft.here) hleft.holds
  · obtain ⟨j, other, failure', hleft', hfailure', rfl⟩ := leftmost_of_firstFailure hfirst
    obtain ⟨rfl, rfl⟩ := hleft.unique hleft'
    rw [Option.some.inj (hfailure.symm.trans hfailure')]

/-! ### When the passes have an answer, and which -/

theorem NameStops.isBlank_name (h : NameStops columns i cells) : cells.name.isBlank = false := by
  rcases h with ⟨hblank, -⟩ | ⟨s, hblank, -⟩ <;> exact hblank

/-- The pass over names stops just where a name fails or has no text. -/
theorem nameFailure_ne_none_iff :
    nameFailure columns i cells ≠ none ↔ NameStops columns i cells := by
  rw [ne_eq, nameFailure_eq_none_iff, NameStops, NameFails]
  rcases hblank : cells.name.isBlank with _ | _
  · rcases htext : cells.name.text? with _ | s
    · have hname : cells.name? = none :=
        HeaderCells.name?_eq_none_iff.2 (.inr (Datum.text?_eq_none_iff.1 htext))
      simp [hname, Datum.text?_eq_none_iff.1 htext]
    · have hname : cells.name? = some (Text.trim s) :=
        HeaderCells.name?_eq_some_iff.2 ⟨hblank, s, htext, rfl⟩
      have hhas : cells.name.HasText := by rw [← Datum.isSome_text?_iff, htext]; rfl
      simp only [hname, hhas, Option.some.injEq, exists_eq_left', forall_const, not_true,
        and_false, false_or, true_and]
      rw [not_and_or]
      refine or_congr_right ?_
      push Not
      simp only [HeaderCells.name?_eq_some_iff, exists_and_left]
  · simp

/-- A name without a text has an abort for an answer. -/
theorem nameFailure_of_textless (hblank : cells.name.isBlank = false)
    (h : ¬cells.name.HasText) : nameFailure columns i cells = some (.abort .tooManyDigits) := by
  simp [nameFailure, hblank, HeaderCells.name?_eq_none_iff.2 (.inr h)]

/-- A name at fault is reported as an invalid one if it is, and otherwise as a repeated one. -/
theorem nameFailure_of_nameStops (h : NameStops columns i cells) {s : String}
    (htext : cells.name.text? = some s) :
    nameFailure columns i cells = some (.fault (if Name.isValid (Text.trim s) then
      .outputNameRepeated (Text.trim s) else .outputNameInvalid (Text.trim s))) := by
  have hname : cells.name? = some (Text.trim s) :=
    HeaderCells.name?_eq_some_iff.2 ⟨h.isBlank_name, s, htext, rfl⟩
  have hfailure := nameFailure_ne_none_iff.2 h
  simp only [nameFailure, h.isBlank_name, hname, Bool.false_eq_true, if_false] at hfailure ⊢
  split_ifs at hfailure ⊢ <;> simp_all

theorem scopeFailure_eq_some_iff :
    scopeFailure cells = some failure ↔
      cells.name.isBlank = false ∧ Scope.parse cells.scope = .error failure := by
  rw [scopeFailure]
  rcases cells.name.isBlank <;> rcases Scope.parse cells.scope <;> simp

/-- The pass over scopes stops just where a scope fails. -/
theorem scopeFailure_ne_none_iff : scopeFailure cells ≠ none ↔ ScopeFails cells := by
  rw [ne_eq, scopeFailure_eq_none_iff, Scope.exists_parse_eq_ok_iff, ScopeFails, Classical.not_imp,
    not_or, Bool.not_eq_true]

/-- A scope that is not at fault is that of nobody exactly if its cell is blank. -/
theorem isEmpty_eq_isBlank_of_parse {cell : Datum} {scope : Scope}
    (h : Scope.parse cell = .ok scope) : scope.isEmpty = cell.isBlank := by
  rcases Scope.parse_eq_ok_iff.1 h with ⟨hblank, rfl⟩ | ⟨hblank, s, -, hletters, hflags⟩
  · rw [hblank]
    rfl
  · rw [hblank, isEmpty_eq_false_of_letters hletters hflags]

theorem typeFailure_eq_some_iff (h : ¬ScopeFails cells) :
    typeFailure cells = some failure ↔ cells.name.isBlank = false ∧ cells.scope.isBlank = false ∧
      ColumnType.parse cells.type = .error failure := by
  rw [← scopeFailure_ne_none_iff, not_not, scopeFailure_eq_none_iff] at h
  rcases hname : cells.name.isBlank with _ | _
  · obtain ⟨scope, hparse⟩ := h hname
    have hscope : cells.scope? = some scope := HeaderCells.scope?_eq_some_iff.2 ⟨hname, hparse⟩
    rw [typeFailure, hscope, Option.bind_some, isEmpty_eq_isBlank_of_parse hparse]
    rcases cells.scope.isBlank <;> rcases ColumnType.parse cells.type <;> simp
  · simp [typeFailure, HeaderCells.scope?, hname]

/-- The pass over types stops just where a type fails, if no scope does. -/
theorem typeFailure_ne_none_iff (h : ¬ScopeFails cells) :
    typeFailure cells ≠ none ↔ TypeFails cells := by
  have hparse : (∃ failure, ColumnType.parse cells.type = .error failure) ↔
      ¬∃ s type, cells.type = .text s ∧ ColumnType.Spelling type s.toList := by
    rw [exists_comm]
    simp only [← ColumnType.parse_eq_ok_iff]
    rcases ColumnType.parse cells.type <;> simp
  simp only [Option.ne_none_iff_exists', typeFailure_eq_some_iff h, TypeFails, exists_and_left,
    hparse]

/-- All names pass just if the pass stops at none of them. -/
theorem names_pass_iff : firstFailure (nameFailure columns) columns = none ↔
    ∀ j other, columns[j]? = some other → ¬NameStops columns j other := by
  simp only [firstFailure_eq_none_iff, ← nameFailure_ne_none_iff, not_not]

/-- All scopes pass just if none of them fails. -/
theorem scopes_pass_iff : firstFailure (fun _ ↦ scopeFailure) columns = none ↔
    ∀ other ∈ columns, ¬ScopeFails other := by
  simp only [firstFailure_const_eq_none_iff, ← scopeFailure_ne_none_iff, not_not]

/-- **All passes**: the failure that they report is the one that counts. -/
theorem failure?_eq_some_iff : failure? columns = some found ↔ PassFailure columns found := by
  -- The last pass is only asked where all scopes pass.
  have htypes (hscopes : ∀ other ∈ columns, ¬ScopeFails other) :
      firstFailure (fun _ ↦ typeFailure) columns = some found ↔ _ :=
    firstFailure_eq_some_iff fun i cells hcells ↦
      typeFailure_ne_none_iff (hscopes cells (List.mem_of_getElem? hcells))
  rw [failure?, Option.or_eq_some_iff, Option.or_eq_some_iff, names_pass_iff, scopes_pass_iff,
    firstFailure_eq_some_iff fun _ _ _ ↦ nameFailure_ne_none_iff,
    firstFailure_eq_some_iff fun _ _ _ ↦ scopeFailure_ne_none_iff]
  constructor
  · rintro (⟨i, cells, failure, first, hfailure, rfl⟩ | ⟨names, h⟩)
    · rcases htext : cells.name.text? with _ | s
      · have textless := Datum.text?_eq_none_iff.1 htext
        rw [nameFailure_of_textless first.holds.isBlank_name textless] at hfailure
        cases hfailure
        exact .nameTextless first textless
      · rw [nameFailure_of_nameStops first.holds htext] at hfailure
        cases hfailure
        split_ifs with hvalid
        · exact .nameRepeated first htext (Name.isValid_iff.1 hvalid)
        · exact .nameInvalid first htext (mt Name.isValid_iff.2 hvalid)
    · rcases h with ⟨i, cells, failure, first, hfailure, rfl⟩ | ⟨scopes, h⟩
      · exact .scope names first (scopeFailure_eq_some_iff.1 hfailure).2
      · obtain ⟨i, cells, failure, first, hfailure, rfl⟩ := (htypes scopes).1 h
        have hpasses := scopes cells (List.mem_of_getElem? first.here)
        exact .type names scopes first ((typeFailure_eq_some_iff hpasses).1 hfailure).2.2
  · intro h
    cases h with
    | nameTextless first textless =>
      exact .inl ⟨_, _, _, first,
        nameFailure_of_textless first.holds.isBlank_name textless, rfl⟩
    | nameInvalid first text form =>
      refine .inl ⟨_, _, _, first, nameFailure_of_nameStops first.holds text, ?_⟩
      rw [if_neg (mt Name.isValid_iff.1 form)]
      rfl
    | nameRepeated first text form =>
      refine .inl ⟨_, _, _, first, nameFailure_of_nameStops first.holds text, ?_⟩
      rw [if_pos (Name.isValid_iff.2 form)]
      rfl
    | scope names first answer =>
      exact .inr ⟨names, .inl ⟨_, _, _, first,
        scopeFailure_eq_some_iff.2 ⟨first.holds.1, answer⟩, rfl⟩⟩
    | type names scopes first answer =>
      have hpasses := scopes _ (List.mem_of_getElem? first.here)
      exact .inr ⟨names, .inr ⟨scopes, (htypes scopes).2 ⟨_, _, _, first,
        (typeFailure_eq_some_iff hpasses).2 ⟨first.holds.1, first.holds.2.1, answer⟩, rfl⟩⟩⟩

/-- The compiler finds no failure in columns just if there is none. -/
theorem failure?_eq_none_iff_forall :
    failure? columns = none ↔ ∀ failure, ¬PassFailure columns failure := by
  simp only [Option.eq_none_iff_forall_ne_some, ne_eq, failure?_eq_some_iff]

end Passes

/-! ### Whole headers -/

variable {rows : HeaderRows} {columns : List HeaderCells} {failure : Failure PlacedFault}

theorem PassFailure.ne_nil (h : PassFailure columns failure) : columns ≠ [] := by
  rintro rfl
  cases h with
  | nameTextless first => cases first.here
  | nameInvalid first => cases first.here
  | nameRepeated first => cases first.here
  | scope names first => cases first.here
  | type names scopes first => cases first.here

/-- The failure that counts is what the compiler gives. -/
theorem FirstFailure.compile (h : FirstFailure rows failure) : compile rows = .error failure := by
  cases h with
  | shape h => rw [Header.compile, columns_eq_error_iff.2 h]
  | pass made h => rw [made, compile_ofColumns h.ne_nil, failure?_eq_some_iff.2 h]
  | label made passes mem textless =>
    rw [made, compile_ofColumns (List.ne_nil_of_mem mem), failure?_eq_none_iff_forall.2 passes]
    exact if_neg fun htexts ↦ textless (htexts _ mem)

/-- What the compiler gives is the failure that counts. -/
theorem firstFailure_of_compile (h : compile rows = .error failure) :
    FirstFailure rows failure := by
  rcases hcolumns : Header.columns rows with shape | columns
  · rw [compile, hcolumns] at h
    cases h
    exact .shape (columns_eq_error_iff.1 hcolumns)
  · obtain ⟨made, hne⟩ := columns_eq_ok_iff_ofColumns.1 hcolumns
    rw [made, compile_ofColumns hne] at h
    rcases hfailure : failure? columns with _ | found
    · simp only [hfailure] at h
      split_ifs at h with htexts
      obtain rfl := Except.error.inj h
      push Not at htexts
      obtain ⟨cells, mem, textless⟩ := htexts
      exact .label made (failure?_eq_none_iff_forall.1 hfailure) mem textless
    · simp only [hfailure] at h
      obtain rfl := Except.error.inj h
      exact .pass made (failure?_eq_some_iff.1 hfailure)

/-! ### What a failure comes from -/

/-- A row of a header with columns has no text if a cell in it has none. -/
theorem not_hasText_list {cells : HeaderCells} (hmem : cells ∈ columns) {cell : HeaderCells → Datum}
    (textless : ¬(cell cells).HasText) : ¬(Datum.list (columns.map cell)).HasText :=
  fun h ↦ textless (Datum.hasText_list_iff.1 h _ (List.mem_map_of_mem hmem))

/-- The passes abort where a name, a scope or a type has no text. -/
theorem PassFailure.textless {cause : Abort} (h : PassFailure columns (.abort cause)) :
    cause = .tooManyDigits ∧ ∃ row, ¬((HeaderRows.ofColumns columns).found row).HasText := by
  generalize hfailure : Failure.abort cause = failure at h
  cases h with
  | nameTextless first textless =>
    cases hfailure
    exact ⟨rfl, .names, not_hasText_list (List.mem_of_getElem? first.here) textless⟩
  | nameInvalid => cases hfailure
  | nameRepeated => cases hfailure
  | scope names first answer =>
    obtain rfl := Failure.placed_eq_abort_iff.1 hfailure.symm
    obtain ⟨textless, rfl⟩ := Scope.parse_eq_abort_iff.1 answer
    exact ⟨rfl, .scopes, not_hasText_list (List.mem_of_getElem? first.here) textless⟩
  | type names scopes first answer =>
    obtain rfl := Failure.placed_eq_abort_iff.1 hfailure.symm
    obtain ⟨textless, rfl⟩ := ColumnType.parse_eq_abort_iff.1 answer
    exact ⟨rfl, .types, not_hasText_list (List.mem_of_getElem? first.here) textless⟩

/-- An abort comes from a header row without a text. -/
theorem FirstFailure.textless {cause : Abort} (h : FirstFailure rows (.abort cause)) :
    cause = .tooManyDigits ∧ ∃ row, ¬(rows.found row).HasText := by
  generalize hfailure : Failure.abort cause = failure at h
  cases h with
  | shape h =>
    obtain rfl := Failure.placed_eq_abort_iff.1 hfailure.symm
    generalize hquoting : Failure.abort cause = failure at h
    cases h with
    | @notList _ _ _ row order lists notList =>
      obtain ⟨textless, rfl⟩ := Failure.quoting_eq_abort_iff.1 hquoting.symm
      exact ⟨rfl, row, textless⟩
    | differ => cases hquoting
    | empty => cases hquoting
  | pass made h =>
    rw [made]
    exact (hfailure ▸ h).textless
  | label made passes mem textless =>
    cases hfailure
    rw [made]
    exact ⟨rfl, .labels, not_hasText_list mem textless⟩

/-- A wrong name counts before the wrong scopes and types to its left. -/
example :
    compile
      { labels := .list [.null, .null]
        types := .list [.text "float", .text "int"]
        names := .list [.text "id", .text "1st"]
        scopes := .list [.text "x", .text "ss"] } =
      .error (.fault { fault := .outputNameInvalid "1st", column := some 1 }) := by
  rfl

end Header

end ConfigTables
