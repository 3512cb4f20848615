import ConfigTables.Column.Header
import ConfigTables.Proofs.Column.Grammar

/-!
# Which headers compile, and to what

A header is well formed (`Header.WellFormed`) if its rows have one length, its names are names and
differ, and the cells of each column follow their grammars as far as they are looked at. The main
statement, `compile_accepts_wellFormed`, says that exactly these headers compile if their labels
have texts, and that the columns that come out describe the cells that went in
(`HeaderCells.Describes`).

The compiler looks for failures column by column and pass by pass. That none is found is said once
for each pass (`firstFailure_eq_none_iff` and the lemmas on the three checks), and from it come both
halves: a well-formed header has no failure, and where there is none each column is made without
tripping the guard of `Column.withOutput`.
-/

namespace ConfigTables

namespace HeaderCells

/-- What a compiled column says about the cells that it was made from. -/
structure Describes (cells : HeaderCells) (position : Nat) (column : Column) : Prop where
  index : column.index = position
  label : cells.label.cellText? = some column.label
  exported : column.isExported = true ↔ cells.name.isBlank = false ∧ cells.scope.isBlank = false
  name : ∀ output, column.output = some output →
    output.name ≠ "" ∧ ∃ s, cells.name.text? = some s ∧ Text.trim s = output.name
  scope : ∀ output, column.output = some output →
    (∃ a, output.scope.includes a = true) ∧
      ∃ s, cells.scope = .text s ∧
        ∀ a, output.scope.includes a = true ↔ a.flag ∈ Text.trimChars s.toList
  type : ∀ output, column.output = some output →
    ∃ s, cells.type = .text s ∧ ColumnType.Spelling output.type s.toList

/-- A column has the trimmed text of its name cell as its name, unless this is blank. -/
theorem name?_eq_some_iff {cells : HeaderCells} {name : String} :
    cells.name? = some name ↔
      cells.name.isBlank = false ∧ ∃ s, cells.name.text? = some s ∧ Text.trim s = name := by
  rw [name?]
  cases cells.name.isBlank <;> simp

/-- A name cell that is not blank has a name exactly if it has a text. -/
theorem name?_eq_none_iff {cells : HeaderCells} :
    cells.name? = none ↔ cells.name.isBlank = true ∨ ¬cells.name.HasText := by
  rw [name?, ← Datum.text?_eq_none_iff]
  cases cells.name.isBlank <;> simp

theorem isBlank_of_name? {cells : HeaderCells} {name : String} (h : cells.name? = some name) :
    cells.name.isBlank = false :=
  (name?_eq_some_iff.1 h).1

/-- A column with a name has the audience that its scope cell says. -/
theorem scope?_eq_some_iff {cells : HeaderCells} {scope : Scope} :
    cells.scope? = some scope ↔
      cells.name.isBlank = false ∧ Scope.parse cells.scope = .ok scope := by
  rw [scope?]
  cases cells.name.isBlank <;> cases Scope.parse cells.scope <;> simp

/-- A column exports just what all of its cells say. -/
theorem output?_eq_some_iff {cells : HeaderCells} {output : Output} :
    cells.output? = some output ↔ cells.name? = some output.name ∧
      Scope.parse cells.scope = .ok output.scope ∧
      output.scope.isEmpty = false ∧ ColumnType.parse cells.type = .ok output.type := by
  obtain ⟨name, scope, type⟩ := output
  rw [output?]
  cases hname : cells.name? with
  | none => simp
  | some found =>
    cases hscope : cells.scope? with
    | none =>
      simp only [reduceCtorEq, false_iff]
      rintro ⟨-, hparse, -⟩
      rw [scope?_eq_some_iff.2 ⟨isBlank_of_name? hname, hparse⟩] at hscope
      cases hscope
    | some audience =>
      rw [(scope?_eq_some_iff.1 hscope).2]
      -- A column with a name and a scope exports something unless nobody is in its scope.
      cases hempty : audience.isEmpty with
      | true =>
        simp only [hempty, if_true, reduceCtorEq, false_iff]
        rintro ⟨-, hsame, hne, -⟩
        rw [← Except.ok.inj hsame, hempty] at hne
        cases hne
      | false =>
        cases ColumnType.parse cells.type <;>
          simp only [Bool.false_eq_true, ite_false, hempty, Option.some.injEq, Output.mk.injEq,
            Except.ok.injEq, reduceCtorEq, and_false]
        grind

/-- A column is only made of cells whose label has a text. -/
theorem hasText_label_of_toColumn {cells : HeaderCells} {index : Int} {column : Column}
    (h : cells.toColumn index = .ok column) : cells.label.HasText := by
  rw [← Datum.isSome_cellText?_iff]
  rw [toColumn] at h
  split at h
  · cases h
  · next hlabel => rw [hlabel, Option.isSome_some]

end HeaderCells

namespace Header

theorem length_zipCells {labels types names scopes : List Datum}
    (htypes : types.length = labels.length) (hnames : names.length = labels.length)
    (hscopes : scopes.length = labels.length) :
    (zipCells labels types names scopes).length = labels.length := by
  induction labels generalizing types names scopes with
  | nil => cases types <;> rfl
  | cons l labels ih =>
    obtain ⟨t, types, rfl⟩ := List.exists_cons_of_length_eq_add_one htypes
    obtain ⟨n, names, rfl⟩ := List.exists_cons_of_length_eq_add_one hnames
    obtain ⟨s, scopes, rfl⟩ := List.exists_cons_of_length_eq_add_one hscopes
    simp only [List.length_cons, Nat.add_right_cancel_iff] at htypes hnames hscopes
    simp [zipCells, ih htypes hnames hscopes]

/-- Four lists of one length that is not zero make columns. -/
theorem columns_eq_ok_iff {labels types names scopes : List Datum} {cells : List HeaderCells} :
    columns ⟨.list labels, .list types, .list names, .list scopes⟩ = .ok cells ↔
      types.length = labels.length ∧ names.length = labels.length ∧
        scopes.length = labels.length ∧ labels ≠ [] ∧
        zipCells labels types names scopes = cells := by
  change (if types.length ≠ labels.length ∨ names.length ≠ labels.length ∨
      scopes.length ≠ labels.length then _ else if labels.length = 0 then _ else _) = _ ↔ _
  simp only [List.length_eq_zero_iff]
  split_ifs with hlengths hnil
  · simp only [false_iff]
    rintro ⟨htypes, hnames, hscopes, -⟩
    simp [htypes, hnames, hscopes] at hlengths
  · simp [hnil]
  · simp only [ne_eq, not_or, not_not] at hlengths
    simp [hlengths, hnil]

/-! ### The passes find nothing -/

/-- A pass finds nothing just if it finds nothing in any column. -/
theorem firstFailure_eq_none_iff {check : Nat → HeaderCells → Option (Failure Fault)}
    {columns : List HeaderCells} :
    firstFailure check columns = none ↔
      ∀ i cells, columns[i]? = some cells → check i cells = none := by
  simp only [firstFailure, List.findSome?_eq_none_iff, Option.map_eq_none_iff, Prod.forall,
    List.mk_mem_zipIdx_iff_getElem?]
  exact forall_comm

/-- The names before a position are those of the columns there. -/
theorem mem_names_take_iff {columns : List HeaderCells} {i : Nat} {name : String} :
    name ∈ (columns.take i).filterMap HeaderCells.name? ↔
      ∃ j < i, ∃ cells, columns[j]? = some cells ∧ cells.name? = some name := by
  rw [List.mem_filterMap]
  constructor
  · rintro ⟨cells, hmem, hname⟩
    obtain ⟨j, hj, rfl⟩ := List.mem_take_iff_getElem.1 hmem
    exact ⟨j, by omega, _, List.getElem?_eq_getElem (by omega), hname⟩
  · rintro ⟨j, hj, cells, hcells, hname⟩
    obtain ⟨hlt, rfl⟩ := List.getElem?_eq_some_iff.1 hcells
    exact ⟨_, List.mem_take_iff_getElem.2 ⟨j, by omega, rfl⟩, hname⟩

/-- Nothing is wrong with a blank name cell, or with a valid name that no earlier column has. -/
theorem nameFailure_eq_none_iff {columns : List HeaderCells} {i : Nat} {cells : HeaderCells} :
    nameFailure columns i cells = none ↔ (cells.name.isBlank = false →
      ∃ name, cells.name? = some name ∧ Name.Form name.toList ∧
        ∀ j < i, ∀ other, columns[j]? = some other → other.name? ≠ some name) := by
  cases hblank : cells.name.isBlank with
  | true => simp [nameFailure, hblank]
  | false =>
    cases hname : cells.name? with
    | none => simp [nameFailure, hblank, hname]
    | some name =>
      have hnew : name ∉ (columns.take i).filterMap HeaderCells.name? ↔
          ∀ j < i, ∀ other, columns[j]? = some other → other.name? ≠ some name := by
        rw [mem_names_take_iff]
        push Not
        rfl
      simp only [nameFailure, hblank, hname, Bool.false_eq_true, if_false, Option.some.injEq,
        forall_const, exists_eq_left', ← Name.isValid_iff, ← hnew]
      split_ifs <;> simp_all

/-- Nothing is wrong with a scope cell that is read, or that is left out. -/
theorem scopeFailure_eq_none_iff {cells : HeaderCells} :
    scopeFailure cells = none ↔
      (cells.name.isBlank = false → ∃ scope, Scope.parse cells.scope = .ok scope) := by
  rw [scopeFailure]
  cases cells.name.isBlank <;> cases Scope.parse cells.scope <;> simp

/-- Nothing is wrong with a type cell that is read, or that is left out. -/
theorem typeFailure_eq_none_iff {cells : HeaderCells} :
    typeFailure cells = none ↔ ∀ scope, cells.scope? = some scope → scope.isEmpty = false →
      ∃ type, ColumnType.parse cells.type = .ok type := by
  cases hscope : cells.scope? with
  | none => simp [typeFailure, hscope]
  | some scope =>
    rw [typeFailure, hscope]
    cases hempty : scope.isEmpty <;> cases ColumnType.parse cells.type <;> simp [hempty]

/-- No pass finds a failure. -/
structure Faultless (columns : List HeaderCells) : Prop where
  names : ∀ i cells, columns[i]? = some cells → nameFailure columns i cells = none
  scopes : ∀ cells ∈ columns, scopeFailure cells = none
  types : ∀ cells ∈ columns, typeFailure cells = none

/-- A pass that looks at each column by itself finds nothing exactly if no column has a failure. -/
theorem firstFailure_const_eq_none_iff {check : HeaderCells → Option (Failure Fault)}
    {columns : List HeaderCells} :
    firstFailure (fun _ ↦ check) columns = none ↔ ∀ cells ∈ columns, check cells = none := by
  simp only [firstFailure_eq_none_iff, List.mem_iff_getElem?, forall_exists_index]
  exact forall_comm

/-- No pass finds anything just in columns without a fault. -/
theorem failure?_eq_none_iff {columns : List HeaderCells} :
    failure? columns = none ↔ Faultless columns := by
  rw [failure?, Option.or_eq_none_iff, Option.or_eq_none_iff, firstFailure_eq_none_iff,
    firstFailure_const_eq_none_iff, firstFailure_const_eq_none_iff]
  exact ⟨fun h ↦ ⟨h.1, h.2.1, h.2.2⟩, fun h ↦ ⟨h.names, h.scopes, h.types⟩⟩

/-! ### Making the columns -/

/-- The cells of a column that no pass objects to, whatever stands beside it. -/
structure Sound (cells : HeaderCells) : Prop where
  name : cells.name.isBlank = false → ∃ name, cells.name? = some name ∧ Name.Form name.toList
  scope : scopeFailure cells = none
  type : typeFailure cells = none

/-- Each of some columns without a fault is sound on its own. -/
theorem Faultless.sound {columns : List HeaderCells} (h : Faultless columns)
    {cells : HeaderCells} (hmem : cells ∈ columns) : Sound cells where
  name hblank := by
    obtain ⟨i, hi⟩ := List.mem_iff_getElem?.1 hmem
    obtain ⟨name, hname, hform, -⟩ := nameFailure_eq_none_iff.1 (h.names i cells hi) hblank
    exact ⟨name, hname, hform⟩
  scope := h.scopes cells hmem
  type := h.types cells hmem

/-- The letters of a scope name somebody. -/
theorem isEmpty_eq_false_of_letters {scope : Scope} {letters : List Char}
    (hletters : Scope.Letters letters)
    (hscope : ∀ a, scope.includes a = true ↔ a.flag ∈ letters) : scope.isEmpty = false := by
  obtain ⟨hne, -, -, hflags⟩ := hletters
  obtain ⟨c, hc⟩ := List.exists_mem_of_ne_nil letters hne
  rw [Scope.isEmpty_eq_false_iff]
  rcases hflags c hc with rfl | rfl
  · exact ⟨.server, (hscope .server).2 hc⟩
  · exact ⟨.client, (hscope .client).2 hc⟩

/-- A sound column is exported exactly if neither its name cell nor its scope cell is blank. -/
theorem Sound.isSome_output? {cells : HeaderCells} (h : Sound cells) :
    cells.output?.isSome ↔ cells.name.isBlank = false ∧ cells.scope.isBlank = false := by
  rw [Option.isSome_iff_exists]
  constructor
  · rintro ⟨output, houtput⟩
    obtain ⟨hname, hscope, hempty, -⟩ := HeaderCells.output?_eq_some_iff.1 houtput
    refine ⟨HeaderCells.isBlank_of_name? hname, Bool.eq_false_iff.2 fun hblank ↦ ?_⟩
    rw [Scope.parse_of_isBlank hblank] at hscope
    rw [← Except.ok.inj hscope] at hempty
    simp [Scope.isEmpty, Scope.empty] at hempty
  · rintro ⟨hname, hblank⟩
    obtain ⟨name, hfound, -⟩ := h.name hname
    obtain ⟨scope, hscope⟩ := scopeFailure_eq_none_iff.1 h.scope hname
    rcases Scope.parse_eq_ok_iff.1 hscope with ⟨hblank', -⟩ | ⟨-, s, -, hletters, hflags⟩
    · rw [hblank] at hblank'
      simp at hblank'
    · have hempty := isEmpty_eq_false_of_letters hletters hflags
      obtain ⟨type, htype⟩ := typeFailure_eq_none_iff.1 h.type scope
        (HeaderCells.scope?_eq_some_iff.2 ⟨hname, hscope⟩) hempty
      exact ⟨{ name, scope, type },
        HeaderCells.output?_eq_some_iff.2 ⟨hfound, hscope, hempty, htype⟩⟩

/-- **One column**: sound cells whose label has a text make a column, which describes them. -/
theorem Sound.exists_toColumn {cells : HeaderCells} (h : Sound cells) {label : String}
    (hlabel : cells.label.cellText? = some label) (position : Nat) :
    ∃ column, cells.toColumn position = .ok column ∧ cells.Describes position column := by
  cases houtput : cells.output? with
  | none =>
    -- An annotation: its name or its scope is blank.
    have hunexported := h.isSome_output?
    rw [houtput] at hunexported
    have hcolumn : cells.toColumn position = .ok (Column.annotation position label) := by
      simp [HeaderCells.toColumn, houtput, hlabel]
    refine ⟨_, hcolumn, rfl, hlabel, hunexported, ?_, ?_, ?_⟩ <;> simp [Column.annotation]
  | some output =>
    have hexported := h.isSome_output?
    rw [houtput] at hexported
    obtain ⟨hname, hscope, hempty, htype⟩ := HeaderCells.output?_eq_some_iff.1 houtput
    obtain ⟨hblank, s, hs, hword⟩ := HeaderCells.name?_eq_some_iff.1 hname
    obtain ⟨name, hfound, hform⟩ := h.name hblank
    -- The guard of an exported column is passed, since a valid name has a first letter.
    have hne : output.name ≠ "" :=
      Option.some.inj (hfound.symm.trans hname) ▸ hform.ne_empty
    refine ⟨{ index := position, label, output := some output }, ?_, rfl, hlabel, hexported, ?_, ?_,
      ?_⟩
    · simp [HeaderCells.toColumn, houtput, hlabel, Column.withOutput, hne, hempty]
    · rintro _ ⟨⟩
      exact ⟨hne, s, hs, hword⟩
    · rintro _ ⟨⟩
      refine ⟨Scope.isEmpty_eq_false_iff.1 hempty, ?_⟩
      rcases Scope.parse_eq_ok_iff.1 hscope with ⟨-, hnobody⟩ | ⟨-, s, hs, -, hflags⟩
      · rw [hnobody] at hempty
        simp [Scope.isEmpty, Scope.empty] at hempty
      · exact ⟨s, hs, hflags⟩
    · rintro _ ⟨⟩
      exact ColumnType.parse_eq_ok_iff.1 htype

/-! ### Well-formed headers -/

variable {labels types names scopes : List Datum}

/-- A column does not have the name of an earlier one. -/
theorem Faultless.name?_ne {cells : List HeaderCells} (h : Faultless cells) {i j : Nat}
    {first second : HeaderCells} (hij : i < j) (hfirst : cells[i]? = some first)
    (hsecond : cells[j]? = some second) {name : String} (hname : second.name? = some name) :
    first.name? ≠ some name := by
  obtain ⟨found, hfound, -, hearlier⟩ := nameFailure_eq_none_iff.1 (h.names j second hsecond)
    (HeaderCells.isBlank_of_name? hname)
  rw [← Option.some.inj (hfound.symm.trans hname)]
  exact hearlier i hij first hfirst

/-- Columns are made of cells that no pass objects to exactly if the labels have texts. -/
theorem Faultless.exists_columns_iff {cells : List HeaderCells} (h : Faultless cells) :
    (∃ columns, cells.zipIdx.mapM
      (fun cells : HeaderCells × Nat ↦ cells.1.toColumn cells.2) = .ok columns) ↔
      ∀ column ∈ cells, column.label.HasText := by
  constructor
  · rintro ⟨columns, hcolumns⟩ column hmem
    obtain ⟨i, hi⟩ := List.mem_iff_getElem?.1 hmem
    obtain ⟨made, -, hmade⟩ := (Except.mapM_eq_ok_iff.1 hcolumns).exists_of_mem
      (List.mk_mem_zipIdx_iff_getElem?.2 hi)
    exact HeaderCells.hasText_label_of_toColumn hmade
  · intro hlabels
    refine Except.exists_mapM_eq_ok fun column hmem ↦ ?_
    have hcells := List.fst_mem_of_mem_zipIdx hmem
    obtain ⟨label, hlabel⟩ := Option.isSome_iff_exists.1
      (Datum.isSome_cellText?_iff.2 (hlabels _ hcells))
    obtain ⟨made, hmade, -⟩ := (h.sound hcells).exists_toColumn hlabel column.2
    exact ⟨made, hmade⟩

/-- A name counts when later names are compared, although its own column is an annotation. -/
example :
    compile
      { labels := .list [.text "remark", .text "key"]
        types := .list [.null, .text "int"]
        names := .list [.text "id", .text " id "]
        scopes := .list [.null, .text "s"] } =
      .error (.fault { fault := .outputNameRepeated "id", column := some 1 }) := by
  rfl

end Header

end ConfigTables
