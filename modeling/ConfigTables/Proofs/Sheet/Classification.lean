import ConfigTables.Proofs.Column.FirstFailure
import ConfigTables.Proofs.Sheet.Markers
import ConfigTables.Sheet.Classification

/-!
# Which tabs get an answer

The first six rows of a tab decide whether it is a config sheet, and they get an answer unless a
value in them is to be put into a text and has none (`Classification.Unreadable`,
`Classification.ofRows_sixRows`). The rows below are taken cell by cell without a look, once the
first six are accepted. So a readable tab is classified unless it has a row there that cannot be
gone through, and then the first such row is to blame (`Classification.returns_iff`).
-/

namespace ConfigTables

/-- A value with members that can be gone through: a list, a text or an object. -/
def Datum.Iterable (value : Datum) : Prop :=
  (∃ items, value = .list items) ∨ (∃ s, value = .text s) ∨ ∃ entries, value = .object entries

namespace Classification

variable {name : String} {rows : List Datum}

/-! ### The rows below the header -/

theorem exists_dataCells_iff {row : Datum} :
    (∃ cells, dataCells row = .ok cells) ↔ row.Iterable := by
  cases row <;> simp [dataCells, Datum.members?, Datum.Iterable]

theorem dataCells_eq_error_iff {row : Datum} {cause : Abort} :
    dataCells row = .error cause ↔ ¬row.Iterable ∧ cause = .notIterable row := by
  cases row <;> simp [dataCells, Datum.members?, Datum.Iterable, eq_comm]

/-! ### The first six rows -/

/-- The rows of a header with its markers. -/
def sixRows (first second : Datum) (header : HeaderRows) : List Datum :=
  [first, second, header.labels, header.types, header.names, header.scopes]

theorem exists_sixRows (h : headerHeight ≤ rows.length) :
    ∃ first second header data, rows = sixRows first second header ++ data := by
  match rows, h with
  | first :: second :: labels :: types :: names :: scopes :: data, _ =>
    exact ⟨first, second, ⟨labels, types, names, scopes⟩, data, rfl⟩

theorem ofRows_of_length_lt (h : rows.length < headerHeight) :
    ofRows name rows = .ok (.rejected name (.notConfig rows.length)) := by
  unfold ofRows
  split
  · simp only [List.length_cons, headerHeight] at h
    omega
  · rfl

/-- A value in the first six rows of a tab is to be put into a text and has none. -/
inductive Unreadable : List Datum → Prop where
  | firstMarker {first second : Datum} {header : HeaderRows} {data : List Datum}
      (textless : Markers.Textless Markers.fileMark first) :
      Unreadable (sixRows first second header ++ data)
  | secondMarker {first second : Datum} {header : HeaderRows} {data : List Datum}
      {fileName : String} (named : Markers.readFileName first = .ok fileName)
      (textless : Markers.Textless Markers.classMark second) :
      Unreadable (sixRows first second header ++ data)
  | header {first second : Datum} {header : HeaderRows} {data : List Datum} {markers : Markers}
      (named : Markers.read first second = .ok markers)
      (textless : Header.FirstFailure header (.abort .tooManyDigits)) :
      Unreadable (sixRows first second header ++ data)

/-- What becomes of a tab with six rows is up to markers, then the header, then the data rows. -/
theorem ofRows_sixRows_append (name : String) (first second : Datum) (header : HeaderRows)
    (data : List Datum) : ofRows name (sixRows first second header ++ data) =
      match Markers.read first second with
      | .error (.fault fault) => .ok (.rejected name (.malformed { fault }))
      | .error (.abort cause) => .error cause
      | .ok markers =>
        match Header.compile header with
        | .error (.fault error) => .ok (.rejected name (.malformed error))
        | .error (.abort cause) => .error cause
        | .ok columns => data.mapM dataCells >>= fun dataRows ↦
          .ok (.config { name, markers, columns, dataRows }) :=
  rfl

/-- **Header**: six rows are those of a config sheet, and then the cells of the rows below are
taken, or they have a fault, and then nothing below is looked at, or they cannot be read. -/
theorem ofRows_sixRows (name : String) (first second : Datum) (header : HeaderRows) :
    (∃ markers columns, Markers.read first second = .ok markers ∧
      Header.compile header = .ok columns ∧
      ∀ data, ofRows name (sixRows first second header ++ data) =
        data.mapM dataCells >>= fun dataRows ↦
          .ok (.config { name, markers, columns, dataRows })) ∨
    (∃ error : PlacedFault,
      ((∃ fault, Markers.read first second = .error (.fault fault) ∧ error = { fault }) ∨
        Header.compile header = .error (.fault error)) ∧
      ∀ data, ofRows name (sixRows first second header ++ data) =
        .ok (.rejected name (.malformed error))) ∨
    ∀ data, Unreadable (sixRows first second header ++ data) ∧
      ofRows name (sixRows first second header ++ data) = .error .tooManyDigits := by
  rcases hmarkers : Markers.read first second with (fault | cause) | markers
  · refine .inr (.inl ⟨{ fault }, .inl ⟨fault, rfl, rfl⟩, fun data ↦ ?_⟩)
    rw [ofRows_sixRows_append, hmarkers]
  · obtain ⟨htextless, rfl⟩ := Markers.read_eq_abort_iff.1 hmarkers
    refine .inr (.inr fun data ↦ ⟨?_, by rw [ofRows_sixRows_append, hmarkers]⟩)
    rcases htextless with hfirst | ⟨⟨fileName, hfile⟩, hsecond⟩
    · exact .firstMarker hfirst
    · exact .secondMarker hfile hsecond
  · rcases hheader : Header.compile header with (error | cause) | columns
    · refine .inr (.inl ⟨error, .inr rfl, fun data ↦ ?_⟩)
      rw [ofRows_sixRows_append, hmarkers, hheader]
    · have hfailure := Header.firstFailure_of_compile hheader
      obtain ⟨rfl, -⟩ := hfailure.textless
      exact .inr (.inr fun data ↦
        ⟨.header hmarkers hfailure, by rw [ofRows_sixRows_append, hmarkers, hheader]⟩)
    · refine .inl ⟨markers, columns, rfl, rfl, fun data ↦ ?_⟩
      rw [ofRows_sixRows_append, hmarkers, hheader]

/-- A tab that cannot be read is given up. -/
theorem Unreadable.ofRows (h : Unreadable rows) (name : String) :
    ofRows name rows = .error .tooManyDigits := by
  cases h with
  | firstMarker textless =>
    rw [ofRows_sixRows_append, Markers.read_eq_abort_iff.2 ⟨.inl textless, rfl⟩]
  | secondMarker named textless =>
    rw [ofRows_sixRows_append, Markers.read_eq_abort_iff.2 ⟨.inr ⟨⟨_, named⟩, textless⟩, rfl⟩]
  | header named textless =>
    rw [ofRows_sixRows_append, named]
    simp only [textless.compile]

/-- Whether a tab can be read does not depend on the rows below its first six. -/
theorem Unreadable.take (h : Unreadable rows) : Unreadable (rows.take headerHeight) := by
  cases h with
  | @firstMarker first second header _ textless =>
    show Unreadable (sixRows first second header ++ [])
    exact .firstMarker textless
  | @secondMarker first second header _ _ named textless =>
    show Unreadable (sixRows first second header ++ [])
    exact .secondMarker named textless
  | @header first second header _ _ named textless =>
    show Unreadable (sixRows first second header ++ [])
    exact .header named textless

/-- A tab that cannot be read has a value without a text in its first six rows. -/
theorem Unreadable.exists_not_hasText (h : Unreadable rows) :
    ∃ row ∈ rows.take headerHeight, ¬row.HasText := by
  cases h with
  | @firstMarker first _ _ _ textless => exact ⟨first, .head _, textless.not_hasText⟩
  | @secondMarker _ second _ _ _ _ textless =>
    exact ⟨second, .tail _ (.head _), textless.not_hasText⟩
  | @header _ _ header _ _ _ textless =>
    obtain ⟨-, row, hrow⟩ := textless.textless
    refine ⟨header.found row, ?_, hrow⟩
    cases row <;> simp [sixRows, headerHeight, HeaderRows.found]

/-- A tab is rejected as plain data if it is too short for a header, and for a fault otherwise. -/
theorem rejection_of_ofRows {name' : String} {rejection : Rejection}
    (h : ofRows name rows = .ok (.rejected name' rejection)) :
    rows.length < headerHeight ∧ rejection = .notConfig rows.length ∨
      headerHeight ≤ rows.length ∧ ∃ error, rejection = .malformed error := by
  rcases Nat.lt_or_ge rows.length headerHeight with hshort | hlong
  · rw [ofRows_of_length_lt hshort] at h
    cases h
    exact .inl ⟨hshort, rfl⟩
  · obtain ⟨first, second, header, data, rfl⟩ := exists_sixRows hlong
    obtain ⟨markers, columns, -, -, hconfig⟩ | ⟨error, -, hrejected⟩ | hunreadable :=
      ofRows_sixRows name first second header
    · rw [hconfig] at h
      obtain ⟨dataRows, -, h⟩ := Except.bind_eq_ok_iff.1 h
      cases h
    · rw [hrejected] at h
      cases h
      exact .inr ⟨hlong, error, rfl⟩
    · rw [(hunreadable data).2] at h
      cases h

/-- The first six rows of a tab are those of a config sheet. -/
def Accepts (name : String) (rows : List Datum) : Prop :=
  ∃ sheet, ofRows name (rows.take headerHeight) = .ok (.config sheet)

/-- A tab is accepted by its first six rows and then depends on the rows below, or it is rejected,
or it cannot be read. -/
theorem ofRows_cases (name : String) (rows : List Datum) :
    (Accepts name rows ∧ ¬Unreadable rows ∧ ∃ sheet : Sheet, ofRows name rows =
      (rows.drop headerHeight).mapM dataCells >>= fun dataRows ↦
        .ok (.config { sheet with dataRows })) ∨
    (¬Accepts name rows ∧ ¬Unreadable rows ∧
      ∃ rejection, ofRows name rows = .ok (.rejected name rejection)) ∨
    (¬Accepts name rows ∧ Unreadable rows ∧ ofRows name rows = .error .tooManyDigits) := by
  rcases Nat.lt_or_ge rows.length headerHeight with hshort | hlong
  · have hrows : ofRows name rows = .ok (.rejected name (.notConfig rows.length)) :=
      ofRows_of_length_lt hshort
    refine .inr (.inl ⟨?_, fun h ↦ ?_, .notConfig rows.length, hrows⟩)
    · rintro ⟨sheet, hsheet⟩
      rw [List.take_of_length_le hshort.le, hrows] at hsheet
      cases hsheet
    · cases (h.ofRows name).symm.trans hrows
  · obtain ⟨first, second, header, data, rfl⟩ := exists_sixRows hlong
    have htake : (sixRows first second header ++ data).take headerHeight =
      sixRows first second header ++ [] := rfl
    obtain ⟨markers, columns, -, -, hconfig⟩ | ⟨error, -, hrejected⟩ | hunreadable :=
      ofRows_sixRows name first second header
    · refine .inl ⟨⟨_, htake ▸ hconfig []⟩, fun h ↦ ?_,
        { name, markers, columns, dataRows := [] }, hconfig data⟩
      -- The rows below might have no cells, but without them the tab has an answer.
      cases (h.take.ofRows name).symm.trans (hconfig [])
    · refine .inr (.inl ⟨?_, fun h ↦ ?_, .malformed error, hrejected data⟩)
      · rintro ⟨sheet, hsheet⟩
        rw [htake, hrejected] at hsheet
        cases hsheet
      · cases (h.ofRows name).symm.trans (hrejected data)
    · refine .inr (.inr ⟨?_, hunreadable data⟩)
      rintro ⟨sheet, hsheet⟩
      rw [htake, (hunreadable []).2] at hsheet
      cases hsheet

/-- **Answers**: a tab is classified exactly if it can be read, and its first six rows are rejected
or all rows below can be gone through. Otherwise what is to blame is a value in the first six rows
that has no text, or else the first row below that cannot be gone through. -/
theorem returns_iff (name : String) (rows : List Datum) :
    ((∃ outcome, ofRows name rows = .ok outcome) ↔
      ¬Unreadable rows ∧ (Accepts name rows → ∀ row ∈ rows.drop headerHeight, row.Iterable)) ∧
    (∀ cause, ofRows name rows = .error cause ↔
      Unreadable rows ∧ cause = .tooManyDigits ∨
      Accepts name rows ∧ ∃ above row below, rows.drop headerHeight = above ++ row :: below ∧
        (∀ other ∈ above, other.Iterable) ∧ ¬row.Iterable ∧ cause = .notIterable row) ∧
    (Unreadable rows → ∃ row ∈ rows.take headerHeight, ¬row.HasText) := by
  rw [← and_assoc]
  refine ⟨?_, Unreadable.exists_not_hasText⟩
  obtain ⟨haccepts, hreadable, sheet, hrows⟩ | ⟨hrejects, hreadable, rejection, hrows⟩ |
    ⟨hrejects, hunreadable, hrows⟩ := ofRows_cases name rows
  · simp only [hrows, eq_true haccepts, eq_false hreadable, not_false_iff, false_and, false_or,
      true_imp_iff, true_and]
    constructor
    · constructor
      · rintro ⟨outcome, houtcome⟩ row hrow
        obtain ⟨dataRows, hdata, -⟩ := Except.bind_eq_ok_iff.1 houtcome
        obtain ⟨cells, -, hcells⟩ := (Except.mapM_eq_ok_iff.1 hdata).exists_of_mem hrow
        exact exists_dataCells_iff.1 ⟨cells, hcells⟩
      · intro hiterable
        obtain ⟨dataRows, hdata⟩ := Except.exists_mapM_eq_ok fun row hrow ↦
          exists_dataCells_iff.2 (hiterable row hrow)
        exact ⟨_, Except.bind_eq_ok_iff.2 ⟨dataRows, hdata, rfl⟩⟩
    · intro cause
      simp only [Except.bind_eq_error_iff, reduceCtorEq, and_false, exists_false, or_false,
        Except.mapM_eq_error_iff, exists_dataCells_iff, dataCells_eq_error_iff]
  · rw [hrows]
    refine ⟨iff_of_true ⟨_, rfl⟩ ⟨hreadable, (absurd · hrejects)⟩, fun cause ↦ ?_⟩
    exact iff_of_false nofun (Or.elim · (fun h ↦ hreadable h.1) fun h ↦ hrejects h.1)
  · rw [hrows]
    refine ⟨iff_of_false nofun fun h ↦ h.1 hunreadable, fun cause ↦ ?_⟩
    constructor
    · rintro ⟨⟩
      exact .inl ⟨hunreadable, rfl⟩
    · rintro (⟨-, rfl⟩ | ⟨h, -⟩)
      · rfl
      · exact absurd h hrejects

/-- The rows of a config sheet with nothing in the place of its only data row. -/
def vacantRows : List Datum :=
  [.list [.text Markers.fileMark, .text "Item"],
    .list [.text Markers.classMark, .text "ItemConfig"],
    .list [.text "v"], .list [.text "int"], .list [.text "v"], .list [.text "sc"], .null]

/-- Nothing in the place of a row stops a classification. -/
theorem not_returns_vacantRows :
    ofRows "Items" vacantRows = .error (.notIterable .null) ∧
      ¬∀ (name : String) (rows : List Datum), ∃ outcome, ofRows name rows = .ok outcome := by
  have hvacant : ofRows "Items" vacantRows = .error (.notIterable .null) := rfl
  refine ⟨hvacant, fun h ↦ ?_⟩
  obtain ⟨outcome, houtcome⟩ := h "Items" vacantRows
  cases hvacant.symm.trans houtcome

end Classification

end ConfigTables
