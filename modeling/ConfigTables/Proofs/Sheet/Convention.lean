import ConfigTables.Proofs.Sheet.Classification

/-!
# The convention of config sheets

A tab whose rows are lists of cells is a config sheet exactly if its first six rows are as the
convention says: two marker rows, each with a label and a name (`Markers.Labels`), and four rows
that the header compiler accepts. `Conforms` says so, and says which sheet it then is.

A tab that is long enough and does not conform has one fault that counts, unless it cannot be read
(`Unreadable`), which tabs whose cells have texts always can. The marker rows are read one after the
other, and the header comes last: `Markers.FirstFault` and `FirstFault` say which fault that is, and
what has to be right for it to count. `ofRows_decides_convention` puts the two sides together.
-/

namespace ConfigTables

/-! ### Tabs -/

namespace Classification

/-- The header of a tab: its third to sixth row. -/
def headerOf (rows : List (List Datum)) : HeaderRows where
  labels := .list (rows.getD 2 [])
  types := .list (rows.getD 3 [])
  names := .list (rows.getD 4 [])
  scopes := .list (rows.getD 5 [])

/-- A tab is the given config sheet by the convention. -/
structure Conforms (rows : List (List Datum)) (sheet : Sheet) : Prop where
  markers : Markers.InRows (rows.getD 0 []) (rows.getD 1 []) sheet.markers
  columns : Header.compile (headerOf rows) = .ok sheet.columns
  dataRows : sheet.dataRows = rows.drop 6

/-- The fault that counts among those of a tab: one of the marker rows, or else one of the
header. -/
inductive FirstFault (rows : List (List Datum)) : PlacedFault → Prop where
  | markers {fault : Fault} (h : Markers.FirstFault (rows.getD 0 []) (rows.getD 1 []) fault) :
      FirstFault rows { fault }
  | header {markers : Markers} {error : PlacedFault}
      (named : Markers.InRows (rows.getD 0 []) (rows.getD 1 []) markers)
      (h : Header.compile (headerOf rows) = .error (.fault error)) : FirstFault rows error

section Tabs

variable {name : String} {rows : List (List Datum)}

theorem mapM_dataCells_list (rows : List (List Datum)) :
    (rows.map Datum.list).mapM dataCells = .ok rows := by
  rw [Except.mapM_eq_ok_iff, List.forall₂_map_left_iff]
  exact List.forall₂_same.2 fun _ _ ↦ rfl

/-- How a tab that is long enough is classified: by its marker rows and its header. -/
theorem ofRows_map_list (name : String) (h : 6 ≤ rows.length) :
    ofRows name (rows.map .list) =
      match Markers.read (.list (rows.getD 0 [])) (.list (rows.getD 1 [])) with
      | .error (.fault fault) => .ok (.rejected name (.malformed { fault }))
      | .error (.abort cause) => .error cause
      | .ok markers =>
        match Header.compile (headerOf rows) with
        | .error (.fault error) => .ok (.rejected name (.malformed error))
        | .error (.abort cause) => .error cause
        | .ok columns => .ok (.config { name, markers, columns, dataRows := rows.drop 6 }) := by
  match rows, h with
  | first :: second :: labels :: types :: names :: scopes :: data, _ =>
    simp only [List.map_cons, ofRows, mapM_dataCells_list, Except.bind_ok]
    rfl

/-- A tab that conforms is the config sheet. -/
theorem Conforms.ofRows {sheet : Sheet} (h : Conforms rows sheet) (hlong : 6 ≤ rows.length) :
    ofRows sheet.name (rows.map .list) = .ok (.config sheet) := by
  rw [ofRows_map_list _ hlong, Markers.read_eq_ok_iff.2 h.markers]
  simp only [h.columns, ← h.dataRows]

/-- A fault that counts is the one that a tab is rejected for. -/
theorem FirstFault.ofRows {error : PlacedFault} (h : FirstFault rows error) (name : String)
    (hlong : 6 ≤ rows.length) :
    ofRows name (rows.map .list) = .ok (.rejected name (.malformed error)) := by
  rw [ofRows_map_list _ hlong]
  cases h with
  | markers h => rw [Markers.read_eq_fault_iff.2 h]
  | header named h =>
    rw [Markers.read_eq_ok_iff.2 named]
    simp only [h]

/-- The data rows of such a tab all have cells, so only an unreadable tab is given up. -/
theorem unreadable_of_ofRows_map_list {cause : Abort}
    (h : ofRows name (rows.map .list) = .error cause) : Unreadable (rows.map .list) := by
  obtain ⟨-, -, sheet, hrows⟩ | ⟨-, -, rejection, hrows⟩ | ⟨-, hunreadable, -⟩ :=
    ofRows_cases name (rows.map .list)
  · rw [hrows, ← List.map_drop, mapM_dataCells_list] at h
    cases h
  · cases hrows.symm.trans h
  · exact hunreadable

/-- A tab conforms, or it has a fault that counts, or it cannot be read. -/
theorem conforms_or_firstFault (name : String) (hlong : 6 ≤ rows.length) :
    (∃ sheet : Sheet, sheet.name = name ∧ Conforms rows sheet) ∨ (∃ error, FirstFault rows error) ∨
      Unreadable (rows.map .list) := by
  have hofRows := ofRows_map_list name hlong
  rcases hmarkers : Markers.read (.list (rows.getD 0 [])) (.list (rows.getD 1 [])) with
    (fault | cause) | markers
  · exact .inr (.inl ⟨_, .markers (Markers.read_eq_fault_iff.1 hmarkers)⟩)
  · rw [hmarkers] at hofRows
    exact .inr (.inr (unreadable_of_ofRows_map_list hofRows))
  · have hnamed := Markers.read_eq_ok_iff.1 hmarkers
    rcases hheader : Header.compile (headerOf rows) with (error | cause) | columns
    · exact .inr (.inl ⟨error, .header hnamed hheader⟩)
    · rw [hmarkers] at hofRows
      simp only [hheader] at hofRows
      exact .inr (.inr (unreadable_of_ofRows_map_list hofRows))
    · exact .inl ⟨{ name, markers, columns, dataRows := rows.drop 6 }, rfl, hnamed, hheader, rfl⟩

/-- A tab is plain data exactly if it is too short for the convention. -/
theorem ofRows_not_config_iff :
    (∃ rejection, ofRows name (rows.map .list) = .ok (.rejected name rejection) ∧
      rejection.label = "not_config" ∧ rejection.error? = none) ↔ rows.length < 6 := by
  rcases Nat.lt_or_ge rows.length 6 with hshort | hlong
  · refine iff_of_true ⟨_, ofRows_of_length_lt ?_, rfl, rfl⟩ hshort
    rwa [List.length_map]
  · refine iff_of_false ?_ (Nat.not_lt.2 hlong)
    rintro ⟨rejection, hrows, -, herror⟩
    obtain ⟨hshort, -⟩ | ⟨-, error, rfl⟩ := rejection_of_ofRows hrows
    · rw [List.length_map] at hshort
      exact Nat.not_lt.2 hlong hshort
    · cases herror

/-- A tab is a config sheet exactly if it is long enough and conforms. -/
theorem ofRows_eq_config_iff {sheet : Sheet} :
    ofRows name (rows.map .list) = .ok (.config sheet) ↔
      6 ≤ rows.length ∧ sheet.name = name ∧ Conforms rows sheet := by
  constructor
  · intro hrows
    have hlong : 6 ≤ rows.length := by
      by_contra hshort
      rw [ofRows_of_length_lt (by rwa [List.length_map, ← Nat.not_le])] at hrows
      cases hrows
    obtain ⟨found, hname, h⟩ | ⟨error, h⟩ | h := conforms_or_firstFault name hlong
    · have hfound := h.ofRows hlong
      rw [hname, hrows] at hfound
      cases hfound
      exact ⟨hlong, hname, h⟩
    · cases hrows.symm.trans (h.ofRows name hlong)
    · cases hrows.symm.trans (h.ofRows name)
  · rintro ⟨hlong, rfl, h⟩
    exact h.ofRows hlong

/-- Only one fault counts. -/
theorem FirstFault.unique {error other : PlacedFault} (h : FirstFault rows error)
    (h' : FirstFault rows other) (hlong : 6 ≤ rows.length) : other = error := by
  cases (h.ofRows "" hlong).symm.trans (h'.ofRows "" hlong)
  rfl

end Tabs

/-- **Config sheets**: for every tab of rows that are lists of cells,
* it is plain data exactly if it has fewer than six rows, and then there is no error;
* it is a config sheet exactly if it has six rows and conforms, and then it is that sheet, whose
  file name has no white space at either end;
* in all other cases it is malformed, for the one fault that counts, whose text and column are the
  reason and the column of the rejection, provided that it can be read;
* it can be read if all cells of its first six rows have texts. -/
theorem ofRows_decides_convention (name : String) (rows : List (List Datum)) :
    ((∃ rejection, ofRows name (rows.map .list) = .ok (.rejected name rejection) ∧
        rejection.label = "not_config" ∧ rejection.error? = none) ↔ rows.length < 6) ∧
    (∀ sheet, ofRows name (rows.map .list) = .ok (.config sheet) ↔
      6 ≤ rows.length ∧ sheet.name = name ∧ Conforms rows sheet) ∧
    (∀ sheet, Conforms rows sheet → ∀ c, sheet.markers.fileName.toList.head? = some c ∨
      sheet.markers.fileName.toList.getLast? = some c → Text.isBlankChar c = false) ∧
    (6 ≤ rows.length → (∀ sheet, ¬Conforms rows sheet) → ¬Unreadable (rows.map .list) →
      ∃ rejection error, ofRows name (rows.map .list) = .ok (.rejected name rejection) ∧
        rejection.label = "malformed" ∧ rejection.error? = some error ∧
        FirstFault rows error ∧ (∀ other, FirstFault rows other → other = error) ∧
        rejection.reason = error.text ∧ rejection.column? = error.column) ∧
    ((∀ row ∈ rows.take 6, ∀ cell ∈ row, cell.HasText) → ¬Unreadable (rows.map .list)) := by
  refine ⟨ofRows_not_config_iff, fun sheet ↦ ofRows_eq_config_iff, fun sheet h c hc ↦ ?_,
    fun hlong hnone hreadable ↦ ?_, fun htexts hunreadable ↦ ?_⟩
  · obtain ⟨key, second, rest, s, t, -, -, -, -, hvalue⟩ := h.markers.fileName
    rw [← hvalue, Text.trim, String.toList_ofList] at hc
    exact hc.elim Text.isBlankChar_of_head?_trimChars Text.isBlankChar_of_getLast?_trimChars
  · obtain ⟨sheet, -, h⟩ | ⟨error, h⟩ | h := conforms_or_firstFault name hlong
    · exact absurd h (hnone sheet)
    · exact ⟨_, error, h.ofRows name hlong, rfl, rfl, h, fun other h' ↦ h.unique h' hlong, rfl, rfl⟩
    · exact absurd h hreadable
  · -- A row has a text if its cells do.
    obtain ⟨row, hmem, htextless⟩ := hunreadable.exists_not_hasText
    rw [← List.map_take] at hmem
    obtain ⟨cells, hcells, rfl⟩ := List.mem_map.1 hmem
    exact htextless (Datum.hasText_list_iff.2 (htexts cells hcells))

/-- White space in a label and around the names does not matter. -/
example : Markers.read (.list [.text " 文件 名： ", .text "  Item  "])
    (.list [.text "类名：\n", .text " ItemConfig "]) = .ok ⟨"Item", "ItemConfig"⟩ := by
  rfl

end Classification

end ConfigTables
