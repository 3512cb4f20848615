import ConfigTables.Proofs.Text.Split
import ConfigTables.Value.Conversion
import ConfigTables.Value.Delimiter

/-!
# The elements of an array cell

A cell that is not blank is split at the delimiter and its pieces are trimmed. What comes out are
`Parts`: trimmed texts without the delimiter in them, which joined again do not look like a blank
cell. If the delimiter does not overlap with itself, all `Parts` come out of some cell, namely of
their join (`elements_intercalate`), so writing an array and reading it are inverse to each other.

With a delimiter that overlaps with itself a join may be split elsewhere than where it was joined.
-/

namespace ConfigTables

theorem Delimiter.toList_text_ne_nil (delimiter : Delimiter) : delimiter.text.toList ≠ [] := by
  rw [Ne, String.toList_eq_nil_iff]
  exact delimiter.text_ne

namespace Value

/-- Texts that can be the elements of an array cell. -/
structure Parts (delimiter : String) (parts : List String) : Prop where
  nonempty : parts ≠ []
  trimmed : ∀ part ∈ parts, Text.trim part = part
  /-- No element contains the delimiter. -/
  free : ∀ part ∈ parts, ¬delimiter.toList <:+: part.toList
  /-- A cell with these elements is not blank. -/
  visible : Text.isBlank (delimiter.intercalate parts) = false

theorem trim_trim (s : String) : Text.trim (Text.trim s) = Text.trim s := by
  simp [Text.trim]

theorem trim_infix (s : String) : (Text.trim s).toList <:+: s.toList := by
  obtain ⟨before, after, -, -, heq⟩ := Text.padded_trimChars s.toList
  rw [Text.trim, String.toList_ofList]
  exact ⟨before, after, heq.symm⟩

/-- The join of the trimmed pieces of a text is blank only if the text is. -/
theorem isBlank_intercalate_split (delimiter : Delimiter) (s : String) :
    Text.isBlank (delimiter.text.intercalate ((Text.split delimiter.text s).map Text.trim)) =
      Text.isBlank s := by
  have htexts : ((Text.split delimiter.text s).map Text.trim).map String.toList =
      (Text.splitChars delimiter.text.toList s.toList).map Text.trimChars := by
    simp [Text.split, Text.trim]
  rw [Text.isBlank, String.toList_intercalate, htexts, Text.all_isBlankChar_intercalate_trimChars,
    Text.intercalate_splitChars delimiter.toList_text_ne_nil, Text.isBlank]

/-- The trimmed pieces of a text that is not blank can be elements. -/
theorem parts_split (delimiter : Delimiter) {s : String} (h : Text.isBlank s = false) :
    Parts delimiter.text ((Text.split delimiter.text s).map Text.trim) where
  nonempty := by
    simpa [Text.split] using Text.splitChars_ne_nil delimiter.toList_text_ne_nil s.toList
  trimmed part hpart := by
    obtain ⟨piece, -, rfl⟩ := List.mem_map.1 hpart
    exact trim_trim piece
  free part hpart := by
    obtain ⟨piece, hpiece, rfl⟩ := List.mem_map.1 hpart
    obtain ⟨cs, hcs, rfl⟩ := List.mem_map.1 hpiece
    have hfree := Text.not_infix_of_mem_splitChars delimiter.toList_text_ne_nil hcs
    have hwithin := trim_infix (String.ofList cs)
    rw [String.toList_ofList] at hwithin
    exact fun hinside ↦ hfree (hinside.trans hwithin)
  visible := by rw [isBlank_intercalate_split, h]

/-- What the elements of a cell that holds a text or nothing are. -/
theorem elements_ofCell (delimiter : Delimiter) (cell : Option String) :
    elements delimiter.text (.ofCell cell) =
      .ok (if (Datum.ofCell cell).isBlank then []
        else (Text.split delimiter.text (cell.getD "")).map Text.trim) := by
  rw [elements, if_neg delimiter.text_ne]
  cases cell with
  | none => rfl
  | some s => split <;> rfl

/-- The elements of a cell are none or can be the elements of one. -/
theorem parts_of_elements {delimiter : Delimiter} {cell : Option String} {parts : List String}
    (h : elements delimiter.text (.ofCell cell) = .ok parts) :
    (parts = [] ∧ (Datum.ofCell cell).isBlank = true) ∨
      (Parts delimiter.text parts ∧ (Datum.ofCell cell).isBlank = false) := by
  rw [elements_ofCell] at h
  obtain rfl := Except.ok.inj h
  cases hblank : (Datum.ofCell cell).isBlank with
  | true => exact .inl ⟨rfl, rfl⟩
  | false =>
    cases cell with
    | none => cases hblank
    | some s => exact .inr ⟨parts_split delimiter hblank, rfl⟩

/-- The pieces of the join of elements are the elements. -/
theorem split_intercalate {delimiter : Delimiter} {parts : List String}
    (hunbordered : Text.Unbordered delimiter.text.toList) (h : Parts delimiter.text parts) :
    Text.split delimiter.text (delimiter.text.intercalate parts) = parts := by
  rw [Text.split, String.toList_intercalate, hunbordered.splitChars_intercalate
    delimiter.toList_text_ne_nil (by simpa using h.nonempty) (by simpa using h.free)]
  simp

/-- **Reading what was written**: the elements of the join of elements are these. -/
theorem elements_intercalate {delimiter : Delimiter} {parts : List String}
    (hunbordered : Text.Unbordered delimiter.text.toList) (h : Parts delimiter.text parts) :
    elements delimiter.text (.text (delimiter.text.intercalate parts)) = .ok parts := by
  have hvisible : (Datum.ofCell (some (delimiter.text.intercalate parts))).isBlank = false :=
    h.visible
  rw [← Datum.ofCell_some, elements_ofCell, hvisible, if_neg Bool.false_ne_true]
  rw [Option.getD_some, split_intercalate hunbordered h]
  rw [List.map_congr_left h.trimmed, List.map_id']

/-- **Elements of array cells**: a cell that holds a text or nothing has no elements exactly if it
is blank, and otherwise `Parts`. If the delimiter does not overlap with itself, all `Parts` are the
elements of their join, so reading, joining and reading again is as good as reading once. No
delimiter of a single character overlaps with itself. -/
theorem elements_inverts_intercalate (delimiter : Delimiter) :
    (∀ cell : Option String, ∃ parts, elements delimiter.text (.ofCell cell) = .ok parts ∧
      (parts = [] ↔ (Datum.ofCell cell).isBlank = true) ∧
      (parts ≠ [] → Parts delimiter.text parts)) ∧
    (Text.Unbordered delimiter.text.toList →
      (∀ parts, Parts delimiter.text parts →
        elements delimiter.text (.text (delimiter.text.intercalate parts)) = .ok parts) ∧
      ∀ (cell : Option String) (parts : List String),
        elements delimiter.text (.ofCell cell) = .ok parts →
        elements delimiter.text (.text (delimiter.text.intercalate parts)) = .ok parts) ∧
    ∀ c, delimiter.text = String.singleton c → Text.Unbordered delimiter.text.toList := by
  refine ⟨fun cell ↦ ⟨_, elements_ofCell delimiter cell, ?_⟩, fun hunbordered ↦
    ⟨fun parts ↦ elements_intercalate hunbordered, fun cell parts hcell ↦ ?_⟩, fun c hc ↦ ?_⟩
  · rcases parts_of_elements (elements_ofCell delimiter cell) with ⟨hnil, hblank⟩ | ⟨h, hblank⟩
    · exact ⟨iff_of_true hnil hblank, fun hne ↦ absurd hnil hne⟩
    · exact ⟨iff_of_false h.nonempty (by simp [hblank]), fun _ ↦ h⟩
  · rcases parts_of_elements hcell with ⟨rfl, -⟩ | ⟨h, -⟩
    · -- The join of no elements is the empty text, which is blank.
      rw [String.intercalate_nil]
      exact elements_ofCell delimiter (some "")
    · exact elements_intercalate hunbordered h
  · rw [hc, String.toList_singleton]
    exact Text.unbordered_singleton c

/-- A delimiter that overlaps with itself is found too early. -/
example : elements "aa" (.text ("aa".intercalate ["b", "a", "b"])) = .ok ["b", "", "ab"] := by
  rfl

end Value

end ConfigTables
