import ConfigTables.Proofs.Column.Grammar
import ConfigTables.Sheet.Markers

/-!
# What marker rows say

A marker row that is a list of cells names something under a label (`Markers.Labels`) or has a fault
(`Markers.RowFault`). The two rows are read one after the other, so of their faults the first one
counts: `Markers.FirstFault` says which one that is, and `Markers.InRows` what has to be right so
that there is none.

All of this is about texts. A row that is no list is shown in a message, and the two cells that
count are put into texts, so there is an abort in place of all answers where one of them has none
(`Markers.Textless`).
-/

namespace ConfigTables.Markers

/-- A row has a label in its first cell, white space aside, and a name in its second. -/
def Labels (label : String) (cells : List Datum) (value : String) : Prop :=
  ∃ key second rest s t, cells = key :: second :: rest ∧ key.cellText? = some s ∧
    Text.squeeze s = label ∧ second.cellText? = some t ∧ Text.trim t = value

/-- The fault of a row that names nothing under a label. -/
inductive RowFault (line : Nat) (label : String) : List Datum → Fault → Prop where
  | tooShort {cells : List Datum} (h : cells.length < 2) :
      RowFault line label cells (.markerTooShort line cells.length)
  | withoutLabel {key second : Datum} {rest : List Datum} {s : String}
      (text : key.cellText? = some s) (h : Text.squeeze s ≠ label) :
      RowFault line label (key :: second :: rest) (.markerWithoutLabel line label)

/-- What is to be put into a text has none: a row that is no list, the first cell of a row, or its
second one behind the label. -/
inductive Textless (label : String) : Datum → Prop where
  | row {row : Datum} (notList : ∀ cells, row ≠ .list cells) (textless : ¬row.HasText) :
      Textless label row
  | key {key second : Datum} {rest : List Datum} (textless : ¬key.HasText) :
      Textless label (.list (key :: second :: rest))
  | value {key second : Datum} {rest : List Datum} {s : String} (text : key.cellText? = some s)
      (labelled : Text.squeeze s = label) (textless : ¬second.HasText) :
      Textless label (.list (key :: second :: rest))

/-- Two rows name a file and a class. -/
structure InRows (first second : List Datum) (markers : Markers) : Prop where
  fileName : Labels fileMark first markers.fileName
  fileName_ne : markers.fileName ≠ ""
  className : Labels classMark second markers.className
  className_form : Name.Form markers.className.toList

/-- The fault that counts among those of the two marker rows. -/
inductive FirstFault (first second : List Datum) : Fault → Prop where
  | firstRow {fault : Fault} (h : RowFault 0 fileMark first fault) : FirstFault first second fault
  | fileName (h : Labels fileMark first "") : FirstFault first second .fileNameEmpty
  | secondRow {fileName : String} {fault : Fault} (file : Labels fileMark first fileName)
      (named : fileName ≠ "") (h : RowFault 1 classMark second fault) :
      FirstFault first second fault
  | className {fileName className : String} (file : Labels fileMark first fileName)
      (named : fileName ≠ "") (h : Labels classMark second className)
      (form : ¬Name.Form className.toList) : FirstFault first second (.classNameInvalid className)

variable {line : Nat} {label value : String} {cells first second : List Datum} {fault : Fault}
  {cause : Abort}

/-! ### One row -/

/-- A row with two cells is read from them. -/
theorem markerValue_cons (line : Nat) (label : String) (key second : Datum) (rest : List Datum) :
    markerValue line label (.list (key :: second :: rest)) = (do
      let s ← Failure.readCell key
      if Text.squeeze s = label then
        let t ← Failure.readCell second
        return Text.trim t
      else .error (.fault (.markerWithoutLabel line label))) :=
  rfl

/-- A row has a value just if its first cell is the label. -/
theorem markerValue_eq_ok_iff :
    markerValue line label (.list cells) = .ok value ↔ Labels label cells value := by
  constructor
  · intro h
    rcases cells with _ | ⟨key, _ | ⟨second, rest⟩⟩
    · cases h
    · cases h
    · rw [markerValue_cons] at h
      obtain ⟨s, hs, h⟩ := Except.bind_eq_ok_iff.1 h
      split_ifs at h with hlabel
      obtain ⟨t, ht, h⟩ := Except.bind_eq_ok_iff.1 h
      exact ⟨key, second, rest, s, t, rfl, Failure.readCell_eq_ok_iff.1 hs, hlabel,
        Failure.readCell_eq_ok_iff.1 ht, Except.ok.inj h⟩
  · rintro ⟨key, second, rest, s, t, rfl, hs, hlabel, ht, rfl⟩
    refine Except.bind_eq_ok_iff.2 ⟨s, Failure.readCell_eq_ok_iff.2 hs, ?_⟩
    rw [if_pos hlabel]
    exact Except.bind_eq_ok_iff.2 ⟨t, Failure.readCell_eq_ok_iff.2 ht, rfl⟩

/-- A list of cells is at fault as a row without a name is. -/
theorem markerValue_eq_fault_iff :
    markerValue line label (.list cells) = .error (.fault fault) ↔
      RowFault line label cells fault := by
  constructor
  · intro h
    rcases cells with _ | ⟨key, _ | ⟨second, rest⟩⟩
    · cases h
      exact .tooShort (by decide)
    · cases h
      exact .tooShort (by simp)
    · -- Putting a cell into a text gives no fault, so this one is about the label.
      rw [markerValue_cons] at h
      rcases Except.bind_eq_error_iff.1 h with h | ⟨s, hs, h⟩
      · cases (Failure.readCell_eq_error_iff.1 h).2
      split_ifs at h with hlabel
      · rcases Except.bind_eq_error_iff.1 h with h | ⟨t, -, h⟩
        · cases (Failure.readCell_eq_error_iff.1 h).2
        · cases h
      · cases h
        exact .withoutLabel (Failure.readCell_eq_ok_iff.1 hs) hlabel
  · rintro (hshort | ⟨hs, hlabel⟩)
    · match cells, hshort with
      | [], _ => rfl
      | [_], _ => rfl
    · refine Except.bind_eq_error_iff.2 (.inr ⟨_, Failure.readCell_eq_ok_iff.2 hs, ?_⟩)
      exact if_neg hlabel

/-- A row that is no list is shown in a message. -/
theorem markerValue_of_notList {row : Datum} (h : ∀ cells, row ≠ .list cells) :
    markerValue line label row = .error (.quoting row (.markerNotList line)) := by
  cases row with
  | list cells => exact absurd rfl (h cells)
  | _ => rfl

/-- Only a row in which something has no text is given up. -/
theorem markerValue_eq_abort_iff {row : Datum} :
    markerValue line label row = .error (.abort cause) ↔
      Textless label row ∧ cause = .tooManyDigits := by
  by_cases hlist : ∀ cells, row ≠ .list cells
  · rw [markerValue_of_notList hlist, Except.error.injEq, Failure.quoting_eq_abort_iff]
    refine and_congr_left' ⟨.row hlist, fun h ↦ ?_⟩
    cases h with
    | row _ textless => exact textless
    | key => exact absurd rfl (hlist _)
    | value => exact absurd rfl (hlist _)
  -- In a list, the first cell is asked for its text, and the second only behind the label.
  push Not at hlist
  obtain ⟨cells, rfl⟩ := hlist
  constructor
  · intro h
    rcases cells with _ | ⟨key, _ | ⟨second, rest⟩⟩
    · cases h
    · cases h
    rw [markerValue_cons] at h
    rcases Except.bind_eq_error_iff.1 h with h | ⟨s, hs, h⟩
    · obtain ⟨textless, hcause⟩ := Failure.readCell_eq_error_iff.1 h
      cases hcause
      exact ⟨.key textless, rfl⟩
    split_ifs at h with hlabel
    · rcases Except.bind_eq_error_iff.1 h with h | ⟨t, -, h⟩
      · obtain ⟨textless, hcause⟩ := Failure.readCell_eq_error_iff.1 h
        cases hcause
        exact ⟨.value (Failure.readCell_eq_ok_iff.1 hs) hlabel textless, rfl⟩
      · cases h
    · cases h
  · rintro ⟨h, rfl⟩
    cases h with
    | row notList => exact absurd rfl (notList cells)
    | key textless =>
      exact Except.bind_eq_error_iff.2 (.inl (Failure.readCell_eq_error_iff.2 ⟨textless, rfl⟩))
    | value text labelled textless =>
      refine Except.bind_eq_error_iff.2 (.inr ⟨_, Failure.readCell_eq_ok_iff.2 text, ?_⟩)
      rw [if_pos labelled]
      exact Except.bind_eq_error_iff.2 (.inl (Failure.readCell_eq_error_iff.2 ⟨textless, rfl⟩))

/-- A row that is textless has no text itself, whatever in it has none. -/
theorem Textless.not_hasText {row : Datum} (h : Textless label row) : ¬row.HasText := by
  cases h with
  | row _ textless => exact textless
  | key textless => exact fun h ↦ textless (Datum.hasText_list_iff.1 h _ (by simp))
  | value _ _ textless => exact fun h ↦ textless (Datum.hasText_list_iff.1 h _ (by simp))

/-! ### The names of the file and the class -/

/-- A file name is read just where a row labels one that is not empty. -/
theorem readFileName_eq_ok_iff :
    readFileName (.list first) = .ok value ↔ Labels fileMark first value ∧ value ≠ "" := by
  rw [readFileName, Except.bind_eq_ok_iff]
  simp only [markerValue_eq_ok_iff]
  constructor
  · rintro ⟨found, hfound, h⟩
    split_ifs at h with hempty
    cases h
    exact ⟨hfound, hempty⟩
  · rintro ⟨hfound, hne⟩
    exact ⟨value, hfound, if_neg hne⟩

theorem readFileName_eq_fault_iff :
    readFileName (.list first) = .error (.fault fault) ↔
      RowFault 0 fileMark first fault ∨ Labels fileMark first "" ∧ fault = .fileNameEmpty := by
  rw [readFileName, Except.bind_eq_error_iff]
  simp only [markerValue_eq_ok_iff, markerValue_eq_fault_iff]
  refine or_congr_right ?_
  constructor
  · rintro ⟨found, hfound, h⟩
    split_ifs at h with hempty
    cases h
    exact ⟨hempty ▸ hfound, rfl⟩
  · rintro ⟨hfound, rfl⟩
    exact ⟨"", hfound, rfl⟩

theorem readFileName_eq_abort_iff {row : Datum} :
    readFileName row = .error (.abort cause) ↔
      Textless fileMark row ∧ cause = .tooManyDigits := by
  rw [readFileName, Except.bind_eq_error_iff, markerValue_eq_abort_iff]
  refine or_iff_left ?_
  rintro ⟨found, -, h⟩
  split_ifs at h
  cases h

/-- A class name is read just where a row labels one that is a name. -/
theorem readClassName_eq_ok_iff :
    readClassName (.list second) = .ok value ↔
      Labels classMark second value ∧ Name.Form value.toList := by
  rw [readClassName, Except.bind_eq_ok_iff]
  simp only [markerValue_eq_ok_iff]
  constructor
  · rintro ⟨found, hfound, h⟩
    split_ifs at h with hvalid
    cases h
    exact ⟨hfound, Name.isValid_iff.1 hvalid⟩
  · rintro ⟨hfound, hform⟩
    exact ⟨value, hfound, if_pos (Name.isValid_iff.2 hform)⟩

/-- A row for the class is at fault as such, or in the name that it labels. -/
theorem readClassName_eq_fault_iff :
    readClassName (.list second) = .error (.fault fault) ↔ RowFault 1 classMark second fault ∨
      ∃ className, Labels classMark second className ∧ ¬Name.Form className.toList ∧
        fault = .classNameInvalid className := by
  rw [readClassName, Except.bind_eq_error_iff]
  simp only [markerValue_eq_ok_iff, markerValue_eq_fault_iff]
  refine or_congr_right (exists_congr fun className ↦ and_congr_right fun _ ↦ ?_)
  rw [← Name.isValid_iff]
  by_cases hvalid : Name.isValid className = true
  · rw [if_pos hvalid]
    exact iff_of_false nofun fun h ↦ h.1 hvalid
  · rw [if_neg hvalid, Except.error.injEq, Failure.fault.injEq, eq_comm]
    exact (and_iff_right hvalid).symm

theorem readClassName_eq_abort_iff {row : Datum} :
    readClassName row = .error (.abort cause) ↔
      Textless classMark row ∧ cause = .tooManyDigits := by
  rw [readClassName, Except.bind_eq_error_iff, markerValue_eq_abort_iff]
  refine or_iff_left ?_
  rintro ⟨found, -, h⟩
  split_ifs at h
  cases h

/-! ### Both rows -/

/-- The rows are read if they name a file and a class. -/
theorem read_eq_ok_iff {markers : Markers} :
    Markers.read (.list first) (.list second) = .ok markers ↔ InRows first second markers := by
  rw [Markers.read, Except.bind_eq_ok_iff]
  simp only [Except.bind_eq_ok_iff, readFileName_eq_ok_iff, readClassName_eq_ok_iff]
  constructor
  · rintro ⟨fileName, ⟨hfile, hne⟩, className, ⟨hclass, hform⟩, heq⟩
    cases heq
    exact ⟨hfile, hne, hclass, hform⟩
  · rintro ⟨hfile, hne, hclass, hform⟩
    exact ⟨_, ⟨hfile, hne⟩, _, ⟨hclass, hform⟩, rfl⟩

/-- Otherwise reading stops at the first fault. -/
theorem read_eq_fault_iff :
    Markers.read (.list first) (.list second) = .error (.fault fault) ↔
      FirstFault first second fault := by
  rw [Markers.read, Except.bind_eq_error_iff]
  simp only [Except.bind_eq_error_iff, readFileName_eq_ok_iff, readFileName_eq_fault_iff,
    readClassName_eq_fault_iff]
  constructor
  · rintro ((h | ⟨h, rfl⟩) | ⟨fileName, ⟨hfile, hne⟩, (h | ⟨className, hclass, hform, rfl⟩) | h⟩)
    · exact .firstRow h
    · exact .fileName h
    · exact .secondRow hfile hne h
    · exact .className hfile hne hclass hform
    · obtain ⟨className, -, h⟩ := h
      cases h
  · intro h
    cases h with
    | firstRow h => exact .inl (.inl h)
    | fileName h => exact .inl (.inr ⟨h, rfl⟩)
    | secondRow hfile hne h => exact .inr ⟨_, ⟨hfile, hne⟩, .inl (.inl h)⟩
    | className hfile hne hclass hform =>
      exact .inr ⟨_, ⟨hfile, hne⟩, .inl (.inr ⟨_, hclass, hform, rfl⟩)⟩

/-- Reading stops for good at a row that is textless, the second one only behind a file name. -/
theorem read_eq_abort_iff {first second : Datum} :
    Markers.read first second = .error (.abort cause) ↔
      (Textless fileMark first ∨
        (∃ fileName, readFileName first = .ok fileName) ∧ Textless classMark second) ∧
        cause = .tooManyDigits := by
  rw [Markers.read, Except.bind_eq_error_iff, readFileName_eq_abort_iff]
  have hsecond (fileName : String) :
      ((do
        let className ← readClassName second
        return ({ fileName, className } : Markers)) : Except (Failure Fault) Markers) =
          .error (.abort cause) ↔ Textless classMark second ∧ cause = .tooManyDigits := by
    rw [Except.bind_eq_error_iff, readClassName_eq_abort_iff]
    refine or_iff_left ?_
    rintro ⟨className, -, h⟩
    cases h
  simp only [hsecond]
  tauto

end ConfigTables.Markers
