import ConfigTables.Fault

/-!
# Which data have texts

A datum has no text if an integer with too many digits is in it, however deep: a list has a text
exactly if its items do (`Datum.hasText_list_iff`), and an object exactly if its values do
(`Datum.hasText_object_iff`). Wherever a message or a cell asks for the text of a datum, that is the
only thing that can go wrong, and it ends the operation (`Failure.quoting_eq_abort_iff`,
`Failure.readCell_eq_error_iff`).
-/

namespace ConfigTables

namespace Datum

variable {d : Datum}

theorem text?_eq_none_iff : d.text? = none ↔ ¬d.HasText := by
  rw [← isSome_text?_iff, Option.not_isSome_iff_eq_none]

theorem cellText?_eq_none_iff : d.cellText? = none ↔ ¬d.HasText := by
  rw [← isSome_cellText?_iff, Option.not_isSome_iff_eq_none]

/-- Items are shown together exactly if each of them can be shown. -/
theorem isSome_displayItems?_iff {items : List Datum} :
    (displayItems? items).isSome = true ↔ ∀ d ∈ items, d.HasText := by
  induction items with
  | nil => simp [displayItems?]
  | cons d items ih =>
    rw [displayItems?, List.forall_mem_cons, ← ih, HasText]
    rcases d.display? <;> simp

/-- Entries are shown together exactly if each of their values can be shown. -/
theorem isSome_displayEntries?_iff {entries : List (String × Datum)} :
    (displayEntries? entries).isSome = true ↔ ∀ entry ∈ entries, entry.2.HasText := by
  induction entries with
  | nil => simp [displayEntries?]
  | cons entry entries ih =>
    rw [displayEntries?, List.forall_mem_cons, ← ih, HasText]
    rcases entry.2.display? <;> simp

/-- A list has a text exactly if all its items have one. -/
theorem hasText_list_iff {items : List Datum} :
    (Datum.list items).HasText ↔ ∀ d ∈ items, d.HasText := by
  rw [HasText, display?, Option.isSome_map, isSome_displayItems?_iff]

/-- A row of cells that hold texts or nothing has a text. -/
theorem hasText_list_map_ofCell (cells : List (Option String)) :
    (Datum.list (cells.map .ofCell)).HasText :=
  hasText_list_iff.2 (List.forall_mem_map.2 fun cell _ ↦ hasText_ofCell cell)

/-- An object has a text exactly if all its values have one. -/
theorem hasText_object_iff {entries : List (String × Datum)} :
    (Datum.object entries).HasText ↔ ∀ entry ∈ entries, entry.2.HasText := by
  rw [HasText, display?, Option.isSome_map, isSome_displayEntries?_iff]

end Datum

namespace Failure

variable {found : Datum} {toFault : String → Fault}

/-- A message with a datum in it shows the datum. -/
theorem quoting_eq_fault_iff {fault : Fault} :
    quoting found toFault = .fault fault ↔ ∃ shown, found.display? = some shown ∧
      toFault shown = fault := by
  rw [quoting]
  rcases found.display? <;> simp

/-- Only a datum without a text puts an abort in place of a message. -/
theorem quoting_eq_abort_iff {cause : Abort} :
    quoting found toFault = .abort cause ↔ ¬found.HasText ∧ cause = .tooManyDigits := by
  rw [quoting, Datum.HasText]
  rcases found.display? <;> simp [eq_comm]

theorem readCell_eq_ok_iff {ε : Type} {cell : Datum} {text : String} :
    (readCell cell : Except (Failure ε) String) = .ok text ↔ cell.cellText? = some text := by
  rw [readCell]
  rcases cell.cellText? <;> simp

/-- Only a cell without a text cannot be read as one. -/
theorem readCell_eq_error_iff {ε : Type} {cell : Datum} {failure : Failure ε} :
    (readCell cell : Except (Failure ε) String) = .error failure ↔
      ¬cell.HasText ∧ failure = .abort .tooManyDigits := by
  rw [readCell, ← Datum.isSome_cellText?_iff]
  rcases cell.cellText? <;> simp [eq_comm]

/-- A place is no cause of an abort. -/
theorem placed_eq_abort_iff {failure : Failure Fault} {column row : Option Int} {cause : Abort} :
    failure.placed column row = .abort cause ↔ failure = .abort cause := by
  cases failure <;> simp [placed]

end Failure

end ConfigTables
