import ConfigTables.Proofs.Programs
import ConfigTables.Report.Basic

/-!
# The books of a report

The fields of an entry may hold anything. Which of them make an entry, and which one, is said here
without the checks: `EntryFields.Fits` gives for each field what it has to hold, and the checks
accept exactly the fields that fit (`ReportEntry.ofFields_eq_ok_iff`).

A report is entered into step by step. A step appends one entry or fails and changes nothing
(`Report.enter_cases`), so what a sequence of steps leaves are the entries of those that fit, in
their order (`Report.entered_after`). The counts of a report add up to its entries because every
status is counted once (`Report.count_add_count_add_failures`). `Report.keeps_books` puts this
together for all sequences of steps.
-/

namespace ConfigTables

/-! ### Fields that fit -/

namespace Field

variable {field : String} {value : Datum}

/-- The texts that a field of texts holds: none if it is null, and otherwise those in a list or the
names in an object. -/
inductive Texts : Datum → List String → Prop where
  | null : Texts .null []
  | list (texts : List String) : Texts (.list (texts.map .text)) texts
  | names (entries : List (String × Datum)) : Texts (.object entries) (entries.map Prod.fst)

/-- A status is read just from the word for it. -/
theorem readStatus_eq_ok_iff {status : SheetStatus} :
    readStatus value = .ok status ↔ value = .text status.name := by
  constructor
  · intro h
    unfold readStatus at h
    split at h
    · split at h
      · next word found hfound =>
        cases h
        have hname := List.find?_some hfound
        rw [beq_iff_eq] at hname
        rw [hname]
      · cases h
    · cases h
  · rintro rfl
    simp [readStatus, SheetStatus.ofName?_name]

/-- A count is read just from an integer that is not negative. -/
theorem readCount_eq_ok_iff {n : Nat} : readCount field value = .ok n ↔ value = .int n := by
  constructor
  · intro h
    unfold readCount at h
    split at h
    · next m =>
      split_ifs at h with hnegative
      cases h
      rw [Int.toNat_of_nonneg (Int.not_lt.1 hnegative)]
    · cases h
  · rintro rfl
    exact readCount_int

theorem textItems_eq_ok_iff {items : List Datum} {texts : List String} :
    textItems field items = .ok texts ↔ items = texts.map .text := by
  induction items generalizing texts with
  | nil => cases texts <;> simp [textItems]
  | cons item items ih =>
    cases item with
    | text s =>
      rw [textItems, Except.map_eq_ok_iff]
      constructor
      · rintro ⟨rest, hrest, rfl⟩
        rw [ih.1 hrest, List.map_cons]
      · intro h
        obtain ⟨first, rest, rfl, hfirst, hrest⟩ := List.map_eq_cons_iff.1 h.symm
        cases hfirst
        exact ⟨rest, ih.2 hrest.symm, rfl⟩
    | _ => cases texts <;> simp [textItems]

/-- Texts are read just from what stands for a list of them. -/
theorem readTexts_eq_ok_iff {texts : List String} :
    readTexts field value = .ok texts ↔ Texts value texts := by
  cases value with
  | null =>
    constructor
    · intro h
      cases h
      exact .null
    · rintro ⟨⟩
      rfl
  | list items =>
    refine textItems_eq_ok_iff.trans ⟨?_, ?_⟩
    · rintro rfl
      exact .list texts
    · rintro ⟨⟩
      rfl
  | object entries =>
    -- Going through an object gives its keys.
    have hnames : entries.map (fun entry ↦ Datum.text entry.1) =
        (entries.map Prod.fst).map .text := (List.map_map ..).symm
    refine textItems_eq_ok_iff.trans ⟨fun h ↦ ?_, ?_⟩
    · rw [← List.map_injective_iff.2 (fun _ _ ↦ Datum.text.inj) (hnames.symm.trans h)]
      exact .names entries
    · rintro ⟨⟩
      exact hnames
  | _ => exact iff_of_false nofun nofun

end Field

/-- Fields that make an entry. The four labels are carried as they are, and the other fields have to
hold what the entry has. -/
structure EntryFields.Fits (fields : EntryFields) (entry : ReportEntry) : Prop where
  workbook : entry.workbook = fields.workbook
  sheetName : entry.sheetName = fields.sheetName
  fileName : entry.fileName = fields.fileName
  className : entry.className = fields.className
  status : fields.status = .text entry.status.name
  rowsIn : fields.rowsIn = .int entry.rowsIn
  rowsOut : fields.rowsOut = .int entry.rowsOut
  errors : Field.Texts fields.errors entry.errors
  outputs : Field.Texts fields.outputs entry.outputs
  balanced : entry.rowsOut ≤ entry.rowsIn

namespace ReportEntry

variable {fields : EntryFields} {entry : ReportEntry}

/-- **Entries**: the checks accept exactly the fields that make an entry, and return this entry. -/
theorem ofFields_eq_ok_iff : ofFields fields = .ok entry ↔ fields.Fits entry := by
  -- The checks are made in this order, and each fills in one field.
  constructor
  · intro h
    obtain ⟨status, hstatus, h⟩ := Except.bind_eq_ok_iff.1 h
    obtain ⟨rowsIn, hrowsIn, h⟩ := Except.bind_eq_ok_iff.1 h
    obtain ⟨rowsOut, hrowsOut, h⟩ := Except.bind_eq_ok_iff.1 h
    obtain ⟨errors, herrors, h⟩ := Except.bind_eq_ok_iff.1 h
    obtain ⟨outputs, houtputs, h⟩ := Except.bind_eq_ok_iff.1 h
    split_ifs at h with hexceed
    · cases h
    · cases h
      exact {
        workbook := rfl
        sheetName := rfl
        fileName := rfl
        className := rfl
        status := Field.readStatus_eq_ok_iff.1 hstatus
        rowsIn := Field.readCount_eq_ok_iff.1 hrowsIn
        rowsOut := Field.readCount_eq_ok_iff.1 hrowsOut
        errors := Field.readTexts_eq_ok_iff.1 herrors
        outputs := Field.readTexts_eq_ok_iff.1 houtputs
        balanced := Nat.le_of_not_lt hexceed }
  · intro h
    rw [ofFields, Field.readStatus_eq_ok_iff.2 h.status, Except.bind_ok,
      Field.readCount_eq_ok_iff.2 h.rowsIn, Except.bind_ok,
      Field.readCount_eq_ok_iff.2 h.rowsOut, Except.bind_ok,
      Field.readTexts_eq_ok_iff.2 h.errors, Except.bind_ok,
      Field.readTexts_eq_ok_iff.2 h.outputs, Except.bind_ok]
    rw [if_neg (Nat.not_lt.2 h.balanced), ← h.workbook, ← h.sheetName, ← h.fileName, ← h.className]
    rfl

/-- An entry as it stands in a report: its status is one of five words, its numbers of rows are
integers of which the second is no greater than the first, and its lists hold texts only. -/
structure Sound (written : Datum) : Prop where
  status : ∃ word ∈ ["converted", "skipped", "malformed", "invalid_values", "unreadable"],
    written.field? "status" = some (.text word)
  rows : ∃ rowsIn rowsOut : Int, written.field? "rows_in" = some (.int rowsIn) ∧
    written.field? "rows_out" = some (.int rowsOut) ∧ 0 ≤ rowsOut ∧ rowsOut ≤ rowsIn
  errors : ∃ texts : List String, written.field? "errors" = some (.list (texts.map .text))
  outputs : ∃ texts : List String, written.field? "outputs" = some (.list (texts.map .text))

/-- An entry in which no more rows come out than go in is sound as a datum. -/
theorem sound_toDatum (h : entry.rowsOut ≤ entry.rowsIn) : Sound entry.toDatum where
  status := ⟨entry.status.name, by cases entry.status <;> simp [SheetStatus.name], rfl⟩
  rows := ⟨entry.rowsIn, entry.rowsOut, rfl, rfl, Int.natCast_nonneg _, Int.ofNat_le.2 h⟩
  errors := ⟨entry.errors, rfl⟩
  outputs := ⟨entry.outputs, rfl⟩

end ReportEntry

namespace Report

variable {report : Report}

/-! ### Numbers of sheets -/

/-- **Numbers**: every sheet of a report is converted, skipped, or a failure. -/
theorem count_add_count_add_failures (report : Report) :
    report.count .converted + report.count .skipped + report.failures.length =
      report.entries.length := by
  rw [count, count, failures, ← List.countP_eq_length_filter]
  induction report.entries with
  | nil => rfl
  | cons entry entries ih =>
    have hone : (if decide (entry.status = .converted) = true then 1 else 0) +
        (if decide (entry.status = .skipped) = true then 1 else 0) +
        (if entry.failed = true then 1 else 0) = 1 := by
      rw [ReportEntry.failed]
      cases entry.status <;> rfl
    rw [List.countP_cons, List.countP_cons, List.countP_cons, List.length_cons]
    omega

theorem anyFailed_iff : report.anyFailed = true ↔ 0 < report.failures.length := by
  rw [anyFailed, failures, List.length_pos_iff, Ne, List.filter_eq_nil_iff]
  simp

/-- The failures of a report are its entries of three statuses, in their order. -/
theorem failures_eq_filter (report : Report) :
    report.failures = report.entries.filter fun entry ↦
      entry.status ∈ [SheetStatus.malformed, .invalidValues, .unreadable] := by
  refine List.filter_congr fun entry _ ↦ ?_
  rw [ReportEntry.failed]
  cases entry.status <;> rfl

/-! ### Steps -/

/-- **Step**: fields that make an entry are appended as this entry. Other fields are refused, and
nothing changes. -/
theorem enter_cases (report : Report) (fields : EntryFields) :
    (∃ entry, fields.Fits entry ∧ enter fields report = .ok () (report.push entry)) ∨
      (¬∃ entry, fields.Fits entry) ∧ ∃ fault, enter fields report = .error fault report := by
  rcases hentry : ReportEntry.ofFields fields with fault | entry
  · refine .inr ⟨?_, fault, by rw [enter, add, hentry]; rfl⟩
    rintro ⟨entry, hfits⟩
    cases hentry.symm.trans (ReportEntry.ofFields_eq_ok_iff.2 hfits)
  · exact .inl ⟨entry, ReportEntry.ofFields_eq_ok_iff.1 hentry, by rw [enter, add, hentry]; rfl⟩

/-! ### Sequences of steps -/

/-- The report that a sequence of steps leaves, whether they succeed or fail. -/
def after (report : Report) (attempts : List EntryFields) : Report :=
  attempts.foldl (fun report fields ↦ (enter fields report).left) report

/-- The entries that a sequence of steps appends: one for each step whose fields make an entry, in
their order. -/
inductive Entered : List EntryFields → List ReportEntry → Prop where
  | nil : Entered [] []
  | appended {fields : EntryFields} {entry : ReportEntry} {attempts : List EntryFields}
      {entries : List ReportEntry} (fits : fields.Fits entry) (rest : Entered attempts entries) :
    Entered (fields :: attempts) (entry :: entries)
  | refused {fields : EntryFields} {attempts : List EntryFields} {entries : List ReportEntry}
      (unfit : ¬∃ entry, fields.Fits entry) (rest : Entered attempts entries) :
    Entered (fields :: attempts) entries

/-- No more rows come out than go in, in any entry that has been let in. -/
theorem Entered.balanced {attempts : List EntryFields} {entries : List ReportEntry}
    (h : Entered attempts entries) {entry : ReportEntry} (hentry : entry ∈ entries) :
    entry.rowsOut ≤ entry.rowsIn := by
  induction h with
  | nil => cases hentry
  | appended fits _ ih =>
    rcases List.mem_cons.1 hentry with rfl | hentry
    · exact fits.balanced
    · exact ih hentry
  | refused _ _ ih => exact ih hentry

/-- **Run**: what a sequence of steps leaves is the report with the entries that they append. -/
theorem entered_after (report : Report) (attempts : List EntryFields) :
    ∃ entries, Entered attempts entries ∧
      report.after attempts = { report with entries := report.entries ++ entries } := by
  -- Over all reports to start from, as a step that succeeds leaves another one.
  induction attempts generalizing report with
  | nil => exact ⟨[], .nil, by rw [List.append_nil]; rfl⟩
  | cons fields attempts ih =>
    obtain ⟨entry, hfits, henter⟩ | ⟨hunfit, fault, henter⟩ := enter_cases report fields
    · obtain ⟨entries, hentered, hafter⟩ := ih (report.push entry)
      refine ⟨entry :: entries, .appended hfits hentered, ?_⟩
      rw [after, List.foldl_cons, henter]
      refine hafter.trans ?_
      rw [push, List.append_assoc, List.singleton_append]
    · obtain ⟨entries, hentered, hafter⟩ := ih report
      refine ⟨entries, .refused hunfit hentered, ?_⟩
      rw [after, List.foldl_cons, henter]
      exact hafter

/-- What a report says of itself agrees with its entries. -/
structure Books (report : Report) : Prop where
  sound : ∀ entry ∈ report.entries, ReportEntry.Sound entry.toDatum
  numbers : ∃ converted skipped failed : Nat,
    report.toDatum.field? "converted" = some (.int converted) ∧
    report.toDatum.field? "skipped" = some (.int skipped) ∧
    report.toDatum.field? "failed" = some (.int failed) ∧
    converted + skipped + failed = report.entries.length ∧
    (report.anyFailed = true ↔ 0 < failed)
  /-- The failures are the entries of three statuses, in their order. -/
  failures : report.failures = report.entries.filter fun entry ↦
    entry.status ∈ [SheetStatus.malformed, .invalidValues, .unreadable]

/-- A report with such entries keeps its books. -/
theorem books_of_balanced (h : ∀ entry ∈ report.entries, entry.rowsOut ≤ entry.rowsIn) :
    Books report where
  sound entry hentry := ReportEntry.sound_toDatum (h entry hentry)
  numbers := ⟨_, _, _, rfl, rfl, rfl, report.count_add_count_add_failures, anyFailed_iff⟩
  failures := report.failures_eq_filter

/-- **Books**: whatever was entered in a report, its entries are those of the fields that make one,
what it says of itself agrees with them, and the next step appends one entry or fails and changes
nothing. -/
theorem keeps_books (workbooks : Nat) (attempts : List EntryFields) :
    let report := after { workbooks } attempts
    Entered attempts report.entries ∧ Books report ∧
      ∀ fields : EntryFields,
        (∃ entry, fields.Fits entry ∧ ReportEntry.Sound entry.toDatum ∧
          enter fields report = .ok () { report with entries := report.entries ++ [entry] }) ∨
        (¬∃ entry, fields.Fits entry) ∧ ∃ fault, enter fields report = .error fault report := by
  obtain ⟨entries, hentered, hafter⟩ := entered_after { workbooks } attempts
  simp only [hafter, List.nil_append]
  refine ⟨hentered, books_of_balanced fun entry ↦ hentered.balanced, fun fields ↦ ?_⟩
  obtain ⟨entry, hfits, henter⟩ | hrefused := enter_cases { workbooks, entries } fields
  · exact .inl ⟨entry, hfits, ReportEntry.sound_toDatum hfits.balanced, henter⟩
  · exact .inr hrefused

end Report

end ConfigTables
