import ConfigTables.Report.Entry

/-!
# Run reports

A `Report` collects the entries of a run in the order in which they are made. Its counts are
computed from the entries and never stored, so they cannot disagree with them.
-/

namespace ConfigTables

/-- The report of a run over a number of workbooks. -/
structure Report where
  workbooks : Nat
  entries : List ReportEntry := []

namespace Report

/-- An empty report over the given number of workbooks, which may be anything. -/
def start (workbooks : Datum) : Except FieldFault Report :=
  (Field.readCount "workbooks" workbooks).map fun workbooks ↦ { workbooks }

/-- The report with one more entry. -/
def push (report : Report) (entry : ReportEntry) : Report :=
  { report with entries := report.entries ++ [entry] }

/-- The report with an entry made from the given fields. -/
def add (report : Report) (fields : EntryFields) : Except FieldFault Report :=
  (ReportEntry.ofFields fields).map report.push

/-- Enters something in a report. Fields that are refused leave the report as it is. -/
def enter (fields : EntryFields) : EStateM FieldFault Report Unit := fun report ↦
  match report.add fields with
  | .ok extended => .ok () extended
  | .error fault => .error fault report

/-- The number of entries with a status. -/
def count (report : Report) (status : SheetStatus) : Nat :=
  report.entries.countP fun entry ↦ entry.status = status

/-- The number of entries whose status is the given word. Nothing but a status counts. -/
def countNamed (report : Report) : Datum → Nat
  | .text word => (SheetStatus.ofName? word).elim 0 report.count
  | _ => 0

/-- The entries that tell of a failure. -/
def failures (report : Report) : List ReportEntry :=
  report.entries.filter (·.failed)

/-- Whether any entry tells of a failure. -/
def anyFailed (report : Report) : Bool :=
  report.entries.any (·.failed)

/-- A report as a datum. -/
def toDatum (report : Report) : Datum :=
  .object
    [("workbooks", .int report.workbooks),
      ("converted", .int (report.count .converted)),
      ("skipped", .int (report.count .skipped)),
      ("failed", .int report.failures.length),
      ("sheets", .list (report.entries.map ReportEntry.toDatum))]

end Report

end ConfigTables
