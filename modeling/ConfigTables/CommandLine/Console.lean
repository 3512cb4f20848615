import ConfigTables.Report.Basic

/-!
# The console

Commands report by `Notice`s: entries for information, and errors. A console shows all of them, or
only the errors if it is to be quiet; a command does not know which. Entries are written in the
markup of the console, so text from outside is escaped on its way into one. What markup looks like
and how it is drawn is not the business of this library: a `Markup` says how a text is escaped and
what markup shows.
-/

namespace ConfigTables

/-- The markup of a console. -/
structure Markup where
  /-- Puts a text in a form in which the console is to show it as it is. -/
  escape : String → String
  /-- What the console shows, styles aside. -/
  render : String → String

/-- What is printed at once. -/
inductive ConsoleEntry where
  | line (text : String)
  | panel (text title border : String)
  | table (title : String) (headings : List String) (rows : List (List String))
  deriving DecidableEq, Repr

/-- The lines in which an entry is shown without styles and borders. -/
def ConsoleEntry.plainLines (markup : Markup) : ConsoleEntry → List String
  | .line text => [markup.render text]
  | .panel text title _ => [title, markup.render text]
  | .table title headings rows =>
    title :: (headings :: rows).map fun cells ↦ "  ".intercalate (cells.map markup.render)

/-- What a command has to say. -/
inductive Notice where
  | info (entry : ConsoleEntry)
  | error (message : String)
  deriving DecidableEq, Repr

namespace Notice

/-- A line of information. -/
def line (text : String) : Notice :=
  .info (.line text)

variable (markup : Markup)

/-- The line for an error. -/
def errorLine (message : String) : ConsoleEntry :=
  .line ("[red]x[/red] " ++ markup.escape message)

/-- What a console prints for a notice. -/
def shown? (quiet : Bool) : Notice → Option ConsoleEntry
  | .info entry => if quiet then none else some entry
  | .error message => some (errorLine markup message)

/-- What a console prints for some notices. -/
def print (quiet : Bool) (notices : List Notice) : List ConsoleEntry :=
  notices.filterMap (shown? markup quiet)

/-! ### Notices about a run -/

/-- The text of a label. The labels that a run enters are texts; one without a text stands for
nothing. -/
def labelText (label : Datum) : String :=
  label.text?.getD ""

/-- What an entry is about: the workbook, and the tab if it has a name. -/
def place (entry : ReportEntry) : String :=
  let workbook := labelText entry.workbook
  let sheet := labelText entry.sheetName
  if sheet = "" then workbook else workbook ++ ":" ++ sheet

/-- The notices about an entry. -/
def ofEntry (entry : ReportEntry) : List Notice :=
  let shownPlace := markup.escape (place entry)
  match entry.status with
  | .converted =>
    [line ("  [green]ok[/green] " ++ shownPlace ++ " -> " ++
      markup.escape (labelText entry.fileName) ++ " (" ++
      markup.escape (labelText entry.className) ++ ", " ++ toString entry.rowsOut ++ " rows)")]
  | .skipped => [line ("  [dim]-- " ++ shownPlace ++ ": not a config sheet[/dim]")]
  | status =>
    entry.errors.map fun message ↦
      .error (shownPlace ++ " [" ++ status.name ++ "] " ++ message)

/-- The table that sums up a run. -/
def summary (report : Report) : Notice :=
  let failures := report.failures.length
  let verdict :=
    if failures = 0 then [["Failed", "[green]0[/green]"], ["Status", "[green]PASS[/green]"]]
    else
      [["Failed", "[red]" ++ toString failures ++ "[/red]"], ["Status", "[red]FAIL[/red]"]]
  .info <| .table "Conversion Summary" ["Check", "Result"] <|
    [["Workbooks", toString report.workbooks],
      ["Converted", toString (report.count .converted)],
      ["Skipped", toString (report.count .skipped)]] ++ verdict

end Notice

end ConfigTables
