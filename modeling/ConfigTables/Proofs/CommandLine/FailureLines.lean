import ConfigTables.CommandLine.TagMarkup
import Mathlib.Data.List.Basic

/-!
# The lines about failures

For each message of an entry that tells of a failure the console prints a line: a mark, the place,
the status and the message. The message is escaped with the line. The place is escaped before it
gets into the line, and so a second time with it, which is once too often: the console shows what
the first time puts in front of what looks like a tag.

`Notice.failure_lines` says what the lines are under any markup. It also says for which places this
makes no difference, as far as the markup does its part (`Markup.Protects`): those that escaping
leaves as they are.
-/

namespace ConfigTables

/-- Escaped in the line for an error, a text is shown as it is. -/
def Markup.Protects (markup : Markup) (text : String) : Prop :=
  markup.render ("[red]x[/red] " ++ markup.escape text) = "x " ++ text

namespace Notice

/-! ### What is told of a failure -/

/-- A message with the place and the status in front. -/
def failureText (place : String) (status : SheetStatus) (message : String) : String :=
  place ++ " [" ++ status.name ++ "] " ++ message

/-- A place can be read off the text that it stands in. -/
theorem failureText_inj {place place' : String} {status : SheetStatus} {message : String} :
    failureText place status message = failureText place' status message ↔ place = place' := by
  simp only [failureText, String.append_assoc, String.append_left_inj]

/-! ### Lines -/

variable {markup : Markup} {entry : ReportEntry}

theorem ofEntry_of_failed (h : entry.failed = true) :
    ofEntry markup entry =
      (entry.errors.map (failureText (markup.escape (place entry)) entry.status)).map .error := by
  rw [List.map_map]
  unfold ofEntry
  split
  · next hstatus =>
    rw [ReportEntry.failed, hstatus] at h
    cases h
  · next hstatus =>
    rw [ReportEntry.failed, hstatus] at h
    cases h
  · rfl

/-- A console prints errors whether it is quiet or not. -/
theorem print_map_error (quiet : Bool) (messages : List String) :
    print markup quiet (messages.map .error) = messages.map (errorLine markup) := by
  rw [print, List.filterMap_map]
  exact congrFun List.filterMap_eq_map' messages

/-- A markup that shows two texts as they are escapes them in the same way only if they are one
text. -/
theorem errorLine_inj {text text' : String} (h : markup.Protects text)
    (h' : markup.Protects text') :
    errorLine markup text = errorLine markup text' ↔ text = text' := by
  refine ⟨fun heq ↦ ?_, congrArg _⟩
  rw [errorLine, errorLine, ConsoleEntry.line.injEq] at heq
  exact String.append_right_inj _ |>.1 (h.symm.trans ((congrArg markup.render heq).trans h'))

/-- Lists made from the same messages, where one condition decides whether what is made from a
message is the same, are the same under this condition, or if there are no messages. -/
theorem map_eq_map_iff {α : Type} {f g : String → α} {messages : List String} {condition : Prop}
    (h : ∀ message ∈ messages, f message = g message ↔ condition) :
    messages.map f = messages.map g ↔ messages = [] ∨ condition := by
  rw [List.map_inj_left, forall₂_congr h]
  cases messages with
  | nil => simp
  | cons message messages =>
    exact ⟨fun hall ↦ .inr (hall message List.mem_cons_self), fun hsome _ _ ↦
      hsome.resolve_left (List.cons_ne_nil message messages)⟩

/-- **Failure lines**: an entry that tells of a failure has a line for each of its messages, in
which the place is escaped twice. Where the markup shows what is escaped as it is, and there are any
lines,
* they are those in which place, status and message are escaped once exactly if escaping leaves the
  place as it is;
* they show the place as it is escaped once, and so literally under the same condition. -/
theorem failure_lines (markup : Markup) (quiet : Bool) {workbook sheet : String}
    (hfailed : entry.failed = true) (hworkbook : entry.workbook = .text workbook)
    (hsheet : entry.sheetName = .text sheet) :
    let place := if sheet = "" then workbook else workbook ++ ":" ++ sheet
    let lines := print markup quiet (ofEntry markup entry)
    lines = entry.errors.map (fun message ↦ .line ("[red]x[/red] " ++
      markup.escape (failureText (markup.escape place) entry.status message))) ∧
    ((∀ message ∈ entry.errors, markup.Protects (failureText place entry.status message) ∧
        markup.Protects (failureText (markup.escape place) entry.status message)) →
      (lines = entry.errors.map (fun message ↦ .line ("[red]x[/red] " ++
        markup.escape (failureText place entry.status message))) ↔
          entry.errors = [] ∨ markup.escape place = place) ∧
      lines.flatMap (ConsoleEntry.plainLines markup) = entry.errors.map (fun message ↦
        "x " ++ failureText (markup.escape place) entry.status message) ∧
      (lines.flatMap (ConsoleEntry.plainLines markup) = entry.errors.map (fun message ↦
        "x " ++ failureText place entry.status message) ↔
          entry.errors = [] ∨ markup.escape place = place)) := by
  intro place lines
  have hplace : Notice.place entry = place := by
    rw [Notice.place, hworkbook, hsheet]
    rfl
  have hlines : lines = entry.errors.map fun message ↦
      errorLine markup (failureText (markup.escape place) entry.status message) := by
    rw [← hplace]
    show print markup quiet (ofEntry markup entry) = _
    rw [ofEntry_of_failed hfailed, print_map_error, List.map_map]
    rfl
  refine ⟨hlines, fun hshows ↦ ?_⟩
  -- The second escape is what the markup undoes.
  have hshown : lines.flatMap (ConsoleEntry.plainLines markup) = entry.errors.map fun message ↦
      "x " ++ failureText (markup.escape place) entry.status message := by
    rw [hlines, List.flatMap_map, List.map_eq_flatMap]
    exact List.flatMap_congr fun message hmessage ↦
      congrArg List.singleton (hshows message hmessage).2
  refine ⟨?_, hshown, ?_⟩
  · rw [hlines]
    refine map_eq_map_iff fun message hmessage ↦ ?_
    obtain ⟨honce, htwice⟩ := hshows message hmessage
    exact (errorLine_inj htwice honce).trans failureText_inj
  · rw [hshown]
    refine map_eq_map_iff fun message _ ↦ ?_
    rw [String.append_right_inj, failureText_inj]

/-- The entry of a tab with a fault, in a workbook whose name looks like a tag. -/
def bracketedEntry : ReportEntry where
  workbook := .text "[a].xlsx"
  sheetName := .text "Items"
  status := .malformed
  fileName := .text ""
  className := .text ""
  rowsIn := 0
  rowsOut := 0
  errors := ["row 0 has 1 cells, expected at least 2"]
  outputs := []

theorem failure_lines_bracketedEntry :
    (bracketedEntry.failed = true ∧ bracketedEntry.workbook = .text "[a].xlsx" ∧
      bracketedEntry.sheetName = .text "Items") ∧
    print .tags true (ofEntry .tags bracketedEntry) ≠ bracketedEntry.errors.map (fun message ↦ .line
      ("[red]x[/red] " ++ Markup.tags.escape (failureText "[a].xlsx:Items" .malformed message))) ∧
    (print .tags true (ofEntry .tags bracketedEntry)).flatMap (ConsoleEntry.plainLines .tags) =
      ["x \\[a].xlsx:Items [malformed] row 0 has 1 cells, expected at least 2"] := by
  have hfailed : bracketedEntry.failed = true := rfl
  obtain ⟨-, hliteral⟩ := failure_lines .tags true hfailed rfl rfl
  obtain ⟨honce, hshown, -⟩ := hliteral (List.forall_mem_singleton.2 ⟨rfl, rfl⟩)
  refine ⟨⟨rfl, rfl, rfl⟩, fun heq ↦ ?_, hshown.trans rfl⟩
  exact (honce.1 heq).elim nofun (by decide)

/-- The lines of an entry are not those in which everything is escaped once. -/
theorem not_escaped_once_bracketedEntry :
    print .tags true (ofEntry .tags bracketedEntry) = [.line
      "[red]x[/red] \\\\\\[a].xlsx:Items \\[malformed] row 0 has 1 cells, expected at least 2"] ∧
    ¬∀ entry : ReportEntry, entry.failed = true →
      print .tags true (ofEntry .tags entry) = entry.errors.map fun message ↦
        .line ("[red]x[/red] " ++ Markup.tags.escape
          (place entry ++ " [" ++ entry.status.name ++ "] " ++ message)) := by
  have hlines : print .tags true (ofEntry .tags bracketedEntry) = [.line
      "[red]x[/red] \\\\\\[a].xlsx:Items \\[malformed] row 0 has 1 cells, expected at least 2"] := by
    rfl
  refine ⟨hlines, fun h ↦ ?_⟩
  have honce := h bracketedEntry rfl
  rw [hlines] at honce
  revert honce
  decide

end Notice

end ConfigTables
