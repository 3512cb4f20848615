import ConfigTables.CommandLine.Arguments
import ConfigTables.CommandLine.TagMarkup
import ConfigTables.Proofs.CommandLine.Clock
import ConfigTables.Proofs.Run.Validation

/-!
# What the flags decide

Two flags come with the commands that convert a directory: one for the policy on failures and one
for printing. What a conversion does depends on neither. There is a course that it takes, with a
report or without one (`CommandLine.Conversion.course`), and the flags only say how the course is
answered (`CommandLine.perform_eq_answer`): the policy chooses the exit code of a completed course
and a word in the heading, and a quiet console drops all that is no error.

A console that is not quiet shows errors in lines that begin in a way of their own, and nothing else
begins so (`Notice.Calm`). So what a quiet console shows can be picked out from what another one
shows (`Notice.print_quiet`).
-/

namespace ConfigTables

/-! ### Errors on the console -/

/-- Whether an entry of the console is the line for an error, by how it begins. -/
def ConsoleEntry.isError : ConsoleEntry → Bool
  | .line text => "[red]x[/red] ".toList.isPrefixOf text.toList
  | .panel .. | .table .. => false

namespace Notice

variable (markup : Markup)

/-- A notice is an error, or does not look like one. -/
def Calm : Notice → Prop
  | .info entry => entry.isError = false
  | .error _ => True

theorem isError_errorLine (message : String) : (errorLine markup message).isError = true := by
  rw [errorLine, ConsoleEntry.isError, String.toList_append, List.isPrefixOf_iff_prefix]
  exact List.prefix_append _ _

/-- What begins with a blank does not look like an error. -/
theorem calm_line {text : String} (h : text.toList.head? = some ' ') : (line text).Calm := by
  rcases hchars : text.toList with _ | ⟨c, cs⟩
  · rw [hchars] at h
    cases h
  · rw [hchars] at h
    cases h
    rw [line, Calm, ConsoleEntry.isError, hchars]
    rfl

/-- The notices about an entry are errors, or do not look like any. -/
theorem calm_ofEntry (entry : ReportEntry) : ∀ notice ∈ ofEntry markup entry, notice.Calm := by
  intro notice hnotice
  unfold ofEntry at hnotice
  split at hnotice
  · rw [List.mem_singleton.1 hnotice]
    exact calm_line (by simp [String.toList_append])
  · rw [List.mem_singleton.1 hnotice]
    exact calm_line (by simp [String.toList_append])
  · obtain ⟨message, -, rfl⟩ := List.mem_map.1 hnotice
    trivial

/-- **Quiet**: a quiet console shows of some notices just the errors that another one shows. -/
theorem print_quiet {notices : List Notice} (h : ∀ notice ∈ notices, notice.Calm) :
    print markup true notices = (print markup false notices).filter ConsoleEntry.isError := by
  induction notices with
  | nil => rfl
  | cons notice notices ih =>
    rw [List.forall_mem_cons] at h
    have hrest := ih h.2
    rw [print, print] at hrest ⊢
    rcases notice with entry | message
    · have hentry : entry.isError = false := h.1
      rw [List.filterMap_cons_none (by rfl), List.filterMap_cons_some (b := entry) (by rfl),
        List.filter_cons_of_neg (by simp [hentry]), hrest]
    · rw [List.filterMap_cons_some (b := errorLine markup message) (by rfl),
        List.filterMap_cons_some (b := errorLine markup message) (by rfl),
        List.filter_cons_of_pos (isError_errorLine markup message), hrest]

end Notice

namespace CommandLine

open Batch

/-! ### The course of a conversion -/

/-- A command that converts a directory, whatever its settings are. -/
inductive Conversion where
  | run (input output : String)
  | validate (input : String)

namespace Conversion

/-- A conversion with settings. -/
def command (settings : Settings) : Conversion → Command
  | run input output => .run input output settings
  | validate input => .validate input settings

/-- The operand for the directory that is converted. -/
def input : Conversion → String
  | run input _ | validate input => input

/-- The notices before a conversion. -/
def heading (tree : FileTree) (settings : Settings) : Conversion → List Notice
  | run input output => runHeading settings (absolute tree input) (absolute tree output)
  | validate input => validateHeading (absolute tree input)

end Conversion

/-- What a conversion does, whatever is printed of it and whatever failures count for. -/
inductive Course where
  /-- A check does not pass. -/
  | refused (message : String)
  /-- A check cannot be made. -/
  | brokenOff (fault : RunFault)
  /-- The conversion comes to its end. -/
  | completed (report : Report) (notices : List Notice) (tree : FileTree)
  /-- The conversion ends early. -/
  | failed (notices : List Notice) (tree : FileTree)

namespace Course

/-- The course that a conversion takes after the checks, by its result. -/
def ofResult {α : Type} (markup : Markup) (atEnd : α → List Notice) (report : α → Report) :
    EStateM.Result RunFault BatchState α → Course
  | .ok answer state =>
    completed (report answer) (state.entries.flatMap (Notice.ofEntry markup) ++ atEnd answer)
      state.tree
  | .error fault state =>
    failed (state.entries.flatMap (Notice.ofEntry markup) ++
      [.error ("Unexpected internal error: " ++ fault.message)]) state.tree

/-- The answer to a conversion that takes a course. -/
def answer (environment : Environment) (tree : FileTree) (settings : Settings)
    (heading : List Notice) : Course → Outcome
  | refused message => unchanged environment tree settings.quiet .failure [.error message]
  | brokenOff fault => CommandLine.brokenOff tree fault
  | completed report notices after =>
    { exit := Exit.ofReport report settings.strict
      console := Notice.print environment.markup settings.quiet (heading ++ notices)
      tree := after }
  | failed notices after =>
    { exit := .internalError
      console := Notice.print environment.markup settings.quiet (heading ++ notices)
      tree := after }

end Course

/-- The course that a conversion takes. -/
def Conversion.course (environment : Environment) (tree : FileTree) (delimiter : String)
    (conversion : Conversion) : Course :=
  match Delimiter.ofText? delimiter with
  | none => .refused Delimiter.refusal
  | some delimiter =>
    match tree.isDirectory (absolute tree conversion.input) with
    | .error fault => .brokenOff (.file fault)
    | .ok false => .refused (RunFault.inputMissing (absolute tree conversion.input)).message
    | .ok true =>
      match conversion with
      | run input output =>
        .ofResult environment.markup runClosing RunFiles.report <|
          convertAndReport environment delimiter (absolute tree input) (absolute tree output)
            { tree }
      | validate input =>
        .ofResult environment.markup (fun report ↦ [.summary report]) id <|
          Batch.convertAll environment.reader delimiter (absolute tree input) none { tree }

/-- A command that has made its checks answers by the course that its work takes. -/
theorem conclude_eq_answer {α : Type} (environment : Environment) (tree : FileTree)
    (settings : Settings) (before : List Notice) (atEnd : α → List Notice) (report : α → Report)
    (result : EStateM.Result RunFault BatchState α) :
    conclude environment settings before atEnd report result =
      (Course.ofResult environment.markup atEnd report result).answer environment tree settings
        before := by
  rcases result with ⟨answer, state⟩ | ⟨fault, state⟩ <;>
    simp only [conclude, Course.ofResult, Course.answer, List.append_assoc]

/-- **Course and answer**: a conversion takes a course on which its flags have no influence, and
they decide how it is answered. -/
theorem perform_eq_answer (environment : Environment) (tree : FileTree) (settings : Settings)
    (conversion : Conversion) :
    perform environment tree (conversion.command settings) =
      (conversion.course environment tree settings.delimiter).answer environment tree settings
        (conversion.heading tree settings) := by
  rcases conversion with ⟨input, output⟩ | input
  all_goals
    simp only [Conversion.command, perform, run, validate, withChecks, Conversion.course,
      Conversion.input, Conversion.heading]
    rcases Delimiter.ofText? settings.delimiter with _ | delimiter
    · rfl
    rcases tree.isDirectory (absolute tree input) with fault | _ | _
    · rfl
    · rfl
    · exact conclude_eq_answer environment tree settings _ _ _ _

/-! ### Courses that come to an end -/

/-- A conversion comes to its end with a report: the checks pass, and so does all the work. -/
inductive Conversion.Completes (environment : Environment) (tree : FileTree) (delimiter : String) :
    Conversion → Report → Prop where
  | run {input output : String} {chosen : Delimiter} {files : RunFiles} {state : BatchState}
      (hdelimiter : Delimiter.ofText? delimiter = some chosen)
      (hinput : tree.isDirectory (absolute tree input) = .ok true)
      (hrun : convertAndReport environment chosen (absolute tree input) (absolute tree output)
        { tree } = .ok files state) :
      Completes environment tree delimiter (.run input output) files.report
  | validate {input : String} {chosen : Delimiter} {report : Report} {state : BatchState}
      (hdelimiter : Delimiter.ofText? delimiter = some chosen)
      (hinput : tree.isDirectory (absolute tree input) = .ok true)
      (hrun : Batch.convertAll environment.reader chosen (absolute tree input) none { tree } =
        .ok report state) :
      Completes environment tree delimiter (.validate input) report

section Courses

variable {environment : Environment} {tree : FileTree} {delimiter : String}
  {conversion : Conversion} {report : Report}

/-- A course is completed exactly if the work has a result, whose report it gives. -/
theorem Course.ofResult_eq_completed_iff {α : Type} {markup : Markup} {atEnd : α → List Notice}
    {toReport : α → Report}
    {result : EStateM.Result RunFault BatchState α} :
    (∃ notices after, ofResult markup atEnd toReport result = completed report notices after) ↔
      ∃ answer state, result = .ok answer state ∧ toReport answer = report := by
  rcases result with ⟨answer, state⟩ | ⟨fault, state⟩ <;> simp [ofResult]

/-- Whether a conversion completes can be told from its course. -/
theorem Conversion.completes_iff_course :
    conversion.Completes environment tree delimiter report ↔
      ∃ notices after, conversion.course environment tree delimiter =
        .completed report notices after := by
  constructor
  · rintro (⟨hdelimiter, hinput, hrun⟩ | ⟨hdelimiter, hinput, hrun⟩)
    all_goals
      simp only [course, hdelimiter, Conversion.input, hinput]
      exact Course.ofResult_eq_completed_iff.2 ⟨_, _, hrun, rfl⟩
  · rcases conversion with ⟨input, output⟩ | input
    all_goals
      rintro ⟨notices, after, hcourse⟩
      unfold course at hcourse
      split at hcourse
      · cases hcourse
      · next hdelimiter =>
        split at hcourse
        · cases hcourse
        · cases hcourse
        · next hinput =>
          obtain ⟨answer, state, hrun, rfl⟩ :=
            Course.ofResult_eq_completed_iff.1 ⟨notices, after, hcourse⟩
          constructor <;> assumption

end Courses

/-! ### Courses at different times -/

/-- Two courses are the same but for the time that a manifest gives. -/
inductive Course.SameButTime (time time' : String) : Course → Course → Prop where
  | refused (message : String) : SameButTime time time' (.refused message) (.refused message)
  | brokenOff (fault : RunFault) : SameButTime time time' (.brokenOff fault) (.brokenOff fault)
  | completed {report : Report} {notices : List Notice} {tree other : FileTree}
      (h : tree.SameButTime time time' other) :
      SameButTime time time' (.completed report notices tree) (.completed report notices other)
  | failed {notices : List Notice} {tree other : FileTree}
      (h : tree.SameButTime time time' other) :
      SameButTime time time' (.failed notices tree) (.failed notices other)

/-- Work that is the same but for the time takes the same course but for the time. -/
theorem Course.sameButTime_of_parallel {time time' : String} {α : Type} (markup : Markup)
    (atEnd : α → List Notice) (toReport : α → Report)
    {result result' : EStateM.Result RunFault BatchState α}
    (h : EStateM.Parallel (StateButTime time time') result result') :
    (ofResult markup atEnd toReport result).SameButTime time time'
      (ofResult markup atEnd toReport result') := by
  rcases h with ⟨h⟩ | ⟨h⟩ <;> simp only [ofResult, h.entries]
  · exact .completed h.tree
  · exact .failed h.tree

/-- The course of a conversion depends on the time only where a manifest gives it. -/
theorem Conversion.course_sameButTime (environment : Environment) (time time' : String)
    (tree : FileTree) (delimiter : String) (conversion : Conversion) :
    (conversion.course { environment with clock := time } tree delimiter).SameButTime time time'
      (conversion.course { environment with clock := time' } tree delimiter) := by
  unfold course
  split
  · exact .refused _
  · split
    · exact .brokenOff _
    · exact .refused _
    · split
      · exact Course.sameButTime_of_parallel _ _ _
          (parallel_convertAndReport environment time time' _ _ _ _)
      · -- Without an output directory there is no manifest and thus no time.
        exact Course.sameButTime_of_parallel _ _ _ (.refl (StateButTime.refl time time') _)

/-! ### Notices of a conversion -/

/-- What is said at the beginning is no error, and no line of it looks like one. -/
theorem calm_heading (tree : FileTree) (settings : Settings) (conversion : Conversion) :
    ∀ notice ∈ conversion.heading tree settings, notice.Calm := by
  rcases conversion with ⟨input, output⟩ | input
  · rw [Conversion.heading, runHeading, List.forall_mem_cons, List.forall_mem_singleton]
    exact ⟨rfl, Notice.calm_line (by simp [String.toList_append])⟩
  · rw [Conversion.heading, validateHeading, List.forall_mem_singleton]
    rfl

theorem calm_runClosing (files : RunFiles) : ∀ notice ∈ runClosing files, notice.Calm := by
  simp only [runClosing, List.forall_mem_cons]
  exact ⟨Notice.calm_line (by simp [String.toList_append]),
    Notice.calm_line (by simp [String.toList_append]), rfl, rfl, by simp⟩

theorem calm_closing (report : Report) :
    ∀ notice ∈ [Notice.summary report], notice.Calm :=
  List.forall_mem_singleton.2 rfl

/-- The notices of a course, the heading aside. -/
def Course.notices : Course → List Notice
  | refused message => [.error message]
  | brokenOff _ => []
  | completed _ notices _ | failed notices _ => notices

/-- Notices about entries and a calm end are calm, whatever the work has come to. -/
theorem Course.calm_ofResult {α : Type} (markup : Markup) {atEnd : α → List Notice}
    (h : ∀ answer, ∀ notice ∈ atEnd answer, notice.Calm) (toReport : α → Report)
    (result : EStateM.Result RunFault BatchState α) :
    ∀ notice ∈ (ofResult markup atEnd toReport result).notices, notice.Calm := by
  have hentries (state : BatchState) :
      ∀ notice ∈ state.entries.flatMap (Notice.ofEntry markup), notice.Calm := by
    intro notice hnotice
    obtain ⟨entry, -, hnotice⟩ := List.mem_flatMap.1 hnotice
    exact Notice.calm_ofEntry markup entry notice hnotice
  rcases result with ⟨answer, state⟩ | ⟨fault, state⟩
  · exact List.forall_mem_append.2 ⟨hentries state, h answer⟩
  · exact List.forall_mem_append.2 ⟨hentries state, List.forall_mem_singleton.2 trivial⟩

theorem Conversion.calm_course (environment : Environment) (tree : FileTree) (delimiter : String)
    (conversion : Conversion) :
    ∀ notice ∈ (conversion.course environment tree delimiter).notices, notice.Calm := by
  unfold course
  split
  · exact List.forall_mem_singleton.2 trivial
  · split
    · exact fun _ hnotice ↦ absurd hnotice List.not_mem_nil
    · exact List.forall_mem_singleton.2 trivial
    · split
      · exact Course.calm_ofResult _ calm_runClosing _ _
      · exact Course.calm_ofResult _ calm_closing _ _

/-! ### The policy on failures -/

/-- Two lists are the same, but one may have `a` in a place where the other has `b`. -/
def SameButOne {α : Type} (a b : α) (as bs : List α) : Prop :=
  bs = as ∨ ∃ before after, as = before ++ a :: after ∧ bs = before ++ b :: after

theorem SameButOne.append {α : Type} {a b : α} {as bs : List α} (h : SameButOne a b as bs)
    (cs : List α) : SameButOne a b (as ++ cs) (bs ++ cs) := by
  rcases h with rfl | ⟨before, after, rfl, rfl⟩
  · exact .inl rfl
  · exact .inr ⟨before, after ++ cs, by simp, by simp⟩

/-- Where one notice is printed as one entry, lists that differ in a notice are printed as lists
that differ in an entry. -/
theorem SameButOne.print {entry entry' : ConsoleEntry} {notices notices' : List Notice}
    (h : SameButOne (.info entry) (.info entry') notices notices') (markup : Markup)
    (quiet : Bool) : SameButOne entry entry' (Notice.print markup quiet notices)
      (Notice.print markup quiet notices') := by
  rcases h with rfl | ⟨before, after, rfl, rfl⟩
  · exact .inl rfl
  · rw [Notice.print, Notice.print, List.filterMap_append, List.filterMap_append]
    cases quiet
    · exact .inr ⟨_, _, rfl, rfl⟩
    · exact .inl rfl

/-- The line that names the policy on failures. -/
def policyLine (delimiter : String) (strict : Bool) : ConsoleEntry :=
  .line ("  Array delimiter: " ++ Text.quoted delimiter ++ ", exit policy: " ++
    (if strict then "strict" else "lenient"))

/-- The policy is named in one line at the beginning, and shows nowhere else. -/
theorem sameButOne_heading (tree : FileTree) (settings : Settings) (conversion : Conversion) :
    SameButOne (.info (policyLine settings.delimiter false))
      (.info (policyLine settings.delimiter true))
      (conversion.heading tree { settings with strict := false })
      (conversion.heading tree { settings with strict := true }) := by
  rcases conversion with ⟨input, output⟩ | input
  · exact .inr ⟨[_], [], rfl, rfl⟩
  · exact .inl rfl

/-- The outcome under the lenient policy and the one under the strict policy, at two times: the
files are the same but for the time in a manifest, the consoles are the same but for the line that
names the policy, and the exit code tells whether the command has failed in the eyes of the strict
policy. -/
structure DiffersInPolicy (time time' delimiter : String) (failed : Prop)
    (lenient strict : Outcome) : Prop where
  files : lenient.tree.SameButTime time time' strict.tree
  console : SameButOne (policyLine delimiter false) (policyLine delimiter true)
    lenient.console strict.console
  uncaught : strict.uncaught = lenient.uncaught
  exit_of_failed : failed → lenient.exit.code = 0 ∧ strict.exit.code = 2
  exit_of_not_failed : ¬ failed → strict.exit.code = lenient.exit.code

/-- A course completes with failures in its report. -/
def Course.EndsInFailures : Course → Prop
  | completed report _ _ => report.anyFailed = true
  | refused _ | brokenOff _ | failed _ _ => False

/-- Answers by one course under the two policies differ in the line that names the policy, and in
the exit code where the course ends in failures. -/
theorem Course.differsInPolicy {time time' : String} {course course' : Course}
    (h : course.SameButTime time time' course') (environment : Environment) (tree : FileTree)
    (settings : Settings) (conversion : Conversion) :
    DiffersInPolicy time time' settings.delimiter course.EndsInFailures
      (course.answer { environment with clock := time } tree { settings with strict := false }
        (conversion.heading tree { settings with strict := false }))
      (course'.answer { environment with clock := time' } tree { settings with strict := true }
        (conversion.heading tree { settings with strict := true })) := by
  have hconsole (notices : List Notice) :=
    ((sameButOne_heading tree settings conversion).append notices).print environment.markup
      settings.quiet
  rcases h with message | fault | htree | htree
  · exact ⟨.refl _ _ tree, .inl rfl, rfl, False.elim, fun _ ↦ rfl⟩
  · exact ⟨.refl _ _ tree, .inl rfl, rfl, False.elim, fun _ ↦ rfl⟩
  · refine ⟨htree, hconsole _, rfl, fun hfailed ↦ ?_, fun hfailed ↦ ?_⟩
    · simp [answer, Exit.ofReport, Exit.code, show _ = true from hfailed]
    · simp [answer, Exit.ofReport, Bool.eq_false_iff.2 hfailed]
  · exact ⟨htree, hconsole _, rfl, False.elim, fun _ ↦ rfl⟩

/-! ### Quiet consoles -/

/-- The outcome on a console that shows everything and the one on a quiet console, at two times. The
quiet console shows just the errors that the other one shows. -/
structure DiffersInPrinting (time time' : String) (loud quiet : Outcome) : Prop where
  files : loud.tree.SameButTime time time' quiet.tree
  console : quiet.console = loud.console.filter ConsoleEntry.isError
  uncaught : quiet.uncaught = loud.uncaught
  exit : quiet.exit.code = loud.exit.code

/-- Answers by one course with and without information differ in what is printed, and agree on the
errors. -/
theorem Course.differsInPrinting {time time' : String} {course course' : Course}
    (h : course.SameButTime time time' course') (hcalm : ∀ notice ∈ course.notices, notice.Calm)
    (environment : Environment) (tree : FileTree) (settings : Settings) (conversion : Conversion) :
    DiffersInPrinting time time'
      (course.answer { environment with clock := time } tree { settings with quiet := false }
        (conversion.heading tree { settings with quiet := false }))
      (course'.answer { environment with clock := time' } tree { settings with quiet := true }
        (conversion.heading tree { settings with quiet := true })) := by
  -- The heading is the same under both settings, for quiet ones do not change it.
  have hheading : conversion.heading tree { settings with quiet := true } =
      conversion.heading tree { settings with quiet := false } := by
    rcases conversion with ⟨input, output⟩ | input <;> rfl
  have hconsole : Notice.print environment.markup true
        (conversion.heading tree { settings with quiet := false } ++ course.notices) =
      (Notice.print environment.markup false
        (conversion.heading tree { settings with quiet := false } ++
          course.notices)).filter ConsoleEntry.isError :=
    Notice.print_quiet _ (List.forall_mem_append.2 ⟨calm_heading tree _ conversion, hcalm⟩)
  rw [hheading]
  rcases h with message | fault | htree | htree
  · exact ⟨.refl _ _ tree, Notice.print_quiet _ hcalm, rfl, rfl⟩
  · exact ⟨.refl _ _ tree, rfl, rfl, rfl⟩
  · exact ⟨htree, hconsole, rfl, rfl⟩
  · exact ⟨htree, hconsole, rfl, rfl⟩

/-! ### Two argument lists -/

theorem Conversion.endsInFailures_course_iff {environment : Environment} {tree : FileTree}
    {delimiter : String} {conversion : Conversion} :
    (conversion.course environment tree delimiter).EndsInFailures ↔
      ∃ report, conversion.Completes environment tree delimiter report ∧
        report.anyFailed = true := by
  simp only [completes_iff_course]
  rcases conversion.course environment tree delimiter with _ | _ | ⟨report, notices, after⟩ | _ <;>
    simp [Course.EndsInFailures]

/-- **Flags**: argument lists that ask for the same conversion of a directory and differ in the
policy on failures, or in whether the console is to be quiet, lead to the same files but for the
time in the manifest. The policy decides a word on the console, and the exit code just where the
conversion comes to its end with failures in its report. A quiet console shows the errors, and only
these. -/
theorem execute_flags (environment : Environment) (time time' : String) (tree : FileTree)
    (conversion : Conversion) (settings : Settings) (args args' : List String) :
    (environment.parser args = .command (conversion.command { settings with strict := false }) →
      environment.parser args' = .command (conversion.command { settings with strict := true }) →
      DiffersInPolicy time time' settings.delimiter
        (∃ report, conversion.Completes { environment with clock := time } tree settings.delimiter
          report ∧ report.anyFailed = true)
        (execute { environment with clock := time } tree args)
        (execute { environment with clock := time' } tree args')) ∧
    (environment.parser args = .command (conversion.command { settings with quiet := false }) →
      environment.parser args' = .command (conversion.command { settings with quiet := true }) →
      DiffersInPrinting time time'
        (execute { environment with clock := time } tree args)
        (execute { environment with clock := time' } tree args')) := by
  have hcourse := conversion.course_sameButTime environment time time' tree settings.delimiter
  have hexecute (time : String) {args : List String} {chosen : Settings}
      (hargs : environment.parser args = .command (conversion.command chosen)) :
      execute { environment with clock := time } tree args =
        (conversion.course { environment with clock := time } tree chosen.delimiter).answer
          { environment with clock := time } tree chosen (conversion.heading tree chosen) := by
    simp only [execute, hargs]
    exact perform_eq_answer _ tree chosen conversion
  refine ⟨fun hlenient hstrict ↦ ?_, fun hloud hquiet ↦ ?_⟩
  · rw [hexecute time hlenient, hexecute time' hstrict, ← Conversion.endsInFailures_course_iff]
    exact Course.differsInPolicy hcourse environment tree settings conversion
  · rw [hexecute time hloud, hexecute time' hquiet]
    exact Course.differsInPrinting hcourse (conversion.calm_course _ tree _) environment tree
      settings
      conversion

/-- An environment in which the one workbook of the sample directory cannot be read. -/
def sampleEnvironment : Environment where
  parser := Invocation.ofArguments
  reader := sampleReader (.unreadable "truncated")
  markup := .tags
  clock := "12:00"

/-- The flags in runs over the sample directory, a minute apart. -/
theorem execute_flags_sampleTree :
    DiffersInPolicy "12:00" "12:01" ";"
      (∃ report, (Conversion.run "in" "out").Completes
        sampleEnvironment sampleTree ";" report ∧
        report.anyFailed = true)
      (execute sampleEnvironment sampleTree
        ["run", "-d", ";", "in", "out"])
      (execute { sampleEnvironment with clock := "12:01" } sampleTree
        ["run", "in", "out", "--strict", "--array-delimiter=;"]) ∧
    DiffersInPrinting "12:00" "12:01"
      (execute sampleEnvironment sampleTree
        ["run", "-d", ";", "in", "out"])
      (execute { sampleEnvironment with clock := "12:01" } sampleTree
        ["run", "-qd;", "in", "out"]) :=
  ⟨(execute_flags sampleEnvironment "12:00" "12:01" sampleTree (.run "in" "out") { delimiter := ";" }
      ["run", "-d", ";", "in", "out"]
      ["run", "in", "out", "--strict", "--array-delimiter=;"]).1 (by decide) (by decide),
    (execute_flags sampleEnvironment "12:00" "12:01" sampleTree (.run "in" "out") { delimiter := ";" }
      ["run", "-d", ";", "in", "out"] ["run", "-qd;", "in", "out"]).2 (by decide) (by decide)⟩

end CommandLine

end ConfigTables
