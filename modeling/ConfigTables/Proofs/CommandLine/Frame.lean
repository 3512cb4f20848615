import ConfigTables.CommandLine.Execution
import ConfigTables.Proofs.Programs

/-!
# Which commands change files

Programs of a run that write nothing leave the tree as it is, also where they break off
(`Batch.LeavesTree`). What is put together from such programs is one again, and without an output
directory there are no others in a conversion (`Batch.leavesTree_convertAll`).

So of all argument lists only those change files that start a run: they are read as the command
`run` and pass the checks that come first (`CommandLine.StartsRun`). Every other one leaves the
tree as it is, however it ends (`CommandLine.tree_execute_eq_or_startsRun`).
-/

namespace ConfigTables

namespace Batch

/-! ### Programs that write nothing -/

/-- The tree in which a program ends, whether it succeeds or breaks off. -/
def treeAfter {α : Type} : EStateM.Result RunFault BatchState α → FileTree
  | .ok _ state => state.tree
  | .error _ state => state.tree

/-- A program leaves the tree as it is, also where it breaks off. -/
def LeavesTree {α : Type} (program : Batch α) : Prop :=
  ∀ state, treeAfter (program state) = state.tree

section

variable {α β : Type} {program : Batch α} {next : α → Batch β}

theorem leavesTree_pure (a : α) : LeavesTree (pure a : Batch α) := fun _ ↦ rfl

theorem leavesTree_get : LeavesTree (get : Batch BatchState) := fun _ ↦ rfl

theorem leavesTree_throw (fault : RunFault) : LeavesTree (throw fault : Batch α) := fun _ ↦ rfl

/-- A program leaves the tree alone if each of its steps does. -/
theorem LeavesTree.bind (h : LeavesTree program) (hnext : ∀ a, LeavesTree (next a)) :
    LeavesTree (program >>= next) := by
  intro state
  have hfirst := h state
  rcases hrun : program state with ⟨a, between⟩ | ⟨fault, between⟩ <;> rw [hrun] at hfirst
  · rw [EStateM.bind_of_ok hrun]
    exact (hnext a between).trans hfirst
  · rw [EStateM.bind_of_error hrun]
    exact hfirst

/-- Going through a list leaves the tree alone if each step does. -/
theorem LeavesTree.forM {step : α → Batch PUnit} {as : List α}
    (h : ∀ a ∈ as, LeavesTree (step a)) : LeavesTree (as.forM step) := by
  induction as with
  | nil => exact leavesTree_pure _
  | cons a as ih =>
    rw [List.forall_mem_cons] at h
    exact h.1.bind fun _ ↦ ih h.2

end

/-! ### Conversions without an output directory -/

theorem leavesTree_enter (fields : Except FieldFault ReportEntry) : LeavesTree (enter fields) := by
  intro state
  rcases fields with fault | entry <;> rfl

/-- Without an output directory, entering a result writes nothing. -/
theorem leavesTree_addResult (workbook : String) (result : TabResult) :
    LeavesTree (addResult none workbook result) := by
  intro state
  -- Claiming the file name changes the table and not the tree, and there is nothing to write.
  have hadd : addResult none workbook result state =
      enter ((claim state.claimed workbook result).1.entry workbook [])
        { state with claimed := (claim state.claimed workbook result).2 } := rfl
  rw [hadd]
  exact leavesTree_enter _ _

variable (reader : WorkbookReader) (delimiter : Delimiter)

/-- Without an output directory, a workbook is only read. -/
theorem leavesTree_addWorkbook (path : Path) :
    LeavesTree (addWorkbook reader delimiter none path) := by
  refine leavesTree_get.bind fun state ↦ ?_
  split
  · exact .forM fun result _ ↦ leavesTree_addResult path.name result
  · split_ifs
    · exact leavesTree_enter _
    · exact leavesTree_throw _

/-- **Conversion without output**: it leaves the tree as it is, whatever is in the workbooks and
however reading them fails. -/
theorem leavesTree_convertAll (input : Path) :
    LeavesTree (convertAll reader delimiter input none) := by
  refine .bind (fun state ↦ ?_) fun workbooks ↦ .bind (.forM fun path _ ↦ ?_) fun _ ↦
    leavesTree_get.bind fun _ ↦ leavesTree_pure _
  · simp only [ofRunDisk]
    rcases workbooksIn state.tree input with fault | workbooks <;> rfl
  · exact leavesTree_addWorkbook reader delimiter path

end Batch

namespace CommandLine

/-! ### Checks and outcomes -/

/-- A command with checks before it leaves the tree as it is, unless the checks pass. -/
theorem tree_withChecks_eq_or (environment : Environment) (tree : FileTree) (settings : Settings)
    (input : Path) (go : Delimiter → Outcome) :
    (withChecks environment tree settings input go).tree = tree ∨
      ∃ delimiter, Delimiter.ofText? settings.delimiter = some delimiter ∧
        tree.isDirectory input = .ok true ∧
        withChecks environment tree settings input go = go delimiter := by
  unfold withChecks
  rcases Delimiter.ofText? settings.delimiter with _ | delimiter
  · exact .inl rfl
  · rcases tree.isDirectory input with fault | _ | _
    · exact .inl rfl
    · exact .inl rfl
    · exact .inr ⟨delimiter, rfl, rfl, rfl⟩

/-- An outcome has the tree that the run has left. -/
theorem tree_conclude {α : Type} (environment : Environment) (settings : Settings)
    (before : List Notice) (atEnd : α → List Notice) (report : α → Report)
    (result : EStateM.Result RunFault BatchState α) :
    (conclude environment settings before atEnd report result).tree = Batch.treeAfter result := by
  rcases result with ⟨answer, state⟩ | ⟨fault, state⟩ <;> rfl

/-- Validating leaves the tree alone, whatever the workbooks are and however it ends. -/
theorem tree_validate (environment : Environment) (tree : FileTree) (settings : Settings)
    (input : Path) : (validate environment tree settings input).tree = tree := by
  rcases tree_withChecks_eq_or environment tree settings input _ with htree | ⟨delimiter, -, -, hgo⟩
  · exact htree
  · rw [validate, hgo, tree_conclude]
    exact Batch.leavesTree_convertAll environment.reader delimiter input { tree }

/-- Looking into a workbook leaves the tree alone. -/
theorem tree_inspect (environment : Environment) (tree : FileTree) (workbook : Path) :
    (inspect environment tree workbook).tree = tree := by
  unfold inspect
  split
  · split_ifs <;> rfl
  · split <;> rfl

/-! ### Argument lists -/

/-- An argument list starts a run: it is read as the command `run`, the delimiter is not empty, and
the input leads to a directory. -/
inductive StartsRun (parser : ArgumentParser) (tree : FileTree) (args : List String) : Prop where
  | intro {input output : String} {settings : Settings}
      (hread : parser args = .command (.run input output settings))
      (hdelimiter : settings.delimiter ≠ "")
      (hinput : tree.isDirectory (absolute tree input) = .ok true)

/-- **Frame**: an argument list that does not start a run leaves every file and directory as it is,
however argument lists and workbooks are read and however the command ends. -/
theorem tree_execute_eq_or_startsRun (environment : Environment) (tree : FileTree)
    (args : List String) :
    (execute environment tree args).tree = tree ∨ StartsRun environment.parser tree args := by
  unfold execute
  rcases hread : environment.parser args with _ | _ | _ | command
  · exact .inl rfl
  · exact .inl rfl
  · exact .inl rfl
  -- Of the commands only a run writes, and only once its checks are passed.
  · rcases command with ⟨input, output, settings⟩ | ⟨input, settings⟩ | workbook
    · rcases tree_withChecks_eq_or environment tree settings (absolute tree input) _ with
        htree | ⟨delimiter, hdelimiter, hinput, -⟩
      · exact .inl htree
      · refine .inr (.intro hread ?_ hinput)
        rw [← Delimiter.ofText?_eq_some_iff.1 hdelimiter]
        exact delimiter.text_ne
    · exact .inl (tree_validate environment tree settings (absolute tree input))
    · refine .inl ?_
      simp only [perform]
      split_ifs
      · exact tree_inspect environment tree (Path.ofText workbook)
      · rfl

end CommandLine

end ConfigTables
