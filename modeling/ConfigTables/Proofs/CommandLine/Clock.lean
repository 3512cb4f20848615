import ConfigTables.CommandLine.Execution
import ConfigTables.Proofs.Datum.Json
import ConfigTables.Proofs.File.Variation

/-!
# What depends on the time of a run

The time stands in the manifest and nowhere else. Runs at different times give the same result, make
the same entries, and leave trees that differ in the text of the manifest at most, where one gives
the one time and one the other (`CommandLine.parallel_convertAndReport`).
-/

namespace ConfigTables

namespace CommandLine

/-- The manifest of a run at a time. -/
def manifestOf (time : String) (input output : Path) (report : Report)
    (digests : List (String × String)) : Manifest :=
  { tool := .text toolName
    version := .text toolVersion
    inputDir := .text input.text
    outputDir := .text output.text
    createdAt := .text time
    status := .text (if report.anyFailed then "failed" else "success")
    sheetsConverted := report.count .converted
    sheetsFailed := report.failures.length
    inputs := digests.map fun digest ↦ (digest.1, .text digest.2) }

/-- The fields of the manifest of a run pass their checks. -/
theorem ofFields_manifestFields (environment : Environment) (input output : Path)
    (report : Report) (digests : List (String × String)) :
    Manifest.ofFields (manifestFields environment input output report digests) =
      .ok (manifestOf environment.clock input output report digests) := by
  rw [Manifest.ofFields, manifestFields]
  simp only [Field.readCount_int, NameTable.read, Except.bind_ok]
  rfl

end CommandLine

namespace FileTree

/-- Two trees differ at most in files that hold a manifest, which gives one time in the first and
another in the second. -/
structure SameButTime (time time' : String) (tree other : FileTree) : Prop where
  home : other.home = tree.home
  lookup : ∀ location, other.lookup location = tree.lookup location ∨ ∃ manifest : Manifest,
    tree.lookup location = some (.file
      (({ manifest with createdAt := .text time } : Manifest).toDatum.json ++ "\n").toUTF8) ∧
    other.lookup location = some (.file
      (({ manifest with createdAt := .text time' } : Manifest).toDatum.json ++ "\n").toUTF8)

theorem SameButTime.refl (time time' : String) (tree : FileTree) :
    SameButTime time time' tree tree :=
  ⟨rfl, fun _ ↦ .inl rfl⟩

end FileTree

namespace CommandLine

open FileTree

/-- Two states of a run that are the same but for the time that a manifest gives. -/
structure StateButTime (time time' : String) (state other : BatchState) : Prop where
  claimed : other.claimed = state.claimed
  entries : other.entries = state.entries
  tree : state.tree.SameButTime time time' other.tree

theorem StateButTime.refl (time time' : String) (state : BatchState) :
    StateButTime time time' state state :=
  ⟨rfl, rfl, .refl time time' state.tree⟩

/-- The time has a text, whatever it is, so it does not decide whether the manifest has one. -/
theorem hasText_manifestOf_iff (time time' : String) (input output : Path) (report : Report)
    (digests : List (String × String)) :
    (manifestOf time input output report digests).toDatum.HasText ↔
      (manifestOf time' input output report digests).toDatum.HasText := by
  have htime (s : String) : (Datum.text s).HasText := rfl
  simp only [Manifest.toDatum, Datum.hasText_object_iff, List.forall_mem_cons, manifestOf, htime]

/-- The counts in the manifest of a run are those of its report, so it has a text if the report has
one. -/
theorem hasText_manifestOf {report : Report} (h : report.toDatum.HasText) (time : String)
    (input output : Path) (digests : List (String × String)) :
    (manifestOf time input output report digests).toDatum.HasText := by
  have htext (s : String) : (Datum.text s).HasText := rfl
  simp only [Report.toDatum, Datum.hasText_object_iff, List.forall_mem_cons] at h
  simp only [Manifest.toDatum, Datum.hasText_object_iff, List.forall_mem_cons, manifestOf, htext,
    true_and]
  exact ⟨h.2.1, h.2.2.2.1, List.forall_mem_map.2 fun _ _ ↦ rfl, List.forall_mem_nil _⟩

/-- Writing the manifest of a run at one time or another. -/
theorem parallel_writeManifest (time time' : String) (input output : Path) (report : Report)
    (digests : List (String × String)) (state : BatchState) :
    EStateM.Parallel (StateButTime time time')
      (Batch.ofDisk (Export.writeManifest output
        (manifestOf time input output report digests)) state)
      (Batch.ofDisk (Export.writeManifest output
        (manifestOf time' input output report digests)) state) := by
  rw [Batch.ofDisk, Batch.ofDisk, Export.writeManifest, Export.writeManifest]
  by_cases htext : (manifestOf time input output report digests).toDatum.HasText
  case neg =>
    -- Without texts, nothing that depends on the time is written.
    rw [Artifact.write_ofDatum_of_not_hasText (mt (hasText_manifestOf_iff time' time ..).1 htext)
      htext]
    exact .refl (StateButTime.refl time time') _
  have htext' := (hasText_manifestOf_iff time time' ..).1 htext
  have hparallel := Artifact.parallel_writeText (output.child Export.manifestFile)
    ((manifestOf time input output report digests).toDatum.json ++ "\n")
    ((manifestOf time' input output report digests).toDatum.json ++ "\n") state.tree
  have hsame {tree other : FileTree} (h : Varies
      ((manifestOf time input output report digests).toDatum.json ++ "\n").toUTF8
      ((manifestOf time' input output report digests).toDatum.json ++ "\n").toUTF8 tree other) :
      tree.SameButTime time time' other :=
    ⟨h.home, fun location ↦ (h.lookup location).imp_right fun hboth ↦
      ⟨manifestOf time input output report digests, hboth⟩⟩
  rw [Artifact.write_eq_writeText (Artifact.text_ofDatum htext),
    Artifact.write_eq_writeText (Artifact.text_ofDatum htext')]
  simp only [Batch.ofRunDisk, RunDisk.ofDisk]
  generalize Artifact.writeText _ _ state.tree = result at hparallel ⊢
  generalize Artifact.writeText _ _ state.tree = result' at hparallel ⊢
  rcases hparallel with ⟨h⟩ | ⟨h⟩
  · exact .ok ⟨rfl, rfl, hsame h⟩
  · exact .error ⟨rfl, rfl, hsame h⟩

/-- **Time**: when a run takes place decides nothing but the time in its manifest. -/
theorem parallel_convertAndReport (environment : Environment) (time time' : String)
    (delimiter : Delimiter) (input output : Path) (state : BatchState) :
    EStateM.Parallel (StateButTime time time')
      (convertAndReport { environment with clock := time } delimiter input output state)
      (convertAndReport { environment with clock := time' } delimiter input output state) := by
  have hrefl := StateButTime.refl time time'
  refine .bind_same hrefl _ (fun _ state ↦ ?_) state
  refine .bind_same hrefl _ (fun report state ↦ ?_) state
  refine .bind_same hrefl _ (fun reportPath state ↦ ?_) state
  refine .bind ?_ fun manifestPath state other h ↦ .ok h
  refine .bind_same hrefl _ (fun before state ↦ ?_) state
  refine .bind_same hrefl _ (fun workbooks state ↦ ?_) state
  refine .bind_same hrefl _ (fun digests state ↦ ?_) state
  simp only [ofFields_manifestFields]
  exact parallel_writeManifest time time' input output report digests state

end CommandLine

end ConfigTables
