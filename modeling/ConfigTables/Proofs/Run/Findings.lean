import ConfigTables.Proofs.Sheet.Conversion
import ConfigTables.Run.Batch

/-!
# What a run finds, and what becomes of it

A run goes through the tabs of a directory once and carries a table of the file names claimed so
far. What becomes of a tab can be said without that table. The *findings* of a run are the
unreadable workbooks and the results of the tabs, in order. A finding is *settled* by a look at the
findings before it (`Finding.settle`): a config sheet is refused its file name if the name is unsafe
or claimed by an earlier finding.

The table agrees with the findings so far if it gives, for every file name, the first finding that
claims it (`Batch.ClaimsOf`). Letting a result claim its file name settles it and keeps the
agreement (`Batch.claim_spec`).
-/

namespace ConfigTables

/-- Something that a run comes across. -/
inductive Finding where
  /-- A workbook that cannot be read. -/
  | unreadable (workbook : String) (fault : LoadFault)
  /-- A tab of a workbook, with the result of its conversion. -/
  | tab (workbook : String) (result : TabResult)

namespace Finding

/-- The file name that a finding asks for. Only config sheets ask for one. -/
def fileName? : Finding → Option String
  | unreadable .. => none
  | tab _ result => result.sheet?.map (·.markers.fileName)

/-- Whether a finding claims a file name: it asks for it, and the name is safe. Whether its values
convert does not matter. -/
def claims (name : String) (finding : Finding) : Bool :=
  finding.fileName? = some name && !Batch.isUnsafeName name

/-- What messages call a finding. -/
def label : Finding → String
  | unreadable workbook _ => workbook
  | tab workbook result => workbook ++ ":" ++ result.name

/-- Why a finding is refused the file name that it asks for, given the findings before it. -/
def refusal? (before : List Finding) (finding : Finding) : Option Fault :=
  finding.fileName?.bind fun name ↦
    if Batch.isUnsafeName name then some (.fileNameUnsafe name)
    else (before.find? (claims name)).map fun owner ↦ .fileNameTaken name owner.label

/-- What becomes of a finding, given the findings before it. -/
def settle (before : List Finding) : Finding → Finding
  | unreadable workbook fault => unreadable workbook fault
  | tab workbook result =>
    match refusal? before (tab workbook result) with
    | some fault => tab workbook (Batch.rejectName result fault)
    | none => tab workbook result

/-- What becomes of findings, each given those before it. -/
def settleAll (before : List Finding) : List Finding → List Finding
  | [] => []
  | finding :: findings => settle before finding :: settleAll (before ++ [finding]) findings

/-- What is entered in a report for a finding, with the files that were written for it. -/
def entry (outputs : List Path) : Finding → ReportEntry
  | unreadable workbook fault =>
    { workbook := .text workbook
      sheetName := .text ""
      status := .unreadable
      fileName := .text ""
      className := .text ""
      rowsIn := 0
      rowsOut := 0
      errors := [fault.message]
      outputs := [] }
  | tab workbook result => result.report workbook outputs

/-- A finding claims the name of the file that it is for, if that is a safe one. -/
theorem claims_iff {name : String} {finding : Finding} :
    finding.claims name = true ↔
      finding.fileName? = some name ∧ Batch.isUnsafeName name = false := by
  simp [claims]

/-! ### Settling in parts -/

/-- Findings may be settled piece by piece, each piece after all that came before. -/
theorem settleAll_append (before findings more : List Finding) :
    settleAll before (findings ++ more) =
      settleAll before findings ++ settleAll (before ++ findings) more := by
  induction findings generalizing before with
  | nil => simp [settleAll]
  | cons finding findings ih =>
    rw [List.cons_append, settleAll, settleAll, ih, List.cons_append, List.append_assoc]
    rfl

@[simp]
theorem length_settleAll (before findings : List Finding) :
    (settleAll before findings).length = findings.length := by
  induction findings generalizing before with
  | nil => rfl
  | cons finding findings ih => rw [settleAll, List.length_cons, List.length_cons, ih]

/-- A settled finding is one of the findings, settled after some of them. -/
theorem mem_settleAll {before findings : List Finding} {settled : Finding}
    (h : settled ∈ settleAll before findings) :
    ∃ finding ∈ findings, ∃ more, settled = settle (before ++ more) finding := by
  induction findings generalizing before with
  | nil => cases h
  | cons finding findings ih =>
    rcases List.mem_cons.1 h with rfl | h
    · exact ⟨finding, List.mem_cons_self, [], by rw [List.append_nil]⟩
    · obtain ⟨other, hmem, more, hsettled⟩ := ih h
      refine ⟨other, List.mem_cons_of_mem _ hmem, finding :: more, ?_⟩
      rwa [List.append_assoc] at hsettled

/-- What becomes of the finding at a place is decided by the findings up to that place. -/
theorem getElem?_settleAll (before findings : List Finding) (i : Nat) :
    (settleAll before findings)[i]? =
      findings[i]?.map (settle (before ++ findings.take i)) := by
  induction findings generalizing before i with
  | nil => rfl
  | cons finding findings ih =>
    rw [settleAll]
    cases i with
    | zero => simp
    | succ i => simp [ih]

/-! ### Refusals and entries in words -/

/-- A name is unsafe if it could lead somewhere else. -/
theorem isUnsafeName_iff {name : String} : Batch.isUnsafeName name = true ↔
    '/' ∈ name.toList ∨ '\\' ∈ name.toList ∨ name = "." ∨ name = ".." := by
  simp [Batch.isUnsafeName, or_assoc]

/-- Why a result is refused its file name, given the findings before it. Only a config sheet is
refused one: because the name would lead out of its directory, or because a finding before it
claims the name. -/
inductive Refused (before : List Finding) (result : TabResult) : Fault → Prop where
  | leadsAway {sheet : Sheet} (hsheet : result.outcome = .config sheet)
      (hname : '/' ∈ sheet.markers.fileName.toList ∨ '\\' ∈ sheet.markers.fileName.toList ∨
        sheet.markers.fileName = "." ∨ sheet.markers.fileName = "..") :
      Refused before result (.fileNameUnsafe sheet.markers.fileName)
  | taken {sheet : Sheet} {owner : Finding} (hsheet : result.outcome = .config sheet)
      (hfirst : before.find? (claims sheet.markers.fileName) = some owner) :
      Refused before result (.fileNameTaken sheet.markers.fileName owner.label)

/-- A finding is refused exactly for the reasons there are. -/
theorem refusal?_eq_some_iff {before : List Finding} {workbook : String} {result : TabResult}
    {fault : Fault} :
    refusal? before (tab workbook result) = some fault ↔ Refused before result fault := by
  rcases houtcome : result.outcome with sheet | ⟨name, rejection⟩
  · have hname : (tab workbook result).fileName? = some sheet.markers.fileName := by
      simp [fileName?, TabResult.sheet?, houtcome]
    rw [refusal?, hname, Option.bind_some]
    -- An unsafe name is refused before anybody asks who claimed it, and nobody can have.
    split_ifs with hbad
    · have hname := isUnsafeName_iff.1 hbad
      constructor
      · rintro ⟨⟩
        exact .leadsAway houtcome hname
      · rintro (⟨hsheet, -⟩ | ⟨hsheet, hfirst⟩)
        · cases houtcome.symm.trans hsheet
          rfl
        · cases houtcome.symm.trans hsheet
          have hclaims := List.find?_some hfirst
          simp [claims, hbad] at hclaims
    · constructor
      · intro h
        obtain ⟨owner, hfirst, rfl⟩ := Option.map_eq_some_iff.1 h
        exact .taken houtcome hfirst
      · rintro (⟨hsheet, hname⟩ | ⟨hsheet, hfirst⟩)
        · cases houtcome.symm.trans hsheet
          exact absurd (isUnsafeName_iff.2 hname) hbad
        · cases houtcome.symm.trans hsheet
          simp [hfirst]
  · have hname : (tab workbook result).fileName? = none := by
      simp [fileName?, TabResult.sheet?, houtcome]
    rw [refusal?, hname, Option.bind_none]
    constructor
    · rintro ⟨⟩
    · rintro (⟨hsheet, -⟩ | ⟨hsheet, -⟩) <;> cases houtcome.symm.trans hsheet

/-- What is entered for a finding, given the findings before it: that a workbook cannot be read,
that a result is refused its file name, or the result itself. -/
inductive Enters (before : List Finding) : Finding → ReportEntry → Prop where
  | unreadable (workbook : String) (fault : LoadFault) :
      Enters before (.unreadable workbook fault)
        { workbook := .text workbook
          sheetName := .text ""
          status := .unreadable
          fileName := .text ""
          className := .text ""
          rowsIn := 0
          rowsOut := 0
          errors := [fault.message]
          outputs := [] }
  | refused {workbook : String} {result : TabResult} {fault : Fault}
      (hrefused : Refused before result fault) :
      Enters before (.tab workbook result)
        { workbook := .text workbook
          sheetName := .text result.name
          status := .malformed
          fileName := .text ""
          className := .text ""
          rowsIn := 0
          rowsOut := 0
          errors := [fault.message]
          outputs := [] }
  | kept {workbook : String} {result : TabResult} {entry : ReportEntry}
      (hkept : ∀ fault, ¬Refused before result fault)
      (hentry : result.entry workbook [] = .ok entry) :
      Enters before (.tab workbook result) entry

/-- The entry of a finding that is settled tells what has been found. -/
theorem enters_settle (before : List Finding) (finding : Finding)
    (hbalanced : ∀ workbook result, finding = .tab workbook result → result.Balanced) :
    Enters before finding ((settle before finding).entry []) := by
  rcases finding with ⟨workbook, fault⟩ | ⟨workbook, result⟩
  · exact .unreadable workbook fault
  · rcases hrefusal : refusal? before (tab workbook result) with _ | fault
    · have hkept : settle before (tab workbook result) = tab workbook result := by
        simp [settle, hrefusal]
      rw [hkept]
      refine .kept (fun fault hrefused ↦ ?_) (TabResult.entry_eq_ok (hbalanced _ _ rfl) _ _)
      rw [refusal?_eq_some_iff.2 hrefused] at hrefusal
      cases hrefusal
    · have hreject : settle before (tab workbook result) =
          tab workbook (Batch.rejectName result fault) := by
        simp [settle, hrefusal]
      rw [hreject]
      exact .refused (refusal?_eq_some_iff.1 hrefusal)

end Finding

/-! ### The table of claimed names -/

namespace Batch

/-- A table gives, for every file name, the first finding that claims it. -/
def ClaimsOf (claimed : List (String × String)) (before : List Finding) : Prop :=
  ∀ name, claimed.lookup name = (before.find? (Finding.claims name)).map Finding.label

theorem claimsOf_nil : ClaimsOf [] [] := fun _ ↦ rfl

/-- A finding that claims nothing leaves the table as it is. -/
theorem ClaimsOf.append {claimed : List (String × String)} {before : List Finding}
    (h : ClaimsOf claimed before) {finding : Finding}
    (hclaims : ∀ name, finding.claims name = true → (claimed.lookup name).isSome) :
    ClaimsOf claimed (before ++ [finding]) := by
  intro name
  rw [List.find?_append, h name]
  rcases hfind : before.find? (Finding.claims name) with _ | owner
  · -- A name that the finding claimed would already be in the table.
    have hnot : finding.claims name = false := by
      by_contra hclaim
      have hsome := hclaims name (by simpa using hclaim)
      rw [h name, hfind] at hsome
      simp at hsome
    simp [hnot]
  · simp

/-- A finding that is the first to claim its file name is put into the table. -/
theorem ClaimsOf.cons {claimed : List (String × String)} {before : List Finding}
    (h : ClaimsOf claimed before) {finding : Finding} {fileName : String}
    (hfind : before.find? (Finding.claims fileName) = none)
    (hname : finding.fileName? = some fileName) (hsafe : isUnsafeName fileName = false) :
    ClaimsOf ((fileName, finding.label) :: claimed) (before ++ [finding]) := by
  intro name
  rw [List.find?_append]
  by_cases heq : name = fileName
  · subst heq
    have hclaims : finding.claims name = true := Finding.claims_iff.2 ⟨hname, hsafe⟩
    simp [hfind, hclaims]
  · have hclaims : finding.claims name = false := by
      simp [Finding.claims, hname, Ne.symm heq]
    rw [List.lookup_cons, beq_eq_false_iff_ne.2 heq, h name]
    simp [hclaims]

/-- **Claiming**: a result that claims its file name is settled, given the findings that the table
agrees with, and the table then agrees with one finding more. -/
theorem claim_spec {claimed : List (String × String)} {before : List Finding}
    (h : ClaimsOf claimed before) (workbook : String) (result : TabResult) :
    Finding.tab workbook (claim claimed workbook result).1 =
        Finding.settle before (.tab workbook result) ∧
      ClaimsOf (claim claimed workbook result).2 (before ++ [.tab workbook result]) := by
  unfold claim
  rcases hsheet : result.sheet? with _ | sheet
  · have hname : (Finding.tab workbook result).fileName? = none := by
      rw [Finding.fileName?, hsheet]
      rfl
    exact ⟨by simp [Finding.settle, Finding.refusal?, hname],
      h.append fun name hclaims ↦ by simp [Finding.claims, hname] at hclaims⟩
  · have hname : (Finding.tab workbook result).fileName? = some sheet.markers.fileName := by
      rw [Finding.fileName?, hsheet]
      rfl
    dsimp only
    generalize sheet.markers.fileName = fileName at hname ⊢
    split_ifs with hbad
    · -- An unsafe name is refused, and nobody claims it.
      refine ⟨by simp [Finding.settle, Finding.refusal?, hname, hbad], h.append ?_⟩
      rintro name hclaims
      obtain ⟨hask, hsafe⟩ := Finding.claims_iff.1 hclaims
      cases hname.symm.trans hask
      simp [hbad] at hsafe
    · have hlookup := h fileName
      rcases hfind : before.find? (Finding.claims fileName) with _ | owner
      · rw [hfind, Option.map_none] at hlookup
        rw [hlookup]
        exact ⟨by simp [Finding.settle, Finding.refusal?, hname, hbad, hfind],
          h.cons hfind hname (by simpa using hbad)⟩
      · rw [hfind, Option.map_some] at hlookup
        rw [hlookup]
        -- The name is taken, and the table goes on giving its first owner.
        refine ⟨by simp [Finding.settle, Finding.refusal?, hname, hbad, hfind], h.append ?_⟩
        rintro name hclaims
        cases hname.symm.trans (Finding.claims_iff.1 hclaims).1
        simp [hlookup]

end Batch

end ConfigTables
