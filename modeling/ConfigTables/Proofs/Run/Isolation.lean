import ConfigTables.Proofs.Run.Validation

/-!
# Unreadable workbooks among others

An unreadable workbook is one finding that claims no file name. Taking such findings away changes
nothing about what becomes of the others (`Finding.settleAll_filter`), and taking the files away
from the directory takes exactly these findings away (`Batch.flatten_eq_filter_isTab`). So a run
over the other workbooks alone reports the same on them (`Batch.isolates_unreadable_iff`).

All this needs a report. There is none if the reader breaks down on a workbook, which is the one way
of failing that is not recorded (`LoadFault.isRecorded_eq_false_iff`): the run then ends there.
-/

namespace ConfigTables

/-- The one way of failing that is not recorded is that the reader breaks down. -/
theorem LoadFault.isRecorded_eq_false_iff {fault : LoadFault} :
    fault.isRecorded = false ↔ ∃ kind message, fault = .crash kind message := by
  rcases fault <;> simp [isRecorded]

/-! ### Findings without the unreadable workbooks -/

namespace Finding

/-- Whether a finding is that of a tab. -/
def isTab : Finding → Bool
  | unreadable .. => false
  | tab .. => true

/-- A workbook that cannot be read claims no file. -/
theorem claims_eq_false_of_isTab {finding : Finding} (h : finding.isTab = false) (name : String) :
    finding.claims name = false := by
  rcases finding with ⟨workbook, fault⟩ | ⟨workbook, result⟩
  · simp [claims, fileName?]
  · cases h

/-- A finding is refused for earlier tabs only, never for a workbook that cannot be read. -/
theorem refusal?_filter (before : List Finding) (finding : Finding) :
    refusal? (before.filter isTab) finding = refusal? before finding := by
  have hfind (name : String) :
      (before.filter isTab).find? (claims name) = before.find? (claims name) := by
    rw [List.find?_filter]
    congr 1
    funext earlier
    rcases htab : earlier.isTab with _ | _
    · simp [claims_eq_false_of_isTab htab]
    · simp
  simp only [refusal?, hfind]

theorem isTab_settle (before : List Finding) (finding : Finding) :
    (settle before finding).isTab = finding.isTab := by
  rcases finding with ⟨workbook, fault⟩ | ⟨workbook, result⟩
  · rfl
  · rw [settle]
    split <;> rfl

/-- So workbooks that cannot be read make no difference to what is settled after them. -/
theorem settle_filter (before : List Finding) (finding : Finding) :
    settle (before.filter isTab) finding = settle before finding := by
  rcases finding with ⟨workbook, fault⟩ | ⟨workbook, result⟩
  · rfl
  · rw [settle, settle, refusal?_filter]

/-- What becomes of tabs does not depend on the unreadable workbooks among them. -/
theorem settleAll_filter (before findings : List Finding) :
    settleAll (before.filter isTab) (findings.filter isTab) =
      (settleAll before findings).filter isTab := by
  induction findings generalizing before with
  | nil => rfl
  | cons finding findings ih =>
    have hrest := ih (before ++ [finding])
    rw [settleAll, List.filter_cons, List.filter_cons, isTab_settle]
    rcases htab : finding.isTab with _ | _
    · rw [List.filter_append] at hrest
      simpa [htab] using hrest
    · rw [List.filter_append] at hrest
      simpa [htab, settleAll, settle_filter] using hrest

/-- An unreadable workbook stays what it is. -/
theorem settleAll_filter_not (before findings : List Finding) :
    (settleAll before findings).filter (fun finding ↦ !finding.isTab) =
      findings.filter fun finding ↦ !finding.isTab := by
  induction findings generalizing before with
  | nil => rfl
  | cons finding findings ih =>
    rw [settleAll, List.filter_cons, List.filter_cons, isTab_settle, ih]
    rcases finding with ⟨workbook, fault⟩ | ⟨workbook, result⟩ <;> rfl

/-- The workbook that a finding belongs to. -/
def workbook : Finding → String
  | unreadable workbook _ => workbook
  | tab workbook _ => workbook

theorem workbook_settle (before : List Finding) (finding : Finding) :
    (settle before finding).workbook = finding.workbook := by
  rcases finding with ⟨workbook, fault⟩ | ⟨workbook, result⟩
  · rfl
  · rw [settle]
    split <;> rfl

theorem workbook_entry (finding : Finding) (outputs : List Path) :
    (finding.entry outputs).workbook = .text finding.workbook := by
  rcases finding with ⟨workbook, fault⟩ | ⟨workbook, result⟩ <;> rfl

/-- Just the workbooks that cannot be read are entered as such. -/
theorem status_entry_eq_unreadable_iff {finding : Finding} {outputs : List Path} :
    (finding.entry outputs).status = .unreadable ↔ finding.isTab = false := by
  rcases finding with ⟨workbook, fault⟩ | ⟨workbook, result⟩
  · exact ⟨fun _ ↦ rfl, fun _ ↦ rfl⟩
  · refine ⟨fun h ↦ ?_, fun h ↦ by cases h⟩
    -- A tab has one of the other statuses.
    change result.status = .unreadable at h
    rw [TabResult.status] at h
    split at h
    · cases h
    · cases h
    · split at h <;> cases h

/-- The entries of the unreadable workbooks and those of the tabs, as entries of findings. -/
theorem filter_map_entry (findings : List Finding) :
    (findings.map (entry [])).filter (fun entry ↦ entry.status = .unreadable) =
        (findings.filter fun finding ↦ !finding.isTab).map (entry []) ∧
      (findings.map (entry [])).filter (fun entry ↦ entry.status ≠ .unreadable) =
        (findings.filter isTab).map (entry []) := by
  constructor <;> rw [List.filter_map] <;> congr 2 <;> funext finding <;>
    simp [status_entry_eq_unreadable_iff]

end Finding

/-! ### Directories without some of their files -/

namespace FileTree

/-- The tree without what is at some locations. -/
def without (tree : FileTree) (gone : List Location) : FileTree :=
  { tree with entries := tree.entries.filter fun entry ↦ entry.1 ∉ gone }

theorem lookup_without_of_notMem (tree : FileTree) {gone : List Location} {location : Location}
    (h : location ∉ gone) : (tree.without gone).lookup location = tree.lookup location := by
  rw [lookup, lookup]
  congr 1
  rw [without]
  induction tree.entries with
  | nil => rfl
  | cons entry entries ih =>
    obtain ⟨l, e⟩ := entry
    by_cases hl : l ∈ gone
    · have hne : location ≠ l := by
        rintro rfl
        exact h hl
      rw [List.filter_cons_of_neg (by simpa using hl), ih, List.lookup_cons,
        beq_eq_false_iff_ne.2 hne]
    · rw [List.filter_cons_of_pos (by simpa using hl), List.lookup_cons, List.lookup_cons, ih]

theorem lookup_without_of_mem (tree : FileTree) {gone : List Location} {location : Location}
    (h : location ∈ gone) (hne : location ≠ []) : (tree.without gone).lookup location = none := by
  rw [lookup, if_neg hne, List.lookup_eq_none_iff]
  rintro entry hmem
  have hkept : entry.1 ∉ gone := by simpa using (List.mem_filter.1 hmem).2
  rw [bne_iff_ne]
  rintro rfl
  exact hkept h

theorem Distinct.without {tree : FileTree} (h : tree.Distinct) (gone : List Location) :
    (tree.without gone).Distinct :=
  h.sublist (List.filter_sublist.map Prod.fst)

end FileTree

namespace Batch

variable {reader : WorkbookReader} {delimiter : Delimiter} {tree : FileTree} {input : Path}
  {location : Location}

/-- The names of the workbooks that cannot be loaded. -/
def failing (reader : WorkbookReader) (tree : FileTree) (input : Path) (location : Location) :
    List String :=
  (Workbook.names tree location).filter fun name ↦
    !(Workbook.load reader tree (input.entry name)).isOk

/-- The tree without the workbooks that cannot be loaded. -/
def withoutFailing (reader : WorkbookReader) (tree : FileTree) (input : Path)
    (location : Location) : FileTree :=
  tree.without ((failing reader tree input location).map fun name ↦ location ++ [name])

/-- The failing workbooks are those that are listed and not loaded. -/
theorem mem_failing_iff {name : String} : name ∈ failing reader tree input location ↔
    name ∈ Workbook.names tree location ∧
      ∃ fault, Workbook.load reader tree (input.entry name) = .error fault := by
  rw [failing, List.mem_filter]
  refine and_congr_right fun _ ↦ ?_
  rcases Workbook.load reader tree (input.entry name) with fault | tabs <;>
    simp [Except.isOk, Except.toBool]

/-- A listed workbook is loaded just if it is not among the failing ones. -/
theorem isOk_load_iff {name : String} (h : name ∈ Workbook.names tree location) :
    (Workbook.load reader tree (input.entry name)).isOk = true ↔
      name ∉ failing reader tree input location := by
  rw [failing, List.mem_filter, not_and]
  simp [h]

theorem lookup_withoutFailing_of_notMem {name : String}
    (h : name ∉ failing reader tree input location) :
    (withoutFailing reader tree input location).lookup (location ++ [name]) =
      tree.lookup (location ++ [name]) := by
  refine FileTree.lookup_without_of_notMem tree fun hmem ↦ h ?_
  obtain ⟨other, hother, heq⟩ := List.mem_map.1 hmem
  simp only [List.append_cancel_left_eq, List.cons.injEq, and_true] at heq
  exact heq ▸ hother

/-- Only files are taken away. -/
theorem keepsDirectories_withoutFailing (hdistinct : tree.Distinct) :
    FileTree.KeepsDirectories tree (withoutFailing reader tree input location) := by
  refine ⟨rfl, fun place hdir ↦ ?_⟩
  rw [withoutFailing, FileTree.lookup_without_of_notMem, hdir]
  intro hmem
  obtain ⟨name, hname, rfl⟩ := List.mem_map.1 hmem
  obtain ⟨-, content, hfile⟩ := (Workbook.mem_names hdistinct).1 (mem_failing_iff.1 hname).1
  rw [hdir] at hfile
  cases hfile

/-- The directory can still be listed without its failing workbooks. -/
theorem listable_withoutFailing (reader : WorkbookReader) (hdistinct : tree.Distinct)
    (hinput : Workbook.Listable tree input location) :
    Workbook.Listable (withoutFailing reader tree input location) input location := by
  refine hinput.mono (keepsDirectories_withoutFailing hdistinct) fun child hchild ↦ ?_
  rw [Workbook.mem_children] at hchild ⊢
  exact (List.mem_filter.1 hchild).1

/-- The other workbooks are those that are left. -/
theorem names_withoutFailing (hdistinct : tree.Distinct) :
    Workbook.names (withoutFailing reader tree input location) location =
      (Workbook.names tree location).filter fun name ↦
        (Workbook.load reader tree (input.entry name)).isOk := by
  have hdistinct' : (withoutFailing reader tree input location).Distinct := hdistinct.without _
  refine (Workbook.pairwise_names hdistinct' location).eq_of_mem_iff
    ((Workbook.pairwise_names hdistinct location).filter _) fun name ↦ ?_
  rw [List.mem_filter]
  by_cases hname : name ∈ failing reader tree input location
  · have hgone : (withoutFailing reader tree input location).lookup (location ++ [name]) = none :=
      FileTree.lookup_without_of_mem tree (List.mem_map_of_mem hname)
        (List.append_ne_nil_of_right_ne_nil _ (List.cons_ne_nil _ _))
    rw [isOk_load_iff (mem_failing_iff.1 hname).1, Workbook.mem_names hdistinct', hgone]
    simp [hname]
  · rw [Workbook.mem_names hdistinct', lookup_withoutFailing_of_notMem hname,
      ← Workbook.mem_names hdistinct]
    exact (and_iff_left_of_imp fun hmem ↦ (isOk_load_iff hmem).2 hname).symm

/-! ### Runs with and without the unreadable workbooks -/

/-- A finding belongs to its workbook, and is a tab just if the workbook is loaded. -/
theorem Finds.spec {path : Path} {found : List Finding}
    (h : Finds reader delimiter tree path found) {finding : Finding} (hmem : finding ∈ found) :
    finding.workbook = path.name ∧
      finding.isTab = (Workbook.load reader tree path).isOk := by
  rcases h with ⟨hload, -⟩ | ⟨hload, -⟩
  · cases List.mem_singleton.1 hmem
    rw [hload]
    exact ⟨rfl, rfl⟩
  · obtain ⟨result, -, rfl⟩ := List.mem_map.1 hmem
    rw [hload]
    exact ⟨rfl, rfl⟩

/-- All findings of a workbook that loads are tabs. -/
theorem Finds.filter_of_isOk {path : Path} {found : List Finding}
    (h : Finds reader delimiter tree path found)
    (hok : (Workbook.load reader tree path).isOk = true) :
    found.filter Finding.isTab = found ∧ found.filter (fun finding ↦ !finding.isTab) = [] := by
  constructor
  · rw [List.filter_eq_self]
    exact fun finding hmem ↦ (h.spec hmem).2.trans hok
  · rw [List.filter_eq_nil_iff]
    intro finding hmem
    rw [(h.spec hmem).2, hok]
    decide

/-- The only finding of a workbook that does not load is that it does not. -/
theorem Finds.filter_of_not_isOk {path : Path} {found : List Finding}
    (h : Finds reader delimiter tree path found)
    (hok : (Workbook.load reader tree path).isOk = false) :
    found.filter Finding.isTab = [] ∧
      (found.filter fun finding ↦ !finding.isTab).map Finding.workbook = [path.name] := by
  rcases h with ⟨hload, -⟩ | ⟨hload, -⟩
  · exact ⟨rfl, rfl⟩
  · rw [hload] at hok
    cases hok

/-- The findings of the other workbooks are those of the tabs. -/
theorem flatten_eq_filter_isTab {names : List String} {found found' : List (List Finding)}
    (h : List.Forall₂ (fun name ↦ Finds reader delimiter tree (input.entry name)) names found)
    (h' : List.Forall₂ (fun name ↦ Finds reader delimiter tree (input.entry name))
      (names.filter fun name ↦ (Workbook.load reader tree (input.entry name)).isOk) found') :
    found'.flatten = found.flatten.filter Finding.isTab := by
  induction h generalizing found' with
  | nil =>
    cases h'
    rfl
  | @cons name first names found hfinds _ ih =>
    rcases hok : (Workbook.load reader tree (input.entry name)).isOk with _ | _
    · rw [List.filter_cons_of_neg (by simp [hok])] at h'
      rw [List.flatten_cons, List.filter_append, (hfinds.filter_of_not_isOk hok).1, ih h',
        List.nil_append]
    · rw [List.filter_cons_of_pos (by simp [hok])] at h'
      obtain ⟨first', rest', hfinds', hrest, rfl⟩ := List.forall₂_cons_left_iff.1 h'
      rw [List.flatten_cons, List.flatten_cons, List.filter_append, (hfinds.filter_of_isOk hok).1,
        ih hrest, hfinds.unique hfinds']

/-- The unreadable workbooks have one finding each. -/
theorem workbooks_eq_failing {names : List String} {found : List (List Finding)}
    (h : List.Forall₂ (fun name ↦ Finds reader delimiter tree (input.entry name)) names found) :
    (found.flatten.filter fun finding ↦ !finding.isTab).map Finding.workbook =
      names.filter fun name ↦ !(Workbook.load reader tree (input.entry name)).isOk := by
  induction h with
  | nil => rfl
  | @cons name first names found hfinds _ ih =>
    rw [List.flatten_cons, List.filter_append, List.map_append, ih]
    rcases hok : (Workbook.load reader tree (input.entry name)).isOk with _ | _
    · rw [(hfinds.filter_of_not_isOk hok).2, List.filter_cons_of_pos (by simp [hok]),
        Path.name_entry]
      rfl
    · rw [(hfinds.filter_of_isOk hok).2, List.filter_cons_of_neg (by simp [hok])]
      rfl

/-- Every finding of a run belongs to one of the listed workbooks. -/
theorem exists_mem_of_mem_flatten {names : List String} {found : List (List Finding)}
    (h : List.Forall₂ (fun name ↦ Finds reader delimiter tree (input.entry name)) names found)
    {finding : Finding} (hmem : finding ∈ found.flatten) :
    ∃ name ∈ names, finding.workbook = name ∧
      finding.isTab = (Workbook.load reader tree (input.entry name)).isOk := by
  induction h with
  | nil => cases hmem
  | @cons name first names found hfinds _ ih =>
    rcases List.mem_append.1 hmem with hmem | hmem
    · obtain ⟨hworkbook, htab⟩ := hfinds.spec hmem
      exact ⟨name, List.mem_cons_self, hworkbook.trans (Path.name_entry _ _), htab⟩
    · obtain ⟨other, hother, hspec⟩ := ih hmem
      exact ⟨other, List.mem_cons_of_mem _ hother, hspec⟩

/-- The other workbooks load without the unreadable ones as they do with them. -/
theorem load_withoutFailing (reader : WorkbookReader) (hdistinct : tree.Distinct)
    (hinput : Workbook.Listable tree input location) :
    ∀ name ∈ Workbook.names (withoutFailing reader tree input location) location,
      Workbook.load reader (withoutFailing reader tree input location) (input.entry name) =
        Workbook.load reader tree (input.entry name) := by
  intro name hname
  rw [names_withoutFailing hdistinct, List.mem_filter] at hname
  have hbook := ((Workbook.mem_names hdistinct).1 hname.1).1
  have hkeeps : FileTree.KeepsDirectories tree (withoutFailing reader tree input location) :=
    keepsDirectories_withoutFailing hdistinct
  refine Workbook.load_eq_of_keeps reader hkeeps hinput hbook ?_
  exact lookup_withoutFailing_of_notMem ((isOk_load_iff hname.1).1 hname.2)

/-- A report in which the unreadable workbooks leave no trace but their own entries: there is one
for each of them, in order, no other entry is about them, and the other entries are those of a run
over the directory without them. -/
structure Isolates (reader : WorkbookReader) (delimiter : Delimiter) (tree : FileTree)
    (input : Path) (location : Location) (report : Report) : Prop where
  once : (report.entries.filter fun entry ↦ entry.status = .unreadable).map (·.workbook) =
    (failing reader tree input location).map Datum.text
  only : ∀ entry ∈ report.entries, entry.status = .unreadable ↔
    ∃ name ∈ failing reader tree input location, entry.workbook = .text name
  others : ∃ report' state', convertAll reader delimiter input none
      { tree := withoutFailing reader tree input location } = .ok report' state' ∧
    report'.entries = report.entries.filter fun entry ↦ entry.status ≠ .unreadable

/-- Where every failure to load is recorded, a run comes to its end and isolates them. -/
theorem exists_isolates (delimiter : Delimiter) (hdistinct : tree.Distinct)
    (hinput : Workbook.Listable tree input location)
    (hloads : ∀ name ∈ Workbook.names tree location, ∀ fault,
      Workbook.load reader tree (input.entry name) = .error fault → fault.isRecorded = true) :
    ∃ report state, convertAll reader delimiter input none { tree } = .ok report state ∧
      Isolates reader delimiter tree input location report := by
  obtain ⟨found, state, hfound, hrun⟩ := exists_validation delimiter hinput hloads
  have hload := load_withoutFailing reader hdistinct hinput
  have hloads' : ∀ name ∈ Workbook.names (withoutFailing reader tree input location) location,
      ∀ fault, Workbook.load reader (withoutFailing reader tree input location)
        (input.entry name) = .error fault → fault.isRecorded = true := by
    intro name hname fault hfault
    rw [hload name hname] at hfault
    rw [names_withoutFailing hdistinct, List.mem_filter] at hname
    exact hloads name hname.1 fault hfault
  obtain ⟨found', state', hfound', hrun'⟩ := exists_validation delimiter
    (listable_withoutFailing reader hdistinct hinput) hloads'
  refine ⟨_, state, hrun, ?_, ?_, _, state', hrun', ?_⟩
  · -- Settling leaves the findings that are no tabs alone, and there is one for each failing name.
    rw [(Finding.filter_map_entry _).1, Finding.settleAll_filter_not, List.map_map,
      failing, ← workbooks_eq_failing hfound, List.map_map]
    exact List.map_congr_left fun finding _ ↦ Finding.workbook_entry finding []
  · -- An entry says unreadable exactly if its finding is no tab, and then its name is failing.
    intro entry hentry
    obtain ⟨settled, hsettled, rfl⟩ := List.mem_map.1 hentry
    obtain ⟨finding, hfinding, earlier, rfl⟩ := Finding.mem_settleAll hsettled
    rw [Finding.status_entry_eq_unreadable_iff, Finding.isTab_settle, Finding.workbook_entry,
      Finding.workbook_settle]
    obtain ⟨name, hname, hworkbook, htab⟩ := exists_mem_of_mem_flatten hfound hfinding
    rw [htab, hworkbook]
    simp only [Datum.text.injEq, exists_eq_right']
    rw [← Bool.not_eq_true, isOk_load_iff hname, not_not]
  · -- Only tabs claim names, so it comes to the same whether the others are left out before the
    -- findings are settled or afterwards.
    have hfound'' := forall₂_finds_congr hfound' hload
    rw [names_withoutFailing hdistinct] at hfound''
    rw [(Finding.filter_map_entry _).2, ← Finding.settleAll_filter,
      ← flatten_eq_filter_isTab hfound hfound'']
    rfl

/-- Whether the reader breaks down on a workbook. -/
def breaksDown (reader : WorkbookReader) (tree : FileTree) (path : Path) : Bool :=
  match Workbook.load reader tree path with
  | .ok _ => false
  | .error fault => !fault.isRecorded

theorem breaksDown_iff {path : Path} : breaksDown reader tree path = true ↔
    ∃ kind message, Workbook.load reader tree path = .error (.crash kind message) := by
  rw [breaksDown]
  rcases Workbook.load reader tree path with fault | tabs
  · simp [LoadFault.isRecorded_eq_false_iff]
  · simp

/-- A run that ends with a report has met no reader that breaks down. -/
theorem isRecorded_of_validation (hinput : Workbook.Listable tree input location)
    {report : Report} {state : BatchState}
    (hrun : convertAll reader delimiter input none { tree } = .ok report state) :
    ∀ name ∈ Workbook.names tree location, ∀ fault,
      Workbook.load reader tree (input.entry name) = .error fault → fault.isRecorded = true := by
  intro name hname fault hfault
  by_contra hnot
  obtain ⟨kind, message, rfl⟩ := LoadFault.isRecorded_eq_false_iff.1 (by simpa using hnot)
  have hbreaks : breaksDown reader tree (input.entry name) = true :=
    breaksDown_iff.2 ⟨kind, message, hfault⟩
  -- The run would have ended at the first workbook on which the reader breaks down.
  obtain ⟨first, hfirst⟩ : ∃ first, (Workbook.names tree location).find?
      (fun name ↦ breaksDown reader tree (input.entry name)) = some first :=
    Option.isSome_iff_exists.1 (List.find?_isSome.2 ⟨name, hname, hbreaks⟩)
  obtain ⟨hcrash, done, rest, hnames, hdone⟩ := List.find?_eq_some_iff_append.1 hfirst
  obtain ⟨kind, message, hcrash⟩ := breaksDown_iff.1 hcrash
  have hrecorded : ∀ earlier ∈ done, ∀ fault,
      Workbook.load reader tree (input.entry earlier) = .error fault → fault.isRecorded = true := by
    intro earlier hearlier fault hfault
    by_contra hnot
    obtain ⟨kind, message, rfl⟩ := LoadFault.isRecorded_eq_false_iff.1 (by simpa using hnot)
    have hsound := hdone earlier hearlier
    rw [breaksDown_iff.2 ⟨kind, message, hfault⟩] at hsound
    cases hsound
  obtain ⟨state', hend⟩ := validation_of_crash hinput hnames hrecorded hcrash
  rw [hrun] at hend
  cases hend

/-- **Isolation**: the unreadable workbooks leave no trace but their own entries exactly if the
reader breaks down on none of the workbooks. -/
theorem isolates_unreadable_iff (delimiter : Delimiter) (hdistinct : tree.Distinct)
    (hinput : Workbook.Listable tree input location) :
    (∃ report state, convertAll reader delimiter input none { tree } = .ok report state ∧
      Isolates reader delimiter tree input location report) ↔
    ∀ name ∈ Workbook.names tree location, ∀ kind message,
      Workbook.load reader tree (input.entry name) ≠ .error (.crash kind message) := by
  constructor
  · rintro ⟨report, state, hrun, -⟩ name hname kind message hcrash
    have hrecorded := isRecorded_of_validation hinput hrun name hname _ hcrash
    cases hrecorded
  · intro hload
    refine exists_isolates delimiter hdistinct hinput fun name hname fault hfault ↦ ?_
    by_contra hnot
    obtain ⟨kind, message, rfl⟩ := LoadFault.isRecorded_eq_false_iff.1 (by simpa using hnot)
    exact hload name hname kind message hfault

/-- A workbook that cannot be read for a reason that is recorded is passed over. -/
theorem isolates_unreadable_iff_sampleTree :
    sampleTree.Distinct ∧ Workbook.Listable sampleTree sampleInput ["in"] ∧
      ∃ report state,
        convertAll (sampleReader (.unreadable "truncated")) .comma sampleInput none
          { tree := sampleTree } = .ok report state ∧
        Isolates (sampleReader (.unreadable "truncated")) .comma sampleTree sampleInput ["in"]
          report := by
  refine ⟨distinct_sampleTree, listable_sampleTree, ?_⟩
  refine (isolates_unreadable_iff .comma distinct_sampleTree listable_sampleTree).2 ?_
  intro name hname kind message hcrash
  have hrecorded := isRecorded_sampleTree name hname _ hcrash
  cases hrecorded

/-- A workbook on which the reader breaks down ends the run, though the others can be read. -/
theorem no_report_of_typeError :
    ¬∃ report state, convertAll (sampleReader (.crash "TypeError" "boom")) .comma sampleInput none
      { tree := sampleTree } = .ok report state := by
  rintro ⟨report, state, hrun⟩
  have hcrash := (load_sampleTree (.crash "TypeError" "boom")).2.2
  have hmem : "c.xls" ∈ Workbook.names sampleTree ["in"] := by
    rw [names_sampleTree]
    decide
  have hrecorded := isRecorded_of_validation listable_sampleTree hrun "c.xls" hmem _ hcrash
  cases hrecorded

end Batch

end ConfigTables
