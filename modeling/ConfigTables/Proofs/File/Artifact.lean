import ConfigTables.File.Artifact
import ConfigTables.Proofs.File.Path

/-!
# What writing an artifact changes

Writing first makes the directories on the way to the target, which adds directories and leaves
every file as it is (`Disk.adds_of_makeDirectories`). Then the text goes to the temporary file, and
the temporary file takes the place of the target. After that all files are as before but for these
two: the target holds the text and the temporary file is gone (`Artifact.written_of_write`).

The temporary file is opened before it is known whether the text can be encoded. Once it is known,
opening the file and writing the text are as good as one step (`Artifact.write_eq_writeText`).

The two names differ and stand in one directory, so they are two locations, whatever the target is
called.
-/

namespace ConfigTables

namespace FileTree

/-- The content of the file at a location, if there is one. -/
def fileAt? (tree : FileTree) (location : Location) : Option ByteArray :=
  match tree.lookup location with
  | some (.file content) => some content
  | _ => none

theorem fileAt?_eq_some_iff {tree : FileTree} {location : Location} {content : ByteArray} :
    tree.fileAt? location = some content ↔ tree.lookup location = some (.file content) := by
  unfold fileAt?
  split <;> simp_all

/-- A path that leads to a file reads the bytes there. -/
theorem read_of_fileAt? {tree : FileTree} {path : Path} {location : Location} {content : ByteArray}
    (hlocate : tree.locate path = .ok location) (h : tree.fileAt? location = some content) :
    tree.read path = .ok content := by
  rw [read, hlocate, Except.bind_ok, fileAt?_eq_some_iff.1 h]

theorem fileAt?_congr {tree other : FileTree} {location : Location}
    (h : other.lookup location = tree.lookup location) :
    other.fileAt? location = tree.fileAt? location := by
  rw [fileAt?, fileAt?, h]

/-! ### Added directories -/

/-- One tree comes from another by adding directories. -/
structure AddsDirectories (before after : FileTree) : Prop where
  keeps : KeepsDirectories before after
  files : ∀ location, after.fileAt? location = before.fileAt? location

theorem AddsDirectories.refl (tree : FileTree) : AddsDirectories tree tree :=
  ⟨.refl tree, fun _ ↦ rfl⟩

theorem AddsDirectories.trans {first second third : FileTree} (h : AddsDirectories first second)
    (h' : AddsDirectories second third) : AddsDirectories first third :=
  ⟨h.keeps.trans h'.keeps, fun location ↦ (h'.files location).trans (h.files location)⟩

/-- An entry in a place that is no directory costs no directory. -/
theorem keepsDirectories_insert {tree : FileTree} {location : Location}
    (h : tree.lookup location ≠ some .directory) (entry : Entry) :
    KeepsDirectories tree (tree.insert location entry) := by
  refine ⟨rfl, fun other hdir ↦ ?_⟩
  have hne : other ≠ location := by
    rintro rfl
    exact h hdir
  rw [lookup_insert_of_ne tree hne, hdir]

theorem keepsDirectories_erase {tree : FileTree} {location : Location}
    (h : tree.lookup location ≠ some .directory) : KeepsDirectories tree (tree.erase location) := by
  refine ⟨rfl, fun other hdir ↦ ?_⟩
  have hne : other ≠ location := by
    rintro rfl
    exact h hdir
  rw [lookup_erase_of_ne tree hne, hdir]

/-- A path leads to a directory. -/
def HasDirectory (tree : FileTree) (path : Path) : Prop :=
  ∃ location, tree.locate path = .ok location ∧ tree.lookup location = some .directory

theorem adds_of_makeDirectory {tree after : FileTree} {path : Path}
    (h : tree.makeDirectory path = .ok after) :
    AddsDirectories tree after ∧ after.HasDirectory path := by
  obtain ⟨location, hlocate, h⟩ := Except.bind_eq_ok_iff.1 h
  rcases hlookup : tree.lookup location with _ | entry
  · rw [hlookup] at h
    cases h
    have hne : location ≠ [] := by
      rintro rfl
      simp at hlookup
    have hkeeps : KeepsDirectories tree (tree.insert location .directory) :=
      keepsDirectories_insert (by simp [hlookup]) _
    refine ⟨⟨hkeeps, fun other ↦ ?_⟩, location, locate_of_keeps hkeeps hlocate,
      lookup_insert_self tree hne _⟩
    by_cases heq : other = location
    · subst heq
      rw [fileAt?, fileAt?, lookup_insert_self tree hne, hlookup]
    · exact fileAt?_congr (lookup_insert_of_ne tree heq _)
  · rw [hlookup] at h
    cases h

/-! ### Files written and moved -/

theorem lookup_erase_self (tree : FileTree) {location : Location} (h : location ≠ []) :
    (tree.erase location).lookup location = none := by
  rw [lookup, if_neg h, List.lookup_eq_none_iff, erase]
  rintro entry hmem
  have hne : entry.1 ≠ location := by simpa using (List.mem_filter.1 hmem).2
  exact bne_iff_ne.2 hne.symm

/-- A write puts a file where its path leads, unless a directory is there. -/
theorem write_eq_ok_iff {tree after : FileTree} {path : Path} {content : ByteArray} :
    tree.write path content = .ok after ↔ ∃ location, tree.locate path = .ok location ∧
      tree.lookup location ≠ some .directory ∧ after = tree.insert location (.file content) := by
  rw [write, Except.bind_eq_ok_iff]
  refine exists_congr fun location ↦ and_congr_right fun _ ↦ ?_
  split
  · next hdir => simp [hdir]
  · next hfree =>
    rw [Except.ok.injEq, eq_comm]
    exact (and_iff_right hfree).symm

/-- What a location held is forgotten when it gets another entry. -/
theorem insert_insert (tree : FileTree) (location : Location) (entry other : Entry) :
    (tree.insert location entry).insert location other = tree.insert location other := by
  simp [insert, erase]

/-- A file that was just written can be written again, which is as good as writing it once. -/
theorem write_of_write {tree between : FileTree} {path : Path} {content : ByteArray}
    (h : tree.write path content = .ok between) (other : ByteArray) :
    between.write path other = tree.write path other := by
  obtain ⟨location, hlocate, hfree, rfl⟩ := write_eq_ok_iff.1 h
  have hne : location ≠ [] := by
    rintro rfl
    exact hfree tree.lookup_nil
  have hlocate' := locate_of_keeps (keepsDirectories_insert hfree (.file content)) hlocate
  have hself := lookup_insert_self tree hne (.file content)
  have hagain : (tree.insert location (.file content)).write path other =
      .ok ((tree.insert location (.file content)).insert location (.file other)) :=
    write_eq_ok_iff.2 ⟨location, hlocate', by rw [hself]; nofun, rfl⟩
  rw [hagain, insert_insert]
  exact (write_eq_ok_iff.2 ⟨location, hlocate, hfree, rfl⟩).symm

/-- Whether a file can be written, and why not, has nothing to do with its content. -/
theorem write_eq_error_of_write {tree : FileTree} {path : Path} {content : ByteArray}
    {fault : FileFault} (h : tree.write path content = .error fault) (other : ByteArray) :
    tree.write path other = .error fault := by
  rw [write, Except.bind_eq_error_iff] at h ⊢
  refine h.imp_right fun ⟨location, hlocate, h⟩ ↦ ⟨location, hlocate, ?_⟩
  split at h
  · exact h
  · cases h

/-- A file takes the place where the target leads, unless a directory is there or two dots are in
the way. -/
theorem replace_eq_ok_iff {tree after : FileTree} {source target : Path} :
    tree.replace source target = .ok after ↔ ∃ origin content location,
      tree.locate source = .ok origin ∧ tree.lookup origin = some (.file content) ∧
      target.name ≠ ".." ∧ tree.locate target = .ok location ∧
      tree.lookup location ≠ some .directory ∧
      after = (tree.erase origin).insert location (.file content) := by
  rw [replace, Except.bind_eq_ok_iff]
  constructor
  · rintro ⟨origin, horigin, h⟩
    split at h
    · next content hcontent =>
      split_ifs at h with hdots
      obtain ⟨location, hlocation, h⟩ := Except.bind_eq_ok_iff.1 h
      split at h
      · cases h
      · next hfree =>
        cases h
        exact ⟨origin, content, location, horigin, hcontent, hdots, hlocation, hfree, rfl⟩
    · cases h
    · cases h
  · rintro ⟨origin, content, location, horigin, hcontent, hdots, hlocation, hfree, rfl⟩
    refine ⟨origin, horigin, ?_⟩
    simp only [hcontent, if_neg hdots, hlocation, Except.bind_ok]

end FileTree

/-! ### Making directories -/

namespace Disk

open FileTree

theorem change_eq_ok_iff {step : FileTree → Except FileFault FileTree} {before after : FileTree} :
    change step before = .ok () after ↔ step before = .ok after := by
  rw [change]
  cases step before <;> simp

/-- A change that fails leaves the tree as it is. -/
theorem change_eq_error_iff {step : FileTree → Except FileFault FileTree} {fault : FileFault}
    {before after : FileTree} :
    change step before = .error fault after ↔ step before = .error fault ∧ before = after := by
  rw [change]
  cases step before <;> simp

/-- Opening a file and writing to it is as good as writing it at once. -/
theorem change_write_change_write {α : Type} (path : Path) (content other : ByteArray)
    (next : Unit → Disk α) :
    (change (·.write path content) >>= fun _ ↦ change (·.write path other) >>= next) =
      change (·.write path other) >>= next := by
  funext tree
  rcases hwrite : tree.write path content with fault | between
  · have hother := write_eq_error_of_write hwrite other
    exact (EStateM.bind_of_error (change_eq_error_iff.2 ⟨hwrite, rfl⟩)).trans
      (EStateM.bind_of_error (change_eq_error_iff.2 ⟨hother, rfl⟩)).symm
  · have hopened : change (·.write path content) tree = .ok () between :=
      change_eq_ok_iff.2 hwrite
    have hother : change (·.write path other) between = change (·.write path other) tree := by
      rw [change, change, write_of_write hwrite other]
      rcases htwice : tree.write path other with fault | after
      · cases (write_eq_error_of_write htwice content).symm.trans hwrite
      · rfl
    refine (EStateM.bind_of_ok hopened).trans ?_
    change EStateM.bind _ _ _ = EStateM.bind _ _ _
    rw [EStateM.bind, EStateM.bind, hother]

theorem query_eq_ok_iff {α : Type} {question : FileTree → Except FileFault α} {answer : α}
    {before after : FileTree} :
    query question before = .ok answer after ↔ question before = .ok answer ∧ before = after := by
  rw [query]
  cases question before <;> simp

/-- A directory that could not be made is accepted only where there is one. -/
theorem adds_of_keepDirectory {path : Path} {fault : FileFault} {before after : FileTree}
    (h : keepDirectory path fault before = .ok () after) :
    AddsDirectories before after ∧ after.HasDirectory path := by
  obtain ⟨isThere, between, hquery, h⟩ := EStateM.bind_eq_ok_iff.1 h
  obtain ⟨hdir, rfl⟩ := query_eq_ok_iff.1 hquery
  split at h
  · next hkeep =>
    cases h
    have hthere : isThere = true := (Bool.and_eq_true_iff.1 hkeep).2
    obtain ⟨entry, hentry, rfl⟩ := Except.map_eq_ok_iff.1 hdir
    rw [beq_iff_eq] at hthere
    subst hthere
    exact ⟨.refl _, entry?_eq_directory_iff.1 hentry⟩
  · cases h

theorem adds_of_makeDirectory {path : Path} {before after : FileTree}
    (h : makeDirectory path before = .ok () after) :
    AddsDirectories before after ∧ after.HasDirectory path := by
  rcases EStateM.tryCatch_eq_ok_iff.1 h with h | ⟨fault, between, hchange, h⟩
  · exact FileTree.adds_of_makeDirectory (change_eq_ok_iff.1 h)
  · obtain ⟨-, rfl⟩ := change_eq_error_iff.1 hchange
    exact adds_of_keepDirectory h

/-- Directories that are made one below the other are added, and nothing else is. -/
theorem adds_of_makeDirectoriesFrom {root : PathRoot} {allowed : Nat} {above : List String}
    {before after : FileTree} (h : makeDirectoriesFrom root allowed above before = .ok () after) :
    AddsDirectories before after ∧ after.HasDirectory { root, parts := above.reverse } := by
  induction above generalizing allowed before after with
  | nil =>
    cases allowed with
    | zero => cases h
    | succ allowed => exact adds_of_makeDirectory h
  | cons name above ih =>
    cases allowed with
    | zero => cases h
    | succ allowed =>
      rcases EStateM.tryCatch_eq_ok_iff.1 h with h | ⟨fault, between, hchange, h⟩
      · exact FileTree.adds_of_makeDirectory (change_eq_ok_iff.1 h)
      · obtain ⟨-, rfl⟩ := change_eq_error_iff.1 hchange
        split at h
        · -- The directory above is missing. It is made first, and then this one.
          obtain ⟨_, between, habove, h⟩ := EStateM.bind_eq_ok_iff.1 h
          obtain ⟨hadds, hdir⟩ := adds_of_makeDirectory h
          exact ⟨(ih habove).1.trans hadds, hdir⟩
        · exact adds_of_keepDirectory h

/-- Making the directories of a path adds directories, and the path then leads to one. -/
theorem adds_of_makeDirectories {path : Path} {before after : FileTree}
    (h : makeDirectories path before = .ok () after) :
    AddsDirectories before after ∧ after.HasDirectory path := by
  have h := adds_of_makeDirectoriesFrom h
  rwa [List.reverse_reverse] at h

end Disk

/-! ### Writing -/

namespace Artifact

open FileTree

/-- The text of which the bytes are written for a payload. -/
def text (payload : Payload) : Except PayloadFault String :=
  payload.json >>= Payload.encode

/-- Writes a text to a target, by way of its temporary file. -/
def writeText (target : Path) (content : String) : Disk Path := do
  Disk.makeDirectories target.parent
  if target.name = "" then throw (.nameEmpty target)
  Disk.change (·.write (temporary target) content.toUTF8)
  Disk.change (·.replace (temporary target) target)
  return target

/-- Writing a payload that has a text writes that text. -/
theorem write_eq_writeText {payload : Payload} {content : String}
    (h : text payload = .ok content) (target : Path) :
    write target payload = writeText target content := by
  obtain ⟨points, hpoints, hencode⟩ := Except.bind_eq_ok_iff.1 h
  have hquery : (Disk.query fun _ ↦ payload.json.mapError .payload) =
      (pure points : Disk LooseText) := by
    funext tree
    rw [Disk.query, hpoints]
    rfl
  have hquery' : (Disk.query fun _ ↦ (Payload.encode points).mapError .payload) =
      (pure content : Disk String) := by
    funext tree
    rw [Disk.query, hencode]
    rfl
  rw [write, writeText, hquery, pure_bind, hquery']
  simp only [pure_bind, Disk.change_write_change_write]

/-- Only a payload that has a text is written. -/
theorem exists_text_of_write {target path : Path} {payload : Payload} {before after : FileTree}
    (h : write target payload before = .ok path after) : ∃ content, text payload = .ok content := by
  obtain ⟨_, made, -, h⟩ := EStateM.bind_eq_ok_iff.1 h
  obtain ⟨points, _, hquery, h⟩ := EStateM.bind_eq_ok_iff.1 h
  split at h
  · cases h
  · obtain ⟨_, opened, -, h⟩ := EStateM.bind_eq_ok_iff.1 h
    obtain ⟨content, _, hquery', -⟩ := EStateM.bind_eq_ok_iff.1 h
    have hpoints := Except.mapError_eq_ok_iff.1 (Disk.query_eq_ok_iff.1 hquery).1
    have hcontent := Except.mapError_eq_ok_iff.1 (Disk.query_eq_ok_iff.1 hquery').1
    exact ⟨content, Except.bind_eq_ok_iff.2 ⟨points, hpoints, hcontent⟩⟩

/-- One tree comes from another by writing a text to a target in the directory at the given
location. -/
structure Written (target : Path) (content : String) (directory : Location)
    (before after : FileTree) : Prop where
  keeps : KeepsDirectories before after
  parent_located : after.locate target.parent = .ok directory
  is_directory : after.lookup directory = some .directory
  located : after.locate target = .ok (directory ++ [target.name])
  temporary_located : after.locate (temporary target) = .ok (directory ++ [target.name ++ ".tmp"])
  written : after.fileAt? (directory ++ [target.name]) = some content.toUTF8
  temporary_gone : after.fileAt? (directory ++ [target.name ++ ".tmp"]) = none
  frame : ∀ location, location ≠ directory ++ [target.name] →
    location ≠ directory ++ [target.name ++ ".tmp"] →
    after.fileAt? location = before.fileAt? location

/-- The temporary file has the name of the target with more after it. -/
theorem temporary_eq_entry (target : Path) :
    temporary target = target.parent.entry (target.name ++ ".tmp") := by
  rw [temporary, Path.withSuffix_append, Path.withName]

/-- The name of a temporary file is an ordinary one. -/
theorem ordinary_temporary (name : String) : Ordinary (name ++ ".tmp") :=
  ordinary_of_length (by rw [String.length_append, show ".tmp".length = 4 from rfl]; omega)

/-- A path whose last name is a dot leads to its parent. -/
theorem follow_dot {tree : FileTree} {location : Location}
    (hdir : tree.lookup location = some .directory) :
    tree.follow location ["."] = .ok location := by
  rw [follow, hdir]
  rfl

/-- A target that is not a directory has a name that stands for an entry. -/
theorem ordinary_of_locate {tree : FileTree} {target : Path} {directory location : Location}
    (hparent : tree.locate target.parent = .ok directory)
    (hdir : tree.lookup directory = some .directory) (hempty : target.name ≠ "")
    (hdots : target.name ≠ "..") (hlocate : tree.locate target = .ok location)
    (hfree : tree.lookup location ≠ some .directory) : Ordinary target.name := by
  refine ⟨hempty, fun hdot ↦ hfree ?_, hdots⟩
  -- A single dot leads back to the directory itself.
  have hwalk := (locate_eq_ok_iff.1 hlocate).2.2
  rw [← Path.entry_parent hempty, hdot, walk_entry, (locate_eq_ok_iff.1 hparent).2.2,
    Except.bind_ok, follow_dot hdir] at hwalk
  cases hwalk
  exact hdir

section Steps

variable {target : Path} {directory : Location} {content : ByteArray} {before after : FileTree}

/-- The temporary file is written beside the target. -/
theorem spec_of_write (hparent : before.locate target.parent = .ok directory)
    (hdir : before.lookup directory = some .directory)
    (hwrite : before.write (temporary target) content = .ok after) :
    before.locate (temporary target) = .ok (directory ++ [target.name ++ ".tmp"]) ∧
      before.lookup (directory ++ [target.name ++ ".tmp"]) ≠ some .directory ∧
      after = before.insert (directory ++ [target.name ++ ".tmp"]) (.file content) := by
  obtain ⟨location, hlocate, hfree, rfl⟩ := write_eq_ok_iff.1 hwrite
  have hentry := locate_entry hparent hdir (ordinary_temporary target.name)
  rw [← temporary_eq_entry] at hentry
  have heq := (entryLocation_eq_ok_iff.1 (hentry.symm.trans hlocate)).2
  rw [heq] at hlocate hfree ⊢
  exact ⟨hlocate, hfree, rfl⟩

/-- The temporary file takes the place of the target. -/
theorem spec_of_replace (hparent : before.locate target.parent = .ok directory)
    (hdir : before.lookup directory = some .directory) (hempty : target.name ≠ "")
    (htemporary : before.locate (temporary target) = .ok (directory ++ [target.name ++ ".tmp"]))
    (hcontent : before.lookup (directory ++ [target.name ++ ".tmp"]) = some (.file content))
    (hreplace : before.replace (temporary target) target = .ok after) :
    before.locate target = .ok (directory ++ [target.name]) ∧
      before.lookup (directory ++ [target.name]) ≠ some .directory ∧
      after = (before.erase (directory ++ [target.name ++ ".tmp"])).insert
        (directory ++ [target.name]) (.file content) := by
  obtain ⟨origin, bytes, location, horigin, hbytes, hdots, hlocate, hfree, rfl⟩ :=
    replace_eq_ok_iff.1 hreplace
  cases htemporary.symm.trans horigin
  cases hcontent.symm.trans hbytes
  have hname := ordinary_of_locate hparent hdir hempty hdots hlocate hfree
  have heq : location = directory ++ [target.name] := by
    have hentry := locate_entry hparent hdir hname
    rw [Path.entry_parent hempty, hlocate] at hentry
    exact (entryLocation_eq_ok_iff.1 hentry.symm).2
  rw [heq] at hlocate hfree ⊢
  exact ⟨hlocate, hfree, rfl⟩

/-- Writing the temporary file and moving it to the target. -/
theorem written_of_replace {content : String} {between : FileTree}
    (hparent : before.locate target.parent = .ok directory)
    (hdir : before.lookup directory = some .directory) (hempty : target.name ≠ "")
    (hwrite : before.write (temporary target) content.toUTF8 = .ok between)
    (hreplace : between.replace (temporary target) target = .ok after) :
    Written target content directory before after := by
  obtain ⟨htemporary, hfree, rfl⟩ := spec_of_write hparent hdir hwrite
  have hkeeps := keepsDirectories_insert hfree (.file content.toUTF8)
  have hself := lookup_insert_self before
    (List.append_ne_nil_of_right_ne_nil directory (List.cons_ne_nil (target.name ++ ".tmp") []))
    (.file content.toUTF8)
  have hparent' := locate_of_keeps hkeeps hparent
  have hdir' := hkeeps.directory _ hdir
  have htemporary' := locate_of_keeps hkeeps htemporary
  obtain ⟨htarget, hfree', rfl⟩ :=
    spec_of_replace hparent' hdir' hempty htemporary' hself hreplace
  have hne : directory ++ [target.name ++ ".tmp"] ≠ directory ++ [target.name] := by
    simp
  -- Neither location holds a directory, so none is lost.
  have herased := keepsDirectories_erase (hself.trans_ne (by simp))
  have hmoved := herased.trans
    (keepsDirectories_insert (by rwa [lookup_erase_of_ne _ hne.symm]) (.file content.toUTF8))
  refine
    { keeps := hkeeps.trans hmoved
      parent_located := locate_of_keeps hmoved hparent'
      is_directory := hmoved.directory _ hdir'
      located := locate_of_keeps hmoved htarget
      temporary_located := locate_of_keeps hmoved htemporary'
      written := ?_
      temporary_gone := ?_
      frame := fun other hother hother' ↦ fileAt?_congr ?_ }
  · rw [fileAt?_eq_some_iff, lookup_insert_self _ (by simp)]
  · rw [fileAt?, lookup_insert_of_ne _ hne, lookup_erase_self _ (by simp)]
  · rw [lookup_insert_of_ne _ hother, lookup_erase_of_ne _ hother', lookup_insert_of_ne _ hother']

end Steps

/-- What a write that succeeds has done, from one step to the next. -/
theorem steps_of_write {target path : Path} {payload : Payload} {before after : FileTree}
    (h : write target payload before = .ok path after) :
    path = target ∧ target.name ≠ "" ∧ ∃ content made between, text payload = .ok content ∧
      Disk.makeDirectories target.parent before = .ok () made ∧
      made.write (temporary target) content.toUTF8 = .ok between ∧
      between.replace (temporary target) target = .ok after := by
  obtain ⟨content, htext⟩ := exists_text_of_write h
  rw [write_eq_writeText htext] at h
  obtain ⟨_, made, hmake, h⟩ := EStateM.bind_eq_ok_iff.1 h
  split at h
  · cases h
  · next hname =>
    obtain ⟨_, between, hwrite, h⟩ := EStateM.bind_eq_ok_iff.1 h
    obtain ⟨_, replaced, hreplace, h⟩ := EStateM.bind_eq_ok_iff.1 h
    obtain ⟨rfl, rfl⟩ := EStateM.pure_eq_ok_iff.1 h
    exact ⟨rfl, hname, content, made, between, htext, hmake, Disk.change_eq_ok_iff.1 hwrite,
      Disk.change_eq_ok_iff.1 hreplace⟩

/-- **Writing**: a text that is written stands at the target, the temporary file is gone, and all
other files are as they were. -/
theorem written_of_write {target path : Path} {payload : Payload} {before after : FileTree}
    (h : write target payload before = .ok path after) :
    path = target ∧ ∃ content directory, text payload = .ok content ∧
      Written target content directory before after := by
  obtain ⟨rfl, hname, content, made, between, htext, hmake, hwrite, hreplace⟩ := steps_of_write h
  obtain ⟨hadds, directory, hparent, hdir⟩ := Disk.adds_of_makeDirectories hmake
  have hwritten := written_of_replace hparent hdir hname hwrite hreplace
  refine ⟨rfl, content, directory, htext, ?_⟩
  exact { hwritten with
    keeps := hadds.keeps.trans hwritten.keeps
    frame := fun location htarget htemporary ↦
      (hwritten.frame location htarget htemporary).trans (hadds.files location) }

end Artifact

end ConfigTables
