import ConfigTables.Proofs.File.Acceptance
import ConfigTables.Proofs.File.Payload

/-!
# Writing all of a file or nothing

A write that fails leaves every file as it is and adds no directories but missing ones above the
target, or else it fails after it has opened the temporary file (`Artifact.write_cases`). That
happens in two ways: the text holds surrogates and cannot be encoded, so the temporary file is left
without a text, or the text is in it and cannot take the place of the target. Before that file is
opened only directories are made, whatever stops the write, as `FileTree.OnlyMakes` says of the tree
that is left (`Disk.onlyMakes_makeDirectories`).

The last step fails only if making the directories above the target has put one in the place of the
target itself. In a tree whose entries all stand in directories, that needs two dots in the path
(`FileTree.Rooted.hasDirectory_of_onlyMakes`), as in `b/../b` where there is no `b`.
-/

namespace ConfigTables

/-! ### Trees whose entries stand in directories -/

namespace FileTree

/-- What is above an entry is a directory. -/
def Rooted (tree : FileTree) : Prop :=
  ∀ location name entry, tree.lookup (location ++ [name]) = some entry →
    tree.lookup location = some .directory

variable {tree before made : FileTree} {location place stop : Location} {names : List String}
  {path directory : Path} {name : String}

theorem Rooted.lookup_of_prefix (h : tree.Rooted) (hplace : tree.lookup place = some .directory)
    (hstop : stop <+: place) : tree.lookup stop = some .directory := by
  obtain ⟨more, rfl⟩ := hstop
  induction more using List.reverseRecOn with
  | nil => rwa [List.append_nil] at hplace
  | append_singleton more name ih =>
    rw [← List.append_assoc] at hplace
    exact ih (h _ name _ hplace)

theorem prefix_foldl_step (hnames : ∀ name ∈ names, Ordinary name) (location : Location) :
    location <+: names.foldl step location := by
  induction names generalizing location with
  | nil => exact List.prefix_rfl
  | cons name names ih =>
    obtain ⟨⟨hempty, hdot, hdots⟩, hrest⟩ := List.forall_mem_cons.1 hnames
    have hstep : step location name = location ++ [name] := by
      simp [step, hempty, hdot, hdots]
    rw [List.foldl_cons, hstep]
    exact (List.prefix_append location [name]).trans (ih hrest _)

/-- Without dots in it, a way only leads down. -/
theorem prefix_of_mem_wayFrom (hnames : ∀ name ∈ names, Ordinary name)
    (h : stop ∈ wayFrom location names) : stop <+: names.foldl step location := by
  induction names generalizing location with
  | nil =>
    rw [List.mem_singleton.1 h]
    exact List.prefix_rfl
  | cons name names ih =>
    rcases List.mem_cons.1 h with rfl | h
    · exact prefix_foldl_step hnames stop
    · exact ih (List.forall_mem_cons.1 hnames).2 h

/-- A walk past directories only gets through. -/
theorem follow_of_directories (hsizes : ∀ name ∈ names, name.utf8ByteSize ≤ maxNameSize)
    (h : ∀ stop ∈ wayFrom location names, tree.lookup stop = some .directory) :
    tree.follow location names = .ok (names.foldl step location) := by
  induction names generalizing location with
  | nil => rfl
  | cons name names ih =>
    rw [List.forall_mem_cons] at hsizes
    rw [wayFrom, List.forall_mem_cons] at h
    rw [follow_cons h.1 hsizes.1, ih hsizes.2 h.2, List.foldl_cons]

/-- **No directory gets into the place of an entry**: if all parts of its path are those of entries,
making the directories above it does not make it a directory. -/
theorem Rooted.hasDirectory_of_onlyMakes (h : before.Rooted)
    (hnames : ∀ part ∈ (directory.entry name).parts, Ordinary part)
    (hmakes : OnlyMakes (before.way directory) before made)
    (hmade : made.HasDirectory (directory.entry name)) :
    before.HasDirectory (directory.entry name) := by
  have hlimits := hmade.withinLimits
  have hname := (Path.forall_parts_entry_iff.1 hnames).2
  have harrival := hmade.lookup_of_mem_way (arrival_mem_way made _)
  rw [arrival_of_keeps hmakes.keeps] at harrival
  have hthere : before.lookup (before.arrival (directory.entry name)) = some .directory := by
    refine (hmakes.made _ harrival).resolve_right fun hway ↦ ?_
    -- The place of the entry is below all locations on the way to its directory.
    have hstarts := (prefix_of_mem_wayFrom (Path.forall_parts_entry_iff.1 hnames).1 hway).length_le
    rw [arrival_entry hname, List.length_append, List.length_singleton] at hstarts
    exact absurd hstarts (Nat.not_succ_le_self _)
  have hwalk := follow_of_directories hlimits.short_names fun stop hstop ↦
    h.lookup_of_prefix hthere (prefix_of_mem_wayFrom hnames hstop)
  exact ⟨_, locate_eq_ok_iff.2 ⟨hlimits.no_nul, hlimits.short, hwalk⟩, hthere⟩

end FileTree

/-! ### Writing -/

namespace Artifact

open FileTree

variable {target path : Path} {payload : Payload} {before made between after : FileTree}
  {content : String} {fault : FileFault}

/-- The path of the temporary file is that of the target with more after it. -/
theorem text_temporary (hname : target.name ≠ "") :
    (temporary target).text = target.text ++ ".tmp" := by
  obtain ⟨stem, hstem⟩ := target.parent.exists_text_append
  have htext (last : String) : (target.parent.entry last).text = stem ++ last := by
    rw [Path.entry, hstem [last] (List.cons_ne_nil _ _), String.intercalate_singleton]
  have htarget := htext target.name
  rw [Path.entry_parent hname] at htarget
  rw [temporary_eq_entry, htext, htarget, String.append_assoc]

/-- The target cannot be replaced: there is a directory in its place, or it is called by two
dots. -/
def Blocked (tree : FileTree) (target : Path) : Prop :=
  tree.HasDirectory target ∨ target.name = ".."

/-- The temporary file takes the place of the target unless that is blocked. -/
theorem blocked_of_replace (hname : target.name ≠ "") (hparent : made.HasDirectory target.parent)
    (hwrite : made.write (temporary target) content.toUTF8 = .ok between)
    (hreplace : between.replace (temporary target) target = .error fault) :
    Blocked made target := by
  obtain ⟨beside, hbeside, hfree, rfl⟩ := write_eq_ok_iff.1 hwrite
  have hkeeps := keepsDirectories_insert hfree (.file content.toUTF8)
  have hne : beside ≠ [] := by
    rintro rfl
    exact hfree made.lookup_nil
  have hself := lookup_insert_self made hne (.file content.toUTF8)
  -- The target keeps within the limits as the temporary file does, so it can be located.
  have hlimits := (spec_of_locate hbeside).1
  rw [temporary_eq_entry] at hlimits
  have hlocate := hparent.locate_entry hlimits.of_append
  rw [Path.entry_parent hname] at hlocate
  by_contra hblocked
  rw [Blocked, not_or] at hblocked
  have hplace : (made.insert beside (.file content.toUTF8)).lookup (made.arrival target) ≠
      some .directory := by
    by_cases heq : made.arrival target = beside
    · rw [heq, hself]
      nofun
    · rw [lookup_insert_of_ne made heq]
      exact fun hdir ↦ hblocked.1 ⟨_, hlocate, hdir⟩
  have hok := replace_eq_ok_iff.2 ⟨beside, _, _, locate_of_keeps hkeeps hbeside, hself,
    hblocked.2, locate_of_keeps hkeeps hlocate, hplace, rfl⟩
  cases hreplace.symm.trans hok

/-- A payload has a JSON text in which there are surrogates. -/
def Unencodable (payload : Payload) : Prop :=
  ∃ points, payload.json = .ok points ∧ points.string? = none

/-- A payload without a JSON text is found out when the directories are made. -/
theorem write_of_json_eq_error {first : PayloadFault}
    (hmake : Disk.makeDirectories target.parent before = .ok () made)
    (hjson : payload.json = .error first) :
    write target payload before = .error (.payload first) made := by
  have hquery : (Disk.query fun _ ↦ payload.json.mapError .payload) made =
      .error (.payload first) made := by
    rw [Disk.query, hjson]
    rfl
  exact (EStateM.bind_of_ok hmake).trans (EStateM.bind_of_error hquery)

/-- A text with surrogates in it is found out when the temporary file is open. -/
theorem write_of_unencodable (hname : target.name ≠ "")
    (hmake : Disk.makeDirectories target.parent before = .ok () made)
    (h : Unencodable payload) :
    (∃ fault, write target payload before = .error fault made) ∨
      ∃ fault between, made.write (temporary target) .empty = .ok between ∧
        write target payload before = .error fault between := by
  obtain ⟨points, hjson, hpoints⟩ := h
  have hquery : (Disk.query fun _ ↦ payload.json.mapError .payload) made = .ok points made := by
    rw [Disk.query, hjson]
    rfl
  have hwrite {next : LooseText → Disk Path} :
      (Disk.makeDirectories target.parent >>= fun _ ↦
        (Disk.query fun _ ↦ payload.json.mapError .payload) >>= next) before = next points made :=
    (EStateM.bind_of_ok hmake).trans (EStateM.bind_of_ok hquery)
  rw [write, hwrite, if_neg hname]
  rcases hopen : made.write (temporary target) .empty with fault | between
  · have hchange : Disk.change (·.write (temporary target) .empty) made = .error fault made :=
      Disk.change_eq_error_iff.2 ⟨hopen, rfl⟩
    exact .inl ⟨fault, EStateM.bind_of_error hchange⟩
  · have hchange : Disk.change (·.write (temporary target) .empty) made = .ok () between :=
      Disk.change_eq_ok_iff.2 hopen
    have hencode : (Disk.query fun _ ↦ (Payload.encode points).mapError .payload) between =
        .error (.payload (.surrogates points.surrogates.1 points.surrogates.2)) between := by
      rw [Disk.query, Payload.encode, hpoints]
      rfl
    exact .inr ⟨_, between, rfl,
      (EStateM.bind_of_ok hchange).trans (EStateM.bind_of_error hencode)⟩

/-- A payload is not written for what is in it, or for the surrogates in its text, or has a text. -/
theorem json_cases (payload : Payload) :
    (∃ first, payload.json = .error first) ∨ Unencodable payload ∨
      ∃ content, text payload = .ok content := by
  rcases hjson : payload.json with first | points
  · exact .inl ⟨first, rfl⟩
  · refine .inr ?_
    rcases hpoints : points.string? with _ | content
    · exact .inl ⟨points, hjson, hpoints⟩
    · refine .inr ⟨content, ?_⟩
      rw [text, hjson, Except.bind_ok, Payload.encode, hpoints]

/-- **How a write ends**: it fails with nothing written, or it fails with the temporary file open,
or the text is in the temporary file, and that takes the place of the target or is left. -/
theorem write_cases (payload : Payload) (before : FileTree) (hname : target.name ≠ "") :
    (∃ fault after, write target payload before = .error fault after ∧
      OnlyMakes (before.way target.parent) before after) ∨
    ∃ made between, OnlyMakes (before.way target.parent) before made ∧
      made.HasDirectory target.parent ∧
      ((∃ fault, Unencodable payload ∧ made.write (temporary target) .empty = .ok between ∧
          write target payload before = .error fault between) ∨
        ∃ content, text payload = .ok content ∧
          made.write (temporary target) content.toUTF8 = .ok between ∧
          ((∃ after, between.replace (temporary target) target = .ok after ∧
              write target payload before = .ok target after) ∨
            ∃ fault, Blocked made target ∧ write target payload before = .error fault between)) := by
  have hmakes := Disk.onlyMakes_makeDirectories target.parent before
  rcases hmake : Disk.makeDirectories target.parent before with ⟨_, made⟩ | ⟨fault, made⟩ <;>
    rw [hmake] at hmakes
  · have hparent := (Disk.adds_of_makeDirectories hmake).2
    -- The directories have been made. What is next is the text, and then the temporary file.
    rcases json_cases payload with ⟨first, hjson⟩ | hsurrogates | ⟨content, htext⟩
    · exact .inl ⟨_, made, write_of_json_eq_error hmake hjson, hmakes⟩
    · rcases write_of_unencodable hname hmake hsurrogates with
        ⟨fault, hwrite⟩ | ⟨fault, between, hopen, hwrite⟩
      · exact .inl ⟨fault, made, hwrite, hmakes⟩
      · exact .inr ⟨made, between, hmakes, hparent, .inl ⟨fault, hsurrogates, hopen, hwrite⟩⟩
    · rw [write_eq_writeText htext, writeText, EStateM.bind_of_ok hmake, if_neg hname]
      rcases hwrite : made.write (temporary target) content.toUTF8 with fault | between
      · have hchange : Disk.change (·.write (temporary target) content.toUTF8) made =
            .error fault made := Disk.change_eq_error_iff.2 ⟨hwrite, rfl⟩
        exact .inl ⟨fault, made, EStateM.bind_of_error hchange, hmakes⟩
      · refine .inr ⟨made, between, hmakes, hparent, .inr ⟨content, htext, hwrite, ?_⟩⟩
        have hchange : Disk.change (·.write (temporary target) content.toUTF8) made =
            .ok () between := Disk.change_eq_ok_iff.2 hwrite
        rcases hreplace : between.replace (temporary target) target with fault | after
        · have hchange' : Disk.change (·.replace (temporary target) target) between =
              .error fault between := Disk.change_eq_error_iff.2 ⟨hreplace, rfl⟩
          exact .inr ⟨fault, blocked_of_replace hname hparent hwrite hreplace,
            (EStateM.bind_of_ok hchange).trans (EStateM.bind_of_error hchange')⟩
        · have hchange' : Disk.change (·.replace (temporary target) target) between =
              .ok () after := Disk.change_eq_ok_iff.2 hreplace
          exact .inl ⟨after, rfl,
            (EStateM.bind_of_ok hchange).trans (EStateM.bind_of_ok hchange')⟩
  · exact .inl ⟨fault, made, by rw [write, EStateM.bind_of_error hmake], hmakes⟩

/-- The text of a payload is its JSON text, if there are no surrogates in it, and a line break. -/
theorem exists_of_text_eq_ok (h : text payload = .ok content) :
    ∃ points json, payload.jsonPoints 0 = .ok points ∧ points.string? = some json ∧
      content = json ++ "\n" := by
  obtain ⟨line, hline, hencode⟩ := Except.bind_eq_ok_iff.1 h
  obtain ⟨points, hpoints, rfl⟩ := Except.map_eq_ok_iff.1 hline
  rw [Payload.encode] at hencode
  split at hencode
  · next s hs =>
    cases hencode
    obtain ⟨json, hjson, rfl⟩ := Option.map_eq_some_iff.1
      ((LooseText.string?_append_ofChars points ['\n']).symm.trans hs)
    exact ⟨points, json, hpoints, hjson, rfl⟩
  · cases hencode

/-- A payload was written: its text is in the target, there is no temporary file, all other files
are as they were, and the only new directories are above the target. -/
structure Publishes (target : Path) (payload : Payload) (before after : FileTree) : Prop where
  written : ∃ points json, payload.jsonPoints 0 = .ok points ∧ points.string? = some json ∧
    after.read target = .ok (json ++ "\n").toUTF8
  temporary_gone : after.entry? (temporary target) = .ok none
  files : ∀ location, after.locate target ≠ .ok location →
    after.locate (temporary target) ≠ .ok location →
    after.fileAt? location = before.fileAt? location
  keeps : KeepsDirectories before after
  made : ∀ stop, after.lookup stop = some .directory →
    before.lookup stop = some .directory ∨ stop ∈ before.way target.parent

/-- A write stopped with the temporary file open, and this is in it. All else is as it was before
that file. -/
structure Leaves (target : Path) (content : ByteArray) (made after : FileTree) : Prop where
  left : after.read (temporary target) = .ok content
  rest : ∀ location, after.locate (temporary target) ≠ .ok location →
    after.lookup location = made.lookup location

/-- A text was not written: it is in the temporary file, because the place of the target is
blocked. -/
structure Strands (target : Path) (content : String) (made after : FileTree) : Prop
    extends Leaves target content.toUTF8 made after where
  blocked : Blocked made target

theorem publishes_of_replace (hname : target.name ≠ "")
    (hmakes : OnlyMakes (before.way target.parent) before made)
    (hparent : made.HasDirectory target.parent) (htext : text payload = .ok content)
    (hwrite : made.write (temporary target) content.toUTF8 = .ok between)
    (hreplace : between.replace (temporary target) target = .ok after) :
    Publishes target payload before after := by
  obtain ⟨directory, hlocate, hdir⟩ := hparent
  have hwritten := written_of_replace hlocate hdir hname hwrite hreplace
  obtain ⟨htemporary, hfree, rfl⟩ := spec_of_write hlocate hdir hwrite
  have hkeeps := keepsDirectories_insert hfree (.file content.toUTF8)
  -- Neither the file nor its temporary file stands in the place of all places.
  have hne (last : String) : directory ++ [last] ≠ [] :=
    List.append_ne_nil_of_right_ne_nil _ (List.cons_ne_nil _ _)
  obtain ⟨-, -, hafter⟩ := spec_of_replace (locate_of_keeps hkeeps hlocate)
    (hkeeps.directory _ hdir) hname (locate_of_keeps hkeeps htemporary)
    (lookup_insert_self made (hne _) _) hreplace
  have hdirectories : ∀ stop, after.lookup stop = some .directory →
      made.lookup stop = some .directory := by
    rw [hafter]
    exact fun stop ↦ lookup_of_putThrough (hne _) (hne _)
  obtain ⟨points, json, hpoints, hjson, rfl⟩ := exists_of_text_eq_ok htext
  refine ⟨⟨points, json, hpoints, hjson, read_of_fileAt? hwritten.located hwritten.written⟩, ?_,
    fun location h h' ↦ ?_, hmakes.keeps.trans hwritten.keeps,
    fun stop hstop ↦ hmakes.made stop (hdirectories stop hstop)⟩
  · rw [FileTree.entry?, hwritten.temporary_located]
    refine congrArg Except.ok ?_
    have hgone := hwritten.temporary_gone
    rw [fileAt?] at hgone
    rcases hlookup : after.lookup (directory ++ [target.name ++ ".tmp"]) with _ | bytes | _
    · rfl
    · rw [hlookup] at hgone
      cases hgone
    · exact absurd (hdirectories _ hlookup) hfree
  · rw [hwritten.located, Ne, Except.ok.injEq] at h
    rw [hwritten.temporary_located, Ne, Except.ok.injEq] at h'
    exact (hwritten.frame location (Ne.symm h) (Ne.symm h')).trans (hmakes.files location)

theorem leaves_of_write {content : ByteArray}
    (hwrite : made.write (temporary target) content = .ok between) :
    Leaves target content made between := by
  obtain ⟨beside, hbeside, hfree, rfl⟩ := write_eq_ok_iff.1 hwrite
  have hne : beside ≠ [] := by
    rintro rfl
    exact hfree made.lookup_nil
  have hlocate := locate_of_keeps (keepsDirectories_insert hfree (.file content)) hbeside
  refine ⟨read_of_fileAt? hlocate ?_, fun location h ↦ ?_⟩
  · rw [fileAt?_eq_some_iff, lookup_insert_self made hne]
  · rw [hlocate, Ne, Except.ok.injEq] at h
    exact lookup_insert_of_ne made (Ne.symm h) _

/-- Where the place of the target gets blocked, its path goes up again. -/
theorem dots_mem_of_blocked (hname : target.name ≠ "")
    (hplain : ∀ part ∈ target.parts, part ≠ "" ∧ part ≠ ".") (hfree : ¬before.HasDirectory target)
    (hrooted : before.Rooted) (hmakes : OnlyMakes (before.way target.parent) before made)
    (hblocked : Blocked made target) : ".." ∈ target.parts := by
  by_contra hnone
  have hnames : ∀ part ∈ target.parts, Ordinary part := fun part hpart ↦
    ⟨(hplain part hpart).1, (hplain part hpart).2, fun hdots ↦ hnone (hdots ▸ hpart)⟩
  rw [← Path.entry_parent hname] at hnames hfree
  rcases hblocked with hdir | hdots
  · rw [← Path.entry_parent hname] at hdir
    exact hfree (hrooted.hasDirectory_of_onlyMakes hnames hmakes hdir)
  · exact (Path.forall_parts_entry_iff.1 hnames).2.2.2 hdots

/-! ### What a write comes to -/

theorem publishes_of_write (hname : target.name ≠ "")
    (h : write target payload before = .ok path after) :
    path = target ∧ Publishes target payload before after := by
  obtain ⟨fault, after', hwrite, -⟩ | ⟨made, between, hmakes, hparent, ⟨fault, -, -, hwrite⟩ |
    ⟨content, htext, hbeside, ⟨after', hreplace, hwrite⟩ | ⟨fault, -, hwrite⟩⟩⟩ :=
    write_cases payload before hname
  · cases h.symm.trans hwrite
  · cases h.symm.trans hwrite
  · cases h.symm.trans hwrite
    exact ⟨rfl, publishes_of_replace hname hmakes hparent htext hbeside hreplace⟩
  · cases h.symm.trans hwrite

theorem leaves_of_write_eq_error (hname : target.name ≠ "")
    (h : write target payload before = .error fault after) :
    OnlyMakes (before.way target.parent) before after ∨
      ∃ made, OnlyMakes (before.way target.parent) before made ∧
        (Unencodable payload ∧ Leaves target .empty made after ∨
          ∃ content, text payload = .ok content ∧ Strands target content made after) := by
  obtain ⟨fault', after', hwrite, hmakes⟩ | ⟨made, between, hmakes, -,
    ⟨fault', hsurrogates, hopen, hwrite⟩ |
    ⟨content, htext, hbeside, ⟨after', -, hwrite⟩ | ⟨fault', hblocked, hwrite⟩⟩⟩ :=
    write_cases payload before hname
  · cases h.symm.trans hwrite
    exact .inl hmakes
  · cases h.symm.trans hwrite
    exact .inr ⟨made, hmakes, .inl ⟨hsurrogates, leaves_of_write hopen⟩⟩
  · cases h.symm.trans hwrite
  · cases h.symm.trans hwrite
    exact .inr ⟨made, hmakes, .inr ⟨content, htext,
      { leaves_of_write hbeside with blocked := hblocked }⟩⟩

/-- A payload in which something cannot be written fails for that or something else in it, unless
the directories cannot be made. In either case nothing but directories has been made. -/
theorem write_of_holds {held : PayloadFault} (h : payload.Holds held) (target : Path)
    (before : FileTree) :
    ∃ fault after, write target payload before = .error fault after ∧
      OnlyMakes (before.way target.parent) before after ∧
      (Disk.makeDirectories target.parent before = .error fault after ∨
        ∃ first, fault = .payload first ∧ payload.Holds first) := by
  have hmakes := Disk.onlyMakes_makeDirectories target.parent before
  rcases hmake : Disk.makeDirectories target.parent before with ⟨_, made⟩ | ⟨fault, made⟩ <;>
    rw [hmake] at hmakes
  · obtain ⟨first, hfirst⟩ := h.exists_jsonPoints 0
    have hjson : payload.json = .error first := Except.map_eq_error_iff.2 hfirst
    exact ⟨_, made, write_of_json_eq_error hmake hjson, hmakes,
      .inr ⟨first, rfl, Payload.holds_of_jsonPoints payload 0 hfirst⟩⟩
  · exact ⟨fault, made, EStateM.bind_of_error hmake, hmakes, .inl rfl⟩

/-- A temporary file that is opened has a name without U+0000, and so has the target. -/
theorem nul_notMem_of_write {content : ByteArray}
    (h : made.write (temporary target) content = .ok between) : '\x00' ∉ target.name.toList := by
  obtain ⟨location, hlocate, -⟩ := write_eq_ok_iff.1 h
  have hparts := Path.hasNul_eq_false_iff.1 (spec_of_locate hlocate).1.no_nul
  rw [temporary_eq_entry, Path.forall_parts_entry_iff] at hparts
  exact fun hmem ↦ hparts.2 (by rw [String.toList_append]; exact List.mem_append_left _ hmem)

/-- Under a name that no file may have, the temporary file is not opened. -/
theorem write_of_nul (hnul : '\x00' ∈ target.name.toList) (hname : target.name ≠ "")
    (payload : Payload) (before : FileTree) :
    ∃ fault after, write target payload before = .error fault after ∧
      OnlyMakes (before.way target.parent) before after := by
  obtain hfails | ⟨made, between, -, -, ⟨fault, -, hopen, -⟩ | ⟨content, -, hopen, -⟩⟩ :=
    write_cases payload before hname
  · exact hfails
  · exact absurd hnul (nul_notMem_of_write hopen)
  · exact absurd hnul (nul_notMem_of_write hopen)

/-- **All or nothing**: let the target have a name, and not be a directory.
* The temporary file has the path of the target with `.tmp` after it, and is another file.
* A write that returns has written the whole payload, and all else is as it was.
* A write that fails has made directories above the target at most, or it has opened the temporary
  file. Then the text has surrogates in it and the file is left without a text, or the write has
  been stranded. In a tree whose entries all stand in directories, the latter needs two dots in the
  path, if the path has no empty parts and no single dots, as paths that are read from texts have
  none.
* A payload with a part that has no JSON form, at any depth, is a failure that has made directories
  at most. It is reported, or another such part is, unless the directories cannot be made.
* A name that no file may have, and directories that cannot be made, are failures that have made
  directories at most. -/
theorem write_all_or_nothing (target : Path) (payload : Payload) (before : FileTree)
    (hname : target.name ≠ "") (hfree : ¬before.HasDirectory target) :
    ((temporary target).text = target.text ++ ".tmp" ∧ temporary target ≠ target) ∧
    (∀ path after, write target payload before = .ok path after →
      path = target ∧ Publishes target payload before after) ∧
    (∀ fault after, write target payload before = .error fault after →
      OnlyMakes (before.way target.parent) before after ∨
        ∃ made, OnlyMakes (before.way target.parent) before made ∧
          (Unencodable payload ∧ Leaves target .empty made after ∨
            (∃ content, text payload = .ok content ∧ Strands target content made after) ∧
            (before.Rooted → (∀ part ∈ target.parts, part ≠ "" ∧ part ≠ ".") →
              ".." ∈ target.parts))) ∧
    (∀ held, payload.Holds held → ∃ fault after, write target payload before = .error fault after ∧
      OnlyMakes (before.way target.parent) before after ∧
      (Disk.makeDirectories target.parent before = .error fault after ∨
        ∃ first, fault = .payload first ∧ payload.Holds first)) ∧
    ('\x00' ∈ target.name.toList → ∃ fault after, write target payload before = .error fault after ∧
      OnlyMakes (before.way target.parent) before after) ∧
    ∀ fault made, Disk.makeDirectories target.parent before = .error fault made →
      write target payload before = .error fault made ∧
        OnlyMakes (before.way target.parent) before made := by
  refine ⟨⟨text_temporary hname, fun heq ↦ ?_⟩, fun path after ↦ publishes_of_write hname,
    fun fault after h ↦ ?_, fun held hheld ↦ write_of_holds hheld target before,
    fun hnul ↦ write_of_nul hnul hname payload before, fun fault made h ↦ ?_⟩
  · have htext := congrArg String.length (heq ▸ text_temporary hname)
    rw [String.length_append, show ".tmp".length = 4 from rfl] at htext
    omega
  · refine (leaves_of_write_eq_error hname h).imp_right fun ⟨made, hmakes, hleft⟩ ↦
      ⟨made, hmakes, hleft.imp_right fun hstrands ↦ ⟨hstrands, fun hrooted hplain ↦ ?_⟩⟩
    obtain ⟨content, -, hstrands⟩ := hstrands
    exact dots_mem_of_blocked hname hplain hfree hrooted hmakes hstrands.blocked
  · have hmakes := Disk.onlyMakes_makeDirectories target.parent before
    rw [h] at hmakes
    exact ⟨by rw [write, EStateM.bind_of_error h], hmakes⟩

/-- The path of a file in a directory. -/
def sampleTarget : Path := { parts := ["out", "items.json"] }

/-- A write into a directory that is not there yet. -/
theorem publishes_sampleTarget :
    (sampleTarget.name ≠ "" ∧ ¬({} : FileTree).HasDirectory sampleTarget) ∧
    ∃ after, write sampleTarget (.list [.text (.ofString "a")]) {} = .ok sampleTarget after ∧
      Publishes sampleTarget (.list [.text (.ofString "a")]) {} after := by
  have hname : sampleTarget.name ≠ "" := by decide
  have hfree : ¬({} : FileTree).HasDirectory sampleTarget := not_hasDirectory_of_entry? rfl
  obtain ⟨after, hwrite⟩ :
      ∃ after, write sampleTarget (.list [.text (.ofString "a")]) {} = .ok sampleTarget after :=
    ⟨_, rfl⟩
  have h := write_all_or_nothing sampleTarget (.list [.text (.ofString "a")]) {} hname hfree
  exact ⟨⟨hname, hfree⟩, after, hwrite, (h.2.1 _ after hwrite).2⟩

/-- A path that leads through a directory to a name that the directory has itself. -/
def detour : Path := { parts := ["b", "..", "b"] }

/-- Making the directories above this path makes its last place a directory, and the text stays in
the temporary file. A text with a surrogate stops anywhere, and leaves this file without a text. -/
theorem not_onlyMakes_of_detour :
    (({} : FileTree).Rooted ∧ detour.name ≠ "" ∧ ¬({} : FileTree).HasDirectory detour ∧
      ¬({} : FileTree).HasDirectory (temporary detour)) ∧
    (∃ fault after, write detour .null {} = .error fault after ∧
      after.fileAt? ["b.tmp"] = some "null\n".toUTF8) ∧
    (∃ fault after, write sampleTarget (.text [.surrogate 0x80]) {} = .error fault after ∧
      after.fileAt? ["out", "items.json.tmp"] = some .empty) ∧
    ¬∀ (target : Path) (payload : Payload) (before : FileTree), target.name ≠ "" →
      ¬before.HasDirectory target → ¬before.HasDirectory (temporary target) →
      ∀ fault after, write target payload before = .error fault after →
        OnlyMakes (before.way target.parent) before after := by
  have hrooted : ({} : FileTree).Rooted := by
    intro location name entry h
    simp [lookup] at h
  have hname : detour.name ≠ "" := by decide
  have hfree : ¬({} : FileTree).HasDirectory detour := not_hasDirectory_of_entry? rfl
  have hfree' : ¬({} : FileTree).HasDirectory (temporary detour) := not_hasDirectory_of_entry? rfl
  obtain ⟨fault, after, hwrite, hfile⟩ : ∃ fault after, write detour .null {} =
      .error fault after ∧ after.fileAt? ["b.tmp"] = some "null\n".toUTF8 := by
    have htext : String.ofList (Datum.null.jsonChars 0 ++ ['\n']) = "null\n" := by
      simp [Datum.jsonChars]
    rw [← htext]
    exact ⟨_, _, rfl, rfl⟩
  refine ⟨⟨hrooted, hname, hfree, hfree'⟩, ⟨fault, after, hwrite, hfile⟩, ⟨_, _, rfl, rfl⟩,
    fun h ↦ ?_⟩
  have hmakes := h detour .null {} hname hfree hfree' fault after hwrite
  cases hfile.symm.trans (hmakes.files ["b.tmp"])

end Artifact

end ConfigTables
