import ConfigTables.Proofs.File.Artifact

/-!
# Which directories are made, and when

Where a path leads is a matter of its names alone (`FileTree.arrival`), and so are the locations it
passes on the way there (`FileTree.way`). The tree only decides whether a walk gets through. If the
path keeps within the limits of its text, and no file is in its way, then it leads where its names
say, or something is missing (`FileTree.locate_of_free`).

Making the directories of a path makes directories of locations on its way and changes nothing else,
whether it succeeds or breaks off (`Disk.onlyMakes_makeDirectories`), and if it succeeds, all of
these are directories (`Disk.lookup_of_makeDirectories`). If it succeeds in one tree, it does so in
another one that has all the directories of the first, as long as no file is in the way
(`Disk.exists_makeDirectories`).
-/

namespace ConfigTables

/-- The limits that every tree sets to the text of a path. -/
structure Path.WithinLimits (path : Path) : Prop where
  no_nul : path.hasNul = false
  short : path.isTooLong = false
  short_names : ∀ name ∈ path.parts, name.utf8ByteSize ≤ FileTree.maxNameSize

namespace FileTree

/-! ### The way of a path -/

/-- Where a name leads from a directory. -/
def step (location : Location) (name : String) : Location :=
  if name = ".." then location.dropLast
  else if name = "." || name = "" then location
  else location ++ [name]

/-- The locations on the way along names, the first and the last included. -/
def wayFrom : Location → List String → List Location
  | location, [] => [location]
  | location, name :: names => location :: wayFrom (step location name) names

/-- Where a walk along a path starts. -/
def origin (tree : FileTree) (path : Path) : Location :=
  if path.root = .relative then tree.home else []

/-- The locations on the way of a path. -/
def way (tree : FileTree) (path : Path) : List Location :=
  wayFrom (tree.origin path) path.parts

/-- Where a path leads if it leads anywhere. -/
def arrival (tree : FileTree) (path : Path) : Location :=
  path.parts.foldl step (tree.origin path)

variable {tree : FileTree} {path : Path} {location reached stop : Location} {name : String}
  {names : List String}

/-- The way along one name more goes one location further. -/
theorem mem_wayFrom_concat : stop ∈ wayFrom location (names ++ [name]) ↔
    stop ∈ wayFrom location names ∨ stop = (names ++ [name]).foldl step location := by
  induction names generalizing location with
  | nil => simp [wayFrom]
  | cons first names ih =>
    rw [List.cons_append, wayFrom, wayFrom, List.mem_cons, List.mem_cons, ih, or_assoc]
    rfl

theorem mem_way_entry : stop ∈ tree.way (path.entry name) ↔
    stop ∈ tree.way path ∨ stop = tree.arrival (path.entry name) :=
  mem_wayFrom_concat

theorem arrival_entry (h : Ordinary name) (tree : FileTree) (path : Path) :
    tree.arrival (path.entry name) = tree.arrival path ++ [name] := by
  obtain ⟨hempty, hdot, hdots⟩ := h
  rw [arrival, Path.entry, List.foldl_append, List.foldl_cons, List.foldl_nil, step, if_neg hdots]
  simp [hempty, hdot, arrival, origin]

theorem arrival_mem_way (tree : FileTree) (path : Path) : tree.arrival path ∈ tree.way path := by
  have hlast (names : List String) (location : Location) :
      names.foldl step location ∈ wayFrom location names := by
    induction names generalizing location with
    | nil => exact List.mem_singleton_self _
    | cons name names ih => exact List.mem_cons_of_mem _ (ih _)
  exact hlast path.parts (tree.origin path)

/-- From the same home a path has the same way. -/
theorem way_of_keeps {before after : FileTree} (h : KeepsDirectories before after)
    (path : Path) : after.way path = before.way path := by
  rw [way, way, origin, origin, h.home]

theorem arrival_of_keeps {before after : FileTree} (h : KeepsDirectories before after)
    (path : Path) : after.arrival path = before.arrival path := by
  rw [arrival, arrival, origin, origin, h.home]

/-! ### Walks that get through -/

/-- A walk goes on from a directory to where the next name leads. -/
theorem follow_cons (hdir : tree.lookup location = some .directory)
    (hsize : name.utf8ByteSize ≤ maxNameSize) (names : List String) :
    tree.follow location (name :: names) = tree.follow (step location name) names := by
  rw [follow, hdir]
  simp only [if_neg (Nat.not_lt.2 hsize), step]
  split_ifs <;> rfl

theorem follow_cons_eq_ok_iff : tree.follow location (name :: names) = .ok reached ↔
    tree.lookup location = some .directory ∧ name.utf8ByteSize ≤ maxNameSize ∧
      tree.follow (step location name) names = .ok reached := by
  constructor
  · intro h
    obtain ⟨hdir, hsize⟩ : tree.lookup location = some .directory ∧
        name.utf8ByteSize ≤ maxNameSize := by
      rw [follow] at h
      split at h
      · cases h
      · cases h
      · next hdir =>
        split_ifs at h with hsize <;> exact ⟨hdir, Nat.not_lt.1 hsize⟩
    exact ⟨hdir, hsize, follow_cons hdir hsize names ▸ h⟩
  · rintro ⟨hdir, hsize, h⟩
    rw [follow_cons hdir hsize, h]

/-- Where a walk gets to is decided by the names alone. -/
theorem spec_of_follow (h : tree.follow location names = .ok reached) :
    reached = names.foldl step location ∧ ∀ name ∈ names, name.utf8ByteSize ≤ maxNameSize := by
  induction names generalizing location with
  | nil =>
    rw [follow, Except.ok.injEq] at h
    exact ⟨h.symm, by simp⟩
  | cons name names ih =>
    obtain ⟨-, hsize, hrest⟩ := follow_cons_eq_ok_iff.1 h
    obtain ⟨hreached, hsizes⟩ := ih hrest
    exact ⟨hreached, List.forall_mem_cons.2 ⟨hsize, hsizes⟩⟩

/-- All locations on the way of a walk to a directory are directories. -/
theorem lookup_of_mem_wayFrom (h : tree.follow location names = .ok reached)
    (hdir : tree.lookup reached = some .directory) (hstop : stop ∈ wayFrom location names) :
    tree.lookup stop = some .directory := by
  induction names generalizing location with
  | nil =>
    rw [follow, Except.ok.injEq] at h
    rw [List.mem_singleton.1 hstop, h, hdir]
  | cons name names ih =>
    obtain ⟨hfirst, -, hrest⟩ := follow_cons_eq_ok_iff.1 h
    rcases List.mem_cons.1 hstop with rfl | hstop
    · exact hfirst
    · exact ih hrest hstop

/-- Where no name is too long and no file is in the way, a walk gets through, or something is
missing. -/
theorem follow_of_free (hsizes : ∀ name ∈ names, name.utf8ByteSize ≤ maxNameSize)
    (hfree : ∀ stop ∈ wayFrom location names, tree.fileAt? stop = none) :
    tree.follow location names = .ok (names.foldl step location) ∨
      tree.follow location names = .error .missing := by
  induction names generalizing location with
  | nil => exact .inl rfl
  | cons name names ih =>
    rw [List.forall_mem_cons] at hsizes
    rw [wayFrom, List.forall_mem_cons] at hfree
    have hrest := ih hsizes.2 hfree.2
    rcases hlookup : tree.lookup location with _ | content | _
    · refine .inr ?_
      rw [follow, hlookup]
    · have hfile := fileAt?_eq_some_iff.2 hlookup
      rw [hfree.1] at hfile
      cases hfile
    · rwa [follow_cons hlookup hsizes.1]

/-! ### Paths that lead to a directory -/

/-- A path that leads somewhere is within the limits, and leads where its names say. -/
theorem spec_of_locate (h : tree.locate path = .ok location) :
    path.WithinLimits ∧ location = tree.arrival path := by
  obtain ⟨hnul, hshort, hwalk⟩ := locate_eq_ok_iff.1 h
  obtain ⟨hreached, hsizes⟩ := spec_of_follow hwalk
  exact ⟨⟨hnul, hshort, hsizes⟩, hreached⟩

/-- A path leads to a directory if all locations on its way are directories. -/
theorem HasDirectory.lookup_of_mem_way (h : tree.HasDirectory path) (hstop : stop ∈ tree.way path) :
    tree.lookup stop = some .directory := by
  obtain ⟨location, hlocate, hdir⟩ := h
  exact lookup_of_mem_wayFrom (locate_eq_ok_iff.1 hlocate).2.2 hdir hstop

/-- Where nothing is there is no directory. -/
theorem not_hasDirectory_of_entry? (h : tree.entry? path = .ok none) : ¬tree.HasDirectory path := by
  intro hdir
  have hentry := entry?_eq_directory_iff.2 hdir
  rw [h] at hentry
  cases hentry

theorem HasDirectory.of_keeps {after : FileTree} (h : tree.HasDirectory path)
    (hkeeps : KeepsDirectories tree after) : after.HasDirectory path := by
  obtain ⟨location, hlocate, hdir⟩ := h
  exact ⟨location, locate_of_keeps hkeeps hlocate, hkeeps.directory location hdir⟩

theorem HasDirectory.withinLimits (h : tree.HasDirectory path) : path.WithinLimits := by
  obtain ⟨location, hlocate, -⟩ := h
  exact (spec_of_locate hlocate).1

/-- An entry of a directory that is there can be located. -/
theorem HasDirectory.locate_entry (h : tree.HasDirectory path)
    (hlimits : (path.entry name).WithinLimits) :
    tree.locate (path.entry name) = .ok (tree.arrival (path.entry name)) := by
  obtain ⟨location, hlocate, hdir⟩ := h
  have hsize := hlimits.short_names name (List.mem_append_right _ (List.mem_singleton_self _))
  have hwalk : tree.walk (path.entry name) = .ok (step location name) := by
    rw [walk_entry, (locate_eq_ok_iff.1 hlocate).2.2, Except.bind_ok]
    exact follow_cons_eq_ok_iff.2 ⟨hdir, hsize, rfl⟩
  have hlocated := locate_eq_ok_iff.2 ⟨hlimits.no_nul, hlimits.short, hwalk⟩
  rw [hlocated, (spec_of_locate hlocated).2]

/-- A path that keeps within the limits and has no file in its way leads where its names say, or
something is missing. -/
theorem locate_of_free (h : path.WithinLimits)
    (hfree : ∀ stop ∈ tree.way path, tree.fileAt? stop = none) :
    tree.locate path = .ok (tree.arrival path) ∨ tree.locate path = .error (.missing path) := by
  have hfollow := follow_of_free h.short_names hfree
  rw [FileTree.locate, h.no_nul, h.short]
  simp only [Bool.false_eq_true, if_false]
  rcases hfollow with hfollow | hfollow
  · refine .inl ?_
    rw [show (if path.root = .relative then tree.home else []) = tree.origin path from rfl, hfollow]
    rfl
  · refine .inr ?_
    rw [show (if path.root = .relative then tree.home else []) = tree.origin path from rfl, hfollow]

/-! ### Trees that get directories and nothing else -/

/-- One tree comes from another by making directories, all of them at the given locations. -/
structure OnlyMakes (stops : List Location) (before after : FileTree) : Prop
    extends AddsDirectories before after where
  made : ∀ stop, after.lookup stop = some .directory →
    before.lookup stop = some .directory ∨ stop ∈ stops

section OnlyMakes

variable {before after : FileTree} {stops : List Location}

theorem OnlyMakes.refl (stops : List Location) (tree : FileTree) : OnlyMakes stops tree tree :=
  ⟨.refl tree, fun _ ↦ .inl⟩

theorem OnlyMakes.trans {between : FileTree} (h : OnlyMakes stops before between)
    (h' : OnlyMakes stops between after) : OnlyMakes stops before after :=
  ⟨h.toAddsDirectories.trans h'.toAddsDirectories, fun stop hstop ↦
    (h'.made stop hstop).elim (h.made stop) .inr⟩

theorem OnlyMakes.mono {more : List Location} (h : OnlyMakes stops before after)
    (hmore : ∀ stop ∈ stops, stop ∈ more) : OnlyMakes more before after :=
  ⟨h.toAddsDirectories, fun stop hstop ↦ (h.made stop hstop).imp_right (hmore stop)⟩

/-- A directory is made where its path leads, and nowhere else. -/
theorem onlyMakes_of_makeDirectory (h : before.makeDirectory path = .ok after) :
    OnlyMakes (before.way path) before after := by
  refine ⟨(adds_of_makeDirectory h).1, fun stop hdir ↦ ?_⟩
  obtain ⟨location, hlocate, h⟩ := Except.bind_eq_ok_iff.1 h
  split at h
  · cases h
  · cases h
    by_cases heq : stop = location
    · rw [heq, (spec_of_locate hlocate).2]
      exact .inr (arrival_mem_way before path)
    · rw [lookup_insert_of_ne before heq] at hdir
      exact .inl hdir

end OnlyMakes

end FileTree

/-! ### Making directories -/

namespace Disk

open FileTree EStateM

variable {before after : FileTree} {path : Path} {stop : Location} {stops : List Location}

theorem left_query {α : Type} (question : FileTree → Except FileFault α) (tree : FileTree) :
    (query question tree).left = tree := by
  rw [query]
  cases question tree <;> rfl

theorem onlyMakes_change {step : FileTree → Except FileFault FileTree}
    (h : ∀ after, step before = .ok after → OnlyMakes stops before after) :
    OnlyMakes stops before (change step before).left := by
  rw [change]
  cases hstep : step before with
  | error fault => exact .refl stops before
  | ok after => exact h after hstep

theorem left_keepDirectory (path : Path) (fault : FileFault) (tree : FileTree) :
    (keepDirectory path fault tree).left = tree := by
  have hquery := left_query (·.isDirectory path) tree
  refine left_bind (R := fun s t ↦ t = s) (fun h h' ↦ h'.trans h) hquery fun isThere t _ ↦ ?_
  split <;> rfl

/-- Accepting a directory that is there changes nothing. -/
theorem eq_of_keepDirectory {fault : FileFault}
    (h : keepDirectory path fault before = .ok () after) : after = before := by
  have hleft := left_keepDirectory path fault before
  rwa [h] at hleft

/-- Making a directory with a handler that makes some, too. -/
theorem onlyMakes_tryCatch {handle : FileFault → Disk Unit}
    (hpath : ∀ stop ∈ before.way path, stop ∈ stops)
    (hhandle : ∀ fault, OnlyMakes stops before (handle fault before).left) :
    OnlyMakes stops before (tryCatch (change (·.makeDirectory path)) handle before).left := by
  refine left_tryCatch .trans
    (onlyMakes_change fun after h ↦ (onlyMakes_of_makeDirectory h).mono hpath) fun fault t ht ↦ ?_
  obtain ⟨-, rfl⟩ := change_eq_error_iff.1 ht
  exact hhandle fault

theorem onlyMakes_makeDirectory (path : Path) (before : FileTree) :
    OnlyMakes (before.way path) before (makeDirectory path before).left :=
  onlyMakes_tryCatch (fun _ ↦ id) fun fault ↦ by
    rw [left_keepDirectory]
    exact .refl _ before

theorem onlyMakes_makeDirectoriesFrom (root : PathRoot) (allowed : Nat) (above : List String)
    (before : FileTree) : OnlyMakes (before.way { root, parts := above.reverse }) before
      (makeDirectoriesFrom root allowed above before).left := by
  induction above generalizing allowed with
  | nil =>
    rcases allowed with _ | allowed
    · exact .refl _ before
    · exact onlyMakes_makeDirectory { root } before
  | cons name above ih =>
    rcases allowed with _ | allowed
    · exact .refl _ before
    · refine onlyMakes_tryCatch (fun _ ↦ id) fun fault ↦ ?_
      split
      · -- The directories above are made first, on the way to this one.
        have hway : ∀ stop ∈ before.way { root, parts := above.reverse },
            stop ∈ before.way { root, parts := (name :: above).reverse } := by
          intro stop hstop
          rw [List.reverse_cons]
          exact mem_way_entry.2 (.inl hstop)
        have habove := (ih allowed).mono hway
        refine left_bind .trans habove fun _ between hbetween ↦ ?_
        rw [hbetween] at habove
        have hkeeps : KeepsDirectories before between := habove.keeps
        have hmake := onlyMakes_makeDirectory { root, parts := (name :: above).reverse } between
        rwa [way_of_keeps hkeeps] at hmake
      · rw [left_keepDirectory]
        exact .refl _ before

/-- **What making directories leaves**: directories on the way, and nothing else, whether all of
them could be made or not. -/
theorem onlyMakes_makeDirectories (path : Path) (before : FileTree) :
    OnlyMakes (before.way path) before (makeDirectories path before).left := by
  have h := onlyMakes_makeDirectoriesFrom path.root maxMissing path.parts.reverse before
  rwa [List.reverse_reverse] at h

/-- **Directories that are made**: after the directories of a path are made, the directories are
those from before and the locations on the way of the path. -/
theorem lookup_of_makeDirectories (h : makeDirectories path before = .ok () after) :
    after.lookup stop = some .directory ↔
      before.lookup stop = some .directory ∨ stop ∈ before.way path := by
  obtain ⟨hadds, hdir⟩ := adds_of_makeDirectories h
  constructor
  · intro hstop
    have hmakes := onlyMakes_makeDirectories path before
    rw [h] at hmakes
    exact hmakes.made stop hstop
  · rintro (hstop | hstop)
    · exact hadds.keeps.directory stop hstop
    · rw [← way_of_keeps hadds.keeps] at hstop
      exact hdir.lookup_of_mem_way hstop

/-- A tree with more directories has more of them after those of a path are made. -/
theorem keepsDirectories_of_makeDirectories {tree made : FileTree}
    (hmake : makeDirectories path tree = .ok () made)
    (hmake' : makeDirectories path before = .ok () after) (hkeeps : KeepsDirectories tree before) :
    KeepsDirectories made after := by
  have hadds := (adds_of_makeDirectories hmake).1.keeps
  have hadds' := (adds_of_makeDirectories hmake').1.keeps
  refine ⟨hadds'.home.trans (hkeeps.home.trans hadds.home.symm), fun stop hstop ↦ ?_⟩
  rw [lookup_of_makeDirectories hmake] at hstop
  rw [lookup_of_makeDirectories hmake', way_of_keeps hkeeps]
  exact hstop.imp_left (hkeeps.directory stop)

/-! ### When directories can be made -/

/-- A directory that is there is accepted. -/
theorem keepDirectory_of_hasDirectory (h : before.HasDirectory path) {fault : FileFault}
    (hfault : fault.fromSystem = true) : keepDirectory path fault before = .ok () before := by
  have hask : before.isDirectory path = .ok true := by
    rw [isDirectory, entry?_eq_directory_iff.2 h]
    rfl
  have hquery : query (·.isDirectory path) before = .ok true before :=
    query_eq_ok_iff.2 ⟨hask, rfl⟩
  rw [keepDirectory, hfault]
  exact EStateM.bind_of_ok hquery

/-- Where no file is, a directory can be made, or there is one. -/
theorem makeDirectory_of_free {location : Location} (hlocate : before.locate path = .ok location)
    (hfree : before.fileAt? location = none) :
    (∃ after, before.makeDirectory path = .ok after) ∨
      before.makeDirectory path = .error (.alreadyThere path) ∧ before.HasDirectory path := by
  rw [FileTree.makeDirectory, hlocate, Except.bind_ok]
  rcases hlookup : before.lookup location with _ | content | _
  · exact .inl ⟨_, rfl⟩
  · rw [fileAt?_eq_some_iff.2 hlookup] at hfree
    cases hfree
  · exact .inr ⟨rfl, location, hlocate, hlookup⟩

theorem change_makeDirectory_of_error {fault : FileFault}
    (h : before.makeDirectory path = .error fault) :
    change (·.makeDirectory path) before = .error fault before :=
  change_eq_error_iff.2 ⟨h, rfl⟩

/-- Where no file is, trying to make a directory succeeds as long as one that is there is
accepted. -/
theorem exists_tryCatch_makeDirectory {handle : FileFault → Disk Unit}
    (hhandle : handle (.alreadyThere path) = keepDirectory path (.alreadyThere path))
    {location : Location} (hlocate : before.locate path = .ok location)
    (hfree : before.fileAt? location = none) :
    ∃ after, tryCatch (change (·.makeDirectory path)) handle before = .ok () after := by
  rcases makeDirectory_of_free hlocate hfree with ⟨after, hmake⟩ | ⟨hthere, hdir⟩
  · exact ⟨after, EStateM.tryCatch_eq_ok_iff.2 (.inl (change_eq_ok_iff.2 hmake))⟩
  · have hchange := change_makeDirectory_of_error hthere
    have hkeep := keepDirectory_of_hasDirectory hdir
      (show (FileFault.alreadyThere path).fromSystem = true from rfl)
    rw [← hhandle] at hkeep
    exact ⟨before, EStateM.tryCatch_eq_ok_iff.2 (.inr ⟨_, before, hchange, hkeep⟩)⟩

theorem exists_makeDirectory {location : Location} (hlocate : before.locate path = .ok location)
    (hfree : before.fileAt? location = none) :
    ∃ after, makeDirectory path before = .ok () after :=
  exists_tryCatch_makeDirectory rfl hlocate hfree

section

variable {root : PathRoot} {allowed : Nat} {name : String} {above : List String}

/-- A directory that can be located is made without those above it. -/
theorem exists_makeDirectoriesFrom_of_located {location : Location}
    (hlocate : before.locate { root, parts := (name :: above).reverse } = .ok location)
    (hfree : before.fileAt? location = none) :
    ∃ after, makeDirectoriesFrom root (allowed + 1) (name :: above) before = .ok () after :=
  exists_tryCatch_makeDirectory rfl hlocate hfree

/-- A directory that something is missing on the way to is made after those above it. -/
theorem makeDirectoriesFrom_of_missing {between after : FileTree}
    (hmissing : before.locate { root, parts := (name :: above).reverse } =
      .error (.missing { root, parts := (name :: above).reverse }))
    (habove : makeDirectoriesFrom root allowed above before = .ok () between)
    (hmake : makeDirectory { root, parts := (name :: above).reverse } between = .ok () after) :
    makeDirectoriesFrom root (allowed + 1) (name :: above) before = .ok () after := by
  have hfault : before.makeDirectory { root, parts := (name :: above).reverse } =
      .error (.missing { root, parts := (name :: above).reverse }) := by
    rw [FileTree.makeDirectory, hmissing]
    rfl
  have hchange := change_makeDirectory_of_error hfault
  refine EStateM.tryCatch_eq_ok_iff.2 (.inr ⟨_, before, hchange, ?_⟩)
  exact (EStateM.bind_of_ok habove).trans hmake

/-- If a directory was made though it could not be located, those above it were made first. -/
theorem exists_above_of_makeDirectoriesFrom
    (h : makeDirectoriesFrom root (allowed + 1) (name :: above) before = .ok () after)
    (hnowhere : ∀ location,
      before.locate { root, parts := (name :: above).reverse } ≠ .ok location) :
    ∃ between, makeDirectoriesFrom root allowed above before = .ok () between := by
  rcases EStateM.tryCatch_eq_ok_iff.1 h with h | ⟨fault, between, hchange, h⟩
  · obtain ⟨location, hlocate, -⟩ := Except.bind_eq_ok_iff.1 (change_eq_ok_iff.1 h)
    exact absurd hlocate (hnowhere location)
  · obtain ⟨-, rfl⟩ := change_eq_error_iff.1 hchange
    split at h
    · obtain ⟨_, between, habove, -⟩ := EStateM.bind_eq_ok_iff.1 h
      exact ⟨between, habove⟩
    · obtain ⟨location, hlocate, -⟩ := (adds_of_keepDirectory h).2
      rw [eq_of_keepDirectory h] at hlocate
      exact absurd hlocate (hnowhere location)

/-- What can be made in one tree can be made in another one that has its directories and no file in
the way. -/
theorem exists_makeDirectoriesFrom {tree made : FileTree}
    (h : makeDirectoriesFrom root allowed above tree = .ok () made)
    (hkeeps : KeepsDirectories tree before)
    (hfree : ∀ stop ∈ before.way { root, parts := above.reverse }, before.fileAt? stop = none) :
    ∃ after, makeDirectoriesFrom root allowed above before = .ok () after := by
  induction above generalizing allowed tree made with
  | nil =>
    have hlimits := (adds_of_makeDirectoriesFrom h).2.withinLimits
    rcases allowed with _ | allowed
    · cases h
    · exact exists_makeDirectory (locate_eq_ok_iff.2 ⟨hlimits.no_nul, hlimits.short, rfl⟩)
        (hfree _ (arrival_mem_way before _))
  | cons name above ih =>
    have hlimits := (adds_of_makeDirectoriesFrom h).2.withinLimits
    rcases allowed with _ | allowed
    · cases h
    rcases locate_of_free hlimits hfree with hlocate | hmissing
    · exact exists_makeDirectoriesFrom_of_located hlocate (hfree _ (arrival_mem_way before _))
    · -- The path led nowhere in the first tree either, so the directories above were made there.
      have hnowhere : ∀ location,
          tree.locate { root, parts := (name :: above).reverse } ≠ .ok location := by
        intro location hlocate
        cases hmissing.symm.trans (locate_of_keeps hkeeps hlocate)
      obtain ⟨made', habove⟩ := exists_above_of_makeDirectoriesFrom h hnowhere
      have hpath : ({ root, parts := (name :: above).reverse } : Path) =
          ({ root, parts := above.reverse } : Path).entry name := by
        rw [Path.entry, List.reverse_cons]
      have hfree' : ∀ stop ∈ before.way { root, parts := above.reverse },
          before.fileAt? stop = none := by
        intro stop hstop
        refine hfree stop ?_
        rw [hpath]
        exact mem_way_entry.2 (.inl hstop)
      obtain ⟨between, hbetween⟩ := ih habove hkeeps hfree'
      obtain ⟨hadds, hdir⟩ := adds_of_makeDirectoriesFrom hbetween
      have hlocate : between.locate { root, parts := (name :: above).reverse } =
          .ok (before.arrival { root, parts := (name :: above).reverse }) := by
        rw [← arrival_of_keeps hadds.keeps, hpath]
        exact hdir.locate_entry (hpath ▸ hlimits)
      obtain ⟨after, hmake⟩ := exists_makeDirectory hlocate
        ((hadds.files _).trans (hfree _ (arrival_mem_way before _)))
      exact ⟨after, makeDirectoriesFrom_of_missing hmissing hbetween hmake⟩

end

/-- **Directories that can be made**: if the directories of a path can be made in one tree, they can
be made in another one that has its directories and no file in the way. -/
theorem exists_makeDirectories {tree made : FileTree}
    (h : makeDirectories path tree = .ok () made) (hkeeps : KeepsDirectories tree before)
    (hfree : ∀ stop ∈ before.way path, before.fileAt? stop = none) :
    ∃ after, makeDirectories path before = .ok () after := by
  refine exists_makeDirectoriesFrom h hkeeps ?_
  rwa [List.reverse_reverse]

end Disk

end ConfigTables
