import ConfigTables.Proofs.Datum.Json
import ConfigTables.Proofs.File.Path
import ConfigTables.Workbook.Basic

/-!
# Which workbooks are found, and what loading them depends on

The workbooks of a directory are its files whose names say so, in the order of their names. In a
tree that lists no location twice they are all different, and which ones they are and in which order
is a matter of what is at their locations (`names_eq_of_lookup`), and not of the order in which the
tree lists its entries.

Loading a workbook looks at the directories on the way to it and at what is at its location, and at
nothing else (`load_eq_of_keeps`). That is why a run may change and remove files elsewhere without
changing what it reads.
-/

namespace ConfigTables.Workbook

open FileTree

/-- The names of the workbooks in a directory, in their order. -/
def names (tree : FileTree) (location : Location) : List String :=
  ((sortedChildren tree location).filter fun child ↦ isWorkbook child.1 child.2).map Prod.fst

/-- The name of a workbook is that of an entry: it ends in a suffix, and so is none of the names
that lead elsewhere. -/
theorem ordinary_of_isName {name : String} (h : isName name = true) : Ordinary name := by
  refine ⟨?_, ?_, ?_⟩ <;> rintro rfl <;> exact absurd h (by decide)

/-- Only files with the suffix of a format are workbooks. -/
theorem isName_append (extension : List Char) (h : '.' ∉ extension)
    (hformat : WorkbookFormat.ofSuffix? (Text.lower (String.ofList ('.' :: extension))) = none)
    (s : String) : isName (s ++ String.ofList ('.' :: extension)) = false := by
  have hnone : format? (s ++ String.ofList ('.' :: extension)) = none := by
    rw [format?]
    rcases Path.suffixOf_append h s with hsuffix | hsuffix
    · rw [hsuffix]
      decide
    · rw [hsuffix, hformat]
  rw [isName, hnone]
  rfl

/-! ### The list of workbooks -/

theorem mem_sortedChildren {tree : FileTree} {location : Location} {child : String × Entry} :
    child ∈ sortedChildren tree location ↔ child ∈ tree.children location :=
  (List.mergeSort_perm _ _).mem_iff

/-- A path leads to a directory of which all entries can be looked at, which is so unless one of
them has too long a path. -/
structure Listable (tree : FileTree) (directory : Path) (location : Location) : Prop where
  located : tree.locate directory = .ok location
  is_directory : tree.lookup location = some .directory
  within_limits : ∀ child ∈ tree.children location, (directory.entry child.1).isTooLong = false

/-- The workbooks of a directory that can be listed are the entries of the names found there. -/
theorem find?_eq_ok_iff {tree : FileTree} {directory : Path} {paths : List Path} :
    find? tree directory = .ok (some paths) ↔ ∃ location, Listable tree directory location ∧
      paths = (names tree location).map directory.entry := by
  have hshort (location : Location) :
      (((sortedChildren tree location).map fun child ↦ directory.entry child.1).find?
        Path.isTooLong = none) ↔
      ∀ child ∈ tree.children location, (directory.entry child.1).isTooLong = false := by
    simp [List.find?_eq_none, mem_sortedChildren]
  have hpaths (location : Location) :
      (((sortedChildren tree location).filter fun child ↦ isWorkbook child.1 child.2).map
        fun child ↦ directory.entry child.1) = (names tree location).map directory.entry := by
    rw [names, List.map_map]
    rfl
  -- What is found is listed only after every path has been asked for its length.
  rw [find?, Except.bind_eq_ok_iff]
  constructor
  · rintro ⟨found, hentry, h⟩
    rcases found with _ | _ | _
    · cases h
    · cases h
    · obtain ⟨location, hlocate, hdir⟩ := entry?_eq_directory_iff.1 hentry
      simp only [hlocate, Except.bind_ok] at h
      split at h
      · cases h
      · next hfind =>
        cases h
        exact ⟨location, ⟨hlocate, hdir, (hshort location).1 hfind⟩, hpaths location⟩
  · rintro ⟨location, ⟨hlocate, hdir, hall⟩, rfl⟩
    refine ⟨some .directory, entry?_eq_directory_iff.2 ⟨location, hlocate, hdir⟩, ?_⟩
    simp only [hlocate, Except.bind_ok, (hshort location).2 hall, hpaths]
    rfl

/-- What an entry of a tree is in a directory, if it is directly in it. -/
def child? (location : Location) (listed : Location × Entry) : Option (String × Entry) :=
  listed.1.getLast?.bind fun name ↦
    if listed.1.dropLast = location then some (name, listed.2) else none

theorem children_eq_filterMap (tree : FileTree) (location : Location) :
    tree.children location = tree.entries.filterMap (child? location) := by
  rw [FileTree.children]
  congr 1
  funext listed
  rw [child?]
  cases listed.1.getLast? <;> rfl

/-- A listed place is a child if it is one name below the directory. -/
theorem child?_eq_some_iff {location : Location} {listed : Location × Entry}
    {child : String × Entry} :
    child? location listed = some child ↔ listed = (location ++ [child.1], child.2) := by
  obtain ⟨l, entry⟩ := listed
  obtain ⟨name, e⟩ := child
  rcases List.eq_nil_or_concat l with rfl | ⟨above, last, rfl⟩
  · simp [child?]
  · have hlocations : above ++ [last] = location ++ [name] ↔ above = location ∧ last = name := by
      simp
    simp [child?, hlocations, and_assoc]

/-- The children of a directory are the entries one name further on. -/
theorem mem_children {tree : FileTree} {location : Location} {name : String} {entry : Entry} :
    (name, entry) ∈ tree.children location ↔ (location ++ [name], entry) ∈ tree.entries := by
  simp only [children_eq_filterMap, List.mem_filterMap, child?_eq_some_iff, exists_eq_right]

/-- The workbooks of a directory are those of its children that are workbooks, in some order. -/
theorem names_perm (tree : FileTree) (location : Location) :
    (names tree location).Perm (((tree.children location).filter fun child ↦
      isWorkbook child.1 child.2).map Prod.fst) :=
  ((List.mergeSort_perm _ _).filter _).map _

/-- A listed name is that of a workbook, and there is something at its location. -/
theorem of_mem_names {tree : FileTree} {location : Location} {name : String}
    (h : name ∈ names tree location) :
    isName name = true ∧ (tree.lookup (location ++ [name])).isSome := by
  simp only [names, List.mem_map, List.mem_filter, mem_sortedChildren] at h
  obtain ⟨⟨name, entry⟩, ⟨hmem, hbook⟩, rfl⟩ := h
  refine ⟨?_, isSome_lookup_of_mem (mem_children.1 hmem)⟩
  rcases entry with content | _
  · exact hbook
  · cases hbook

/-- Which names are listed: those of the files that are workbooks by their name. -/
theorem mem_names {tree : FileTree} (h : tree.Distinct) {location : Location} {name : String} :
    name ∈ names tree location ↔ isName name = true ∧
      ∃ content, tree.lookup (location ++ [name]) = some (.file content) := by
  have hne : location ++ [name] ≠ [] := List.append_ne_nil_of_right_ne_nil _ (List.cons_ne_nil _ _)
  simp only [names, List.mem_map, List.mem_filter, mem_sortedChildren]
  constructor
  · rintro ⟨⟨name, entry⟩, ⟨hmem, hbook⟩, rfl⟩
    rw [mem_children, mem_entries_iff_lookup h hne] at hmem
    rcases entry with content | _
    · exact ⟨hbook, content, hmem⟩
    · cases hbook
  · rintro ⟨hname, content, hlookup⟩
    refine ⟨(name, .file content), ⟨?_, hname⟩, rfl⟩
    rwa [mem_children, mem_entries_iff_lookup h hne]

/-- The names of the entries of a directory are all different. -/
theorem nodup_children {tree : FileTree} (h : tree.Distinct) (location : Location) :
    ((tree.children location).map Prod.fst).Nodup := by
  rw [Distinct, List.Nodup, List.pairwise_map] at h
  rw [List.Nodup, List.pairwise_map, children_eq_filterMap]
  refine h.filterMap _ fun listed listed' hne child hchild child' hchild' ↦ ?_
  rw [child?_eq_some_iff.1 hchild, child?_eq_some_iff.1 hchild'] at hne
  rintro heq
  exact hne (congrArg (fun name ↦ location ++ [name]) heq)

/-- The names are listed in code-point order, and each of them once. -/
theorem pairwise_names {tree : FileTree} (h : tree.Distinct) (location : Location) :
    (names tree location).Pairwise (· < ·) := by
  have hsorted : (sortedChildren tree location).Pairwise fun a b ↦ a.1 ≤ b.1 :=
    Datum.pairwise_sortByKey _
  have hnodup : ((sortedChildren tree location).map Prod.fst).Nodup :=
    ((List.mergeSort_perm _ _).map Prod.fst).nodup_iff.2 (nodup_children h location)
  rw [names, List.pairwise_map]
  refine List.Pairwise.filter _ (hsorted.imp₂ (fun a b ↦ lt_of_le_of_ne) ?_)
  exact List.pairwise_map.1 hnodup

/-- Which names are listed is a matter of which files there are with the name of a workbook, and of
nothing else. -/
theorem names_eq_of_files {tree other : FileTree} (h : tree.Distinct) (h' : other.Distinct)
    {location : Location} (hfiles : ∀ name, isName name = true →
      ((∃ content, other.lookup (location ++ [name]) = some (.file content)) ↔
        ∃ content, tree.lookup (location ++ [name]) = some (.file content))) :
    names other location = names tree location := by
  refine (pairwise_names h' location).eq_of_mem_iff (pairwise_names h location) fun name ↦ ?_
  rw [mem_names h', mem_names h]
  exact and_congr_right (hfiles name)

/-- Which workbooks are listed depends only on what is in the places that are called as workbooks
are. -/
theorem names_eq_of_lookup {tree other : FileTree} (h : tree.Distinct) (h' : other.Distinct)
    {location : Location} (hlookup : ∀ name, isName name = true →
      other.lookup (location ++ [name]) = tree.lookup (location ++ [name])) :
    names other location = names tree location :=
  names_eq_of_files h h' fun name hname ↦ by rw [hlookup name hname]

/-- A directory can be listed unless one of its entries has too long a path. -/
theorem listable_or_tooLong {tree : FileTree} {directory : Path} {location : Location}
    (hlocate : tree.locate directory = .ok location)
    (hdir : tree.lookup location = some .directory) :
    Listable tree directory location ∨ ∃ child ∈ tree.children location,
      (directory.entry child.1).isTooLong = true ∧
        find? tree directory = .error (.tooLong (directory.entry child.1)) := by
  rcases hfirst : ((sortedChildren tree location).map fun child ↦
    directory.entry child.1).find? Path.isTooLong with _ | path
  · rw [List.find?_eq_none, List.forall_mem_map] at hfirst
    refine .inl ⟨hlocate, hdir, fun child hchild ↦ ?_⟩
    simpa using hfirst child (mem_sortedChildren.2 hchild)
  · obtain ⟨child, hchild, rfl⟩ := List.mem_map.1 (List.mem_of_find?_eq_some hfirst)
    refine .inr ⟨child, mem_sortedChildren.1 hchild, List.find?_some hfirst, ?_⟩
    rw [find?, entry?_eq_directory_iff.2 ⟨location, hlocate, hdir⟩, Except.bind_ok]
    simp only [hlocate, Except.bind_ok, hfirst]
    rfl

/-- A directory can still be listed where all directories are still there and it has no new
entries. -/
theorem Listable.mono {tree other : FileTree} {directory : Path} {location : Location}
    (h : Listable tree directory location) (hkeeps : KeepsDirectories tree other)
    (hchildren : ∀ child ∈ other.children location, child ∈ tree.children location) :
    Listable other directory location :=
  ⟨locate_of_keeps hkeeps h.located, hkeeps.directory _ h.is_directory,
    fun child hchild ↦ h.within_limits child (hchildren child hchild)⟩

/-! ### Loading -/

/-- A workbook loads if the reader gives tabs for what is at its location. -/
theorem load_eq_ok {reader : WorkbookReader} {tree : FileTree} {path : Path} {location : Location}
    {entry : Entry} {format : WorkbookFormat} {tabs : List Tab}
    (hlocate : tree.locate path = .ok location) (hlookup : tree.lookup location = some entry)
    (hformat : format? path.name = some format) (hread : reader location entry = .ok tabs) :
    load reader tree path = .ok ((Tab.distinct tabs).map Tab.squared) := by
  simp only [load, hlocate, hlookup, readTabs, hformat, hread]

/-- Two trees in which a workbook is the same file, and the input the same directory, give the same
tabs. -/
theorem load_eq_of_keeps (reader : WorkbookReader) {before after : FileTree}
    (h : KeepsDirectories before after) {input : Path} {location : Location}
    (hinput : Listable before input location) {name : String} (hname : isName name = true)
    (hlookup : after.lookup (location ++ [name]) = before.lookup (location ++ [name])) :
    load reader after (input.entry name) = load reader before (input.entry name) := by
  have hbefore := locate_entry hinput.located hinput.is_directory (ordinary_of_isName hname)
  have hafter := locate_entry (locate_of_keeps h hinput.located)
    (h.directory _ hinput.is_directory) (ordinary_of_isName hname)
  rw [load, load, hbefore, hafter]
  rcases hentry : entryLocation input location name with fault | reached
  · cases fault <;> rfl
  · rw [(entryLocation_eq_ok_iff.1 hentry).2]
    simp only [hlookup]

/-! ### Trees that list the same in another order -/

section Reordering

variable {tree other : FileTree} {input : Path} {location : Location}

/-- The order in which a tree enumerates its places makes no difference to its directories. -/
theorem keepsDirectories_of_perm (h : tree.Distinct) (hhome : other.home = tree.home)
    (hperm : tree.entries.Perm other.entries) : KeepsDirectories tree other :=
  ⟨hhome, fun place hdir ↦ (lookup_eq_of_perm h hperm place).trans hdir⟩

/-- Nor does it to whether a directory can be listed. -/
theorem Listable.of_perm (h : tree.Distinct) (hhome : other.home = tree.home)
    (hperm : tree.entries.Perm other.entries) (hinput : Listable tree input location) :
    Listable other input location := by
  refine hinput.mono (keepsDirectories_of_perm h hhome hperm) fun child hchild ↦ ?_
  rw [mem_children] at hchild ⊢
  exact hperm.mem_iff.2 hchild

/-- Nor to the names of its workbooks. -/
theorem names_of_perm (h : tree.Distinct) (hperm : tree.entries.Perm other.entries) :
    names other location = names tree location :=
  names_eq_of_lookup h ((hperm.map Prod.fst).nodup_iff.1 h)
    fun _ _ ↦ lookup_eq_of_perm h hperm _

/-- Nor to what they are loaded as. -/
theorem load_of_perm (reader : WorkbookReader) (h : tree.Distinct) (hhome : other.home = tree.home)
    (hperm : tree.entries.Perm other.entries) (hinput : Listable tree input location)
    {name : String} (hname : isName name = true) :
    load reader other (input.entry name) = load reader tree (input.entry name) :=
  load_eq_of_keeps reader (keepsDirectories_of_perm h hhome hperm) hinput hname
    (lookup_eq_of_perm h hperm _)

end Reordering

end ConfigTables.Workbook
