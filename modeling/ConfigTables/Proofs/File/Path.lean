import ConfigTables.Proofs.File.Tree
import ConfigTables.Proofs.Text.Split
import Mathlib.Data.List.TakeDrop

/-!
# Paths of single names

A text without a slash denotes the entry of that name (`Path.child_eq_entry`), so it cannot lead
anywhere else. The written form of a path goes on after that of its first parts
(`Path.exists_text_append`), so entries of different names below one path are written differently.

What follows the last dot of a name is its suffix, if it has one (`Path.suffixOf_append`). A name is
its stem and its suffix, so a longer suffix makes the name longer and changes nothing in front of it
(`Path.withSuffix_append`).
-/

namespace ConfigTables

namespace Path

/-! ### Entries of a directory -/

theorem readRoot_of_notMem {cs : List Char} (h : '/' ∉ cs) : readRoot cs = .relative := by
  unfold readRoot
  split <;> simp_all

/-- A text without a slash that is neither empty nor a dot is read as a path of one part. -/
theorem ofText_of_notMem {s : String} (h : '/' ∉ s.toList) (hempty : s ≠ "") (hdot : s ≠ ".") :
    ofText s = { parts := [s] } := by
  have hsegments : segments s = [s] := by
    have hfree : ¬"/".toList <:+: s.toList := fun hslash ↦ h (hslash.subset List.mem_cons_self)
    rw [segments, Text.split, Text.splitChars_eq_singleton hfree]
    simp
  rw [ofText, hsegments, readRoot_of_notMem h]
  simp [hempty, hdot]

theorem child_eq_entry {s : String} (h : '/' ∉ s.toList) (hempty : s ≠ "") (hdot : s ≠ ".")
    (directory : Path) : directory.child s = directory.entry s := by
  rw [child, ofText_of_notMem h hempty hdot]
  rfl

@[simp]
theorem parent_entry (directory : Path) (name : String) :
    (directory.entry name).parent = directory := by
  simp [parent, entry]

@[simp]
theorem name_entry (directory : Path) (name : String) : (directory.entry name).name = name := by
  simp [Path.name, entry]

/-- A path with a last name is an entry of its parent. -/
theorem entry_parent {path : Path} (h : path.name ≠ "") : path.parent.entry path.name = path := by
  obtain ⟨root, parts⟩ := path
  rcases hlast : parts.getLast? with _ | last
  · simp [Path.name, hlast] at h
  · simp [Path.name, parent, entry, hlast, List.dropLast_append_getLast? _ hlast]

/-! ### Suffixes -/

/-- A name that has something after its last dot ends in that, or has no suffix. -/
theorem suffixOf_append {extension : List Char} (h : '.' ∉ extension) (s : String) :
    suffixOf (s ++ String.ofList ('.' :: extension)) = "" ∨
      suffixOf (s ++ String.ofList ('.' :: extension)) = String.ofList ('.' :: extension) := by
  have hreverse : (s ++ String.ofList ('.' :: extension)).toList.reverse =
      extension.reverse ++ '.' :: s.toList.reverse := by
    simp
  have hspan : (extension.reverse ++ '.' :: s.toList.reverse).span (· != '.') =
      (extension.reverse, '.' :: s.toList.reverse) := by
    have hall : ∀ c ∈ extension.reverse, (c != '.') = true := by
      rintro c hc
      rw [bne_iff_ne]
      rintro rfl
      exact h (List.mem_reverse.1 hc)
    rw [List.span_eq_takeWhile_dropWhile, List.takeWhile_append_of_pos hall,
      List.dropWhile_append_of_pos hall]
    simp
  rw [suffixOf, hreverse, hspan]
  split
  · exact .inl rfl
  · exact .inl rfl
  · exact .inl rfl
  · next heq =>
    cases heq
    rw [List.reverse_reverse]
    exact .inr rfl

/-- A name ends in its suffix. -/
theorem exists_append_suffixOf (name : String) : ∃ stem, stem ++ suffixOf name = name := by
  have hname : name.toList.reverse.takeWhile (· != '.') ++
      name.toList.reverse.dropWhile (· != '.') = name.toList.reverse :=
    List.takeWhile_append_dropWhile
  have hdot := List.head?_dropWhile_not (· != '.') name.toList.reverse
  rw [suffixOf, List.span_eq_takeWhile_dropWhile]
  generalize name.toList.reverse.takeWhile (· != '.') = extension at hname
  generalize name.toList.reverse.dropWhile (· != '.') = rest at hname hdot
  split
  · exact ⟨name, String.append_empty⟩
  · exact ⟨name, String.append_empty⟩
  · exact ⟨name, String.append_empty⟩
  · next hnil heq =>
    -- What is left of the reversed name begins with its last dot.
    obtain ⟨rfl, rfl⟩ := Prod.mk.inj heq
    rcases rest with _ | ⟨dot, before⟩
    · exact (hnil rfl).elim
    · obtain rfl : dot = '.' := by simpa using hdot
      refine ⟨String.ofList before.reverse, String.toList_injective ?_⟩
      rw [← List.reverse_inj, ← hname]
      simp

theorem stemOf_append_suffixOf (name : String) : stemOf name ++ suffixOf name = name := by
  obtain ⟨stem, hstem⟩ := exists_append_suffixOf name
  have htake : name.toList.take (name.length - (suffixOf name).length) = stem.toList := by
    have hlength := congrArg String.length hstem
    have hlist := congrArg String.toList hstem
    rw [String.length_append] at hlength
    rw [String.toList_append] at hlist
    rw [← hlist, ← hlength, Nat.add_sub_cancel, ← String.length_toList, List.take_left]
  rw [stemOf, htake, String.ofList_toList, hstem]

/-- A suffix that goes on after the one of a path goes on after the path. -/
theorem withSuffix_append (path : Path) (more : String) :
    path.withSuffix (path.suffix ++ more) = path.withName (path.name ++ more) := by
  rw [withSuffix, suffix, ← String.append_assoc, stemOf_append_suffixOf]

/-! ### The written form of a path -/

/-- The written form of a path goes on after that of its first parts, whatever follows them. -/
theorem exists_text_append (path : Path) : ∃ stem, ∀ more ≠ [],
    ({ path with parts := path.parts ++ more } : Path).text = stem ++ "/".intercalate more := by
  have hparts : ∃ stem, ∀ more ≠ [],
      "/".intercalate (path.parts ++ more) = stem ++ "/".intercalate more := by
    induction path.parts with
    | nil => exact ⟨"", by simp⟩
    | cons part parts ih =>
      obtain ⟨stem, hstem⟩ := ih
      refine ⟨part ++ "/" ++ stem, fun more hmore ↦ ?_⟩
      have hne : parts ++ more ≠ [] := List.append_ne_nil_of_right_ne_nil _ hmore
      rw [List.cons_append, String.intercalate_cons_of_ne_nil hne, hstem more hmore,
        String.append_assoc, String.append_assoc, String.append_assoc]
  obtain ⟨stem, hstem⟩ := hparts
  refine ⟨path.root.text ++ stem, fun more hmore ↦ ?_⟩
  have hne : (path.parts ++ more).isEmpty = false := by
    simp [hmore]
  simp only [text, hne, Bool.and_false, Bool.false_eq_true, if_false]
  rw [hstem more hmore, String.append_assoc]

theorem text_entry_entry (path : Path) (last name : String) :
    ((path.entry last).entry name).text = (path.entry last).text ++ "/" ++ name := by
  obtain ⟨stem, hstem⟩ := path.exists_text_append
  have hparts : (path.entry last).entry name =
      { path with parts := path.parts ++ [last, name] } := by
    simp [entry]
  rw [hparts, hstem _ (List.cons_ne_nil _ _), entry, hstem _ (List.cons_ne_nil _ _),
    String.intercalate_cons_cons, String.intercalate_singleton, String.intercalate_singleton]
  simp only [String.append_assoc]

end Path

end ConfigTables
