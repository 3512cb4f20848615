import ConfigTables.Proofs.Datum.Json

/-!
# Data up to the order of entries

The entries of an object are in some order that says nothing about its value. Two data are the same
value if their lists agree item by item and their objects agree key by key (`Datum.SameValue`), and
every datum has a form in which the entries of all its objects are sorted (`Datum.sorted`). For data
in which no object has a key twice, and which have no floating-point numbers, being the same value
is having one sorted form (`Datum.sameValue_iff_sorted_eq`), and the sorted form has the JSON text
of the datum (`Datum.jsonChars_sorted`).
-/

namespace ConfigTables.Datum

/-- A datum without floating-point numbers in which no object has a key twice. -/
inductive Regular : Datum → Prop where
  | null : Regular .null
  | bool (value : Bool) : Regular (.bool value)
  | int (value : Int) : Regular (.int value)
  | text (value : String) : Regular (.text value)
  | list {items : List Datum} (hitems : ∀ d ∈ items, Regular d) : Regular (.list items)
  | object {entries : List (String × Datum)} (hkeys : (entries.map Prod.fst).Nodup)
      (hvalues : ∀ entry ∈ entries, Regular entry.2) : Regular (.object entries)

/-- Two data are the same value: lists agree item by item, and objects have the same keys and agree
key by key. -/
inductive SameValue : Datum → Datum → Prop where
  | refl (d : Datum) : SameValue d d
  | list {items items' : List Datum} (hlength : items'.length = items.length)
      (hitems : ∀ (i : Nat) (d d' : Datum), items[i]? = some d → items'[i]? = some d' →
        SameValue d d') :
      SameValue (.list items) (.list items')
  | object {entries entries' : List (String × Datum)}
      (hkeys : ∀ key : String, (entries'.lookup key).isSome = (entries.lookup key).isSome)
      (hvalues : ∀ (key : String) (d d' : Datum), entries.lookup key = some d →
        entries'.lookup key = some d' → SameValue d d') :
      SameValue (.object entries) (.object entries')

/-! ### Being the same value -/

/-- The order of entries with distinct keys does not matter for what is found under a key. -/
theorem lookup_eq_of_perm {entries entries' : List (String × Datum)}
    (hkeys : (entries.map Prod.fst).Nodup) (h : entries'.Perm entries) (key : String) :
    entries'.lookup key = entries.lookup key := by
  refine Option.ext fun d ↦ ?_
  rw [← mem_iff_lookup ((h.map Prod.fst).nodup_iff.2 hkeys), ← mem_iff_lookup hkeys, h.mem_iff]

theorem SameValue.symm {d e : Datum} (h : SameValue d e) : SameValue e d := by
  induction h with
  | refl d => exact .refl d
  | list hlength _ ih => exact .list hlength.symm fun i d d' hd hd' ↦ ih i d' d hd' hd
  | object hkeys _ ih =>
    exact .object (fun key ↦ (hkeys key).symm) fun key d d' hd hd' ↦ ih key d' d hd' hd

theorem SameValue.trans {d e f : Datum} (h : SameValue d e) (h' : SameValue e f) :
    SameValue d f := by
  induction h generalizing f with
  | refl d => exact h'
  | @list items items' hlength hitems ih =>
    rcases h' with _ | ⟨hlength', hitems'⟩
    · exact .list hlength hitems
    · refine .list (hlength'.trans hlength) fun i d d'' hd hd'' ↦ ?_
      obtain ⟨hi, -⟩ := List.getElem?_eq_some_iff.1 hd
      obtain ⟨d', hd'⟩ : ∃ d', items'[i]? = some d' :=
        ⟨_, List.getElem?_eq_getElem (show i < items'.length by omega)⟩
      exact ih i d d' hd hd' (hitems' i d' d'' hd' hd'')
  | @object entries entries' hkeys hvalues ih =>
    rcases h' with _ | _ | ⟨hkeys', hvalues'⟩
    · exact .object hkeys hvalues
    · refine .object (fun key ↦ (hkeys' key).trans (hkeys key)) fun key d d'' hd hd'' ↦ ?_
      obtain ⟨d', hd'⟩ : ∃ d', entries'.lookup key = some d' := by
        rw [← Option.isSome_iff_exists, hkeys, hd]
        rfl
      exact ih key d d' hd hd' (hvalues' key d' d'' hd' hd'')

/-- Objects with the same entries in another order are the same value. -/
theorem SameValue.of_perm {entries entries' : List (String × Datum)}
    (hkeys : (entries.map Prod.fst).Nodup) (h : entries'.Perm entries) :
    SameValue (.object entries) (.object entries') := by
  refine .object (fun key ↦ by rw [lookup_eq_of_perm hkeys h]) fun key d d' hd hd' ↦ ?_
  rw [lookup_eq_of_perm hkeys h, hd] at hd'
  cases hd'
  exact .refl d

/-! ### The sorted form -/

mutual

/-- The datum with the entries of all objects in the order of their keys. -/
def sorted : Datum → Datum
  | .list items => .list (sortedItems items)
  | .object entries => .object (sortByKey (sortedEntries entries))
  | .null => .null
  | .bool value => .bool value
  | .int value => .int value
  | .float value => .float value
  | .text value => .text value

/-- The sorted forms of the items of a list. -/
def sortedItems : List Datum → List Datum
  | [] => []
  | d :: ds => sorted d :: sortedItems ds

/-- The keys of an object with the sorted forms of its values. -/
def sortedEntries : List (String × Datum) → List (String × Datum)
  | [] => []
  | (key, d) :: entries => (key, sorted d) :: sortedEntries entries

end

theorem sortedItems_eq_map (ds : List Datum) : sortedItems ds = ds.map sorted := by
  induction ds with
  | nil => rfl
  | cons d ds ih => rw [sortedItems, ih, List.map_cons]

theorem sortedEntries_eq_map (entries : List (String × Datum)) :
    sortedEntries entries = entries.map fun entry ↦ (entry.1, sorted entry.2) := by
  induction entries with
  | nil => rfl
  | cons entry entries ih => rw [sortedEntries, ih, List.map_cons]

/-- Sorting goes into the items of a list, which keep their order. -/
theorem sorted_list (items : List Datum) : (list items).sorted = .list (items.map sorted) := by
  rw [sorted, sortedItems_eq_map]

/-- Sorting goes into the values of an object, and puts the entries in the order of their keys. -/
theorem sorted_object (entries : List (String × Datum)) :
    (object entries).sorted =
      .object ((sortByKey entries).map fun entry ↦ (entry.1, entry.2.sorted)) := by
  rw [sorted, sortedEntries_eq_map, sortByKey_map fun entry : String × Datum ↦ entry.2.sorted]

/-- No entry is lost or added by sorting. -/
theorem perm_sortByKey {α : Type} (entries : List (String × α)) :
    (sortByKey entries).Perm entries :=
  List.mergeSort_perm _ _

theorem nodup_sortByKey {entries : List (String × Datum)} (h : (entries.map Prod.fst).Nodup) :
    ((sortByKey entries).map Prod.fst).Nodup :=
  ((perm_sortByKey entries).map Prod.fst).nodup_iff.2 h

/-- What is found under a key is sorted with the object. -/
theorem lookup_map_sorted (entries : List (String × Datum)) (key : String) :
    (entries.map fun entry ↦ (entry.1, entry.2.sorted)).lookup key =
      (entries.lookup key).map sorted := by
  induction entries with
  | nil => rfl
  | cons entry entries ih =>
    rw [List.map_cons, List.lookup_cons, List.lookup_cons, ih]
    cases key == entry.1 <;> rfl

/-- Sorting does not change what is found under a key, if the keys are distinct. -/
theorem lookup_sortByKey {entries : List (String × Datum)} (h : (entries.map Prod.fst).Nodup)
    (key : String) : (sortByKey entries).lookup key = entries.lookup key :=
  lookup_eq_of_perm h (perm_sortByKey entries) key

/-- Entries under distinct keys have one sorted order. -/
theorem sortByKey_eq_of_lookup {entries entries' : List (String × Datum)}
    (h : (entries.map Prod.fst).Nodup) (h' : (entries'.map Prod.fst).Nodup)
    (hlookup : ∀ key, entries'.lookup key = entries.lookup key) :
    sortByKey entries' = sortByKey entries := by
  have hperm : entries'.Perm entries := by
    rw [List.perm_ext_iff_of_nodup (.of_map _ h') (.of_map _ h)]
    intro (key, d)
    rw [mem_iff_lookup h', mem_iff_lookup h, hlookup]
  refine List.Perm.eq_of_pairwise (fun a b ha hb hab hba ↦ ?_) (pairwise_sortByKey entries')
    (pairwise_sortByKey entries) (((perm_sortByKey _).trans hperm).trans (perm_sortByKey _).symm)
  -- Entries that are not before one another have the same key, and there is one value under it.
  have hkey : a.1 = b.1 := le_antisymm hab hba
  have hb' := lookup_of_mem (nodup_sortByKey h) hb
  rw [← hkey, lookup_sortByKey h, ← hlookup, ← lookup_sortByKey h', lookup_of_mem
    (nodup_sortByKey h') ha] at hb'
  exact Prod.ext hkey (Option.some.inj hb')

/-- Every datum is the same value as its sorted form. -/
theorem Regular.sameValue_sorted {d : Datum} (h : d.Regular) : SameValue d d.sorted := by
  induction h with
  | null | bool | int | text => exact .refl _
  | @list items hitems ih =>
    rw [sorted_list]
    refine .list (List.length_map _) fun i d d' hd hd' ↦ ?_
    rw [List.getElem?_map, hd] at hd'
    cases hd'
    exact ih d (List.mem_of_getElem? hd)
  | @object entries hkeys hvalues ih =>
    rw [sorted_object]
    refine .object (fun key ↦ ?_) fun key d d' hd hd' ↦ ?_
    · rw [lookup_map_sorted, lookup_sortByKey hkeys, Option.isSome_map]
    · rw [lookup_map_sorted, lookup_sortByKey hkeys, hd] at hd'
      cases hd'
      exact ih (key, d) ((mem_iff_lookup hkeys).2 hd)

/-- The sorted form of a datum has the keys of the datum, each of them once. -/
theorem Regular.regular_sorted {d : Datum} (h : d.Regular) : d.sorted.Regular := by
  induction h with
  | null => exact .null
  | bool value => exact .bool value
  | int value => exact .int value
  | text value => exact .text value
  | list _ ih =>
    rw [sorted_list]
    exact .list (List.forall_mem_map.2 ih)
  | object hkeys _ ih =>
    rw [sorted_object]
    refine .object ?_ (List.forall_mem_map.2 fun entry hentry ↦
      ih entry ((perm_sortByKey _).mem_iff.1 hentry))
    rw [List.map_map]
    exact nodup_sortByKey hkeys

/-- What is the same value has the same sorted form. -/
theorem Regular.sorted_eq_of_sameValue {d e : Datum} (hd : d.Regular) (he : e.Regular)
    (h : SameValue d e) : d.sorted = e.sorted := by
  induction h with
  | refl d => rfl
  | @list items items' hlength hitems ih =>
    rcases hd with _ | _ | _ | _ | hd | _
    rcases he with _ | _ | _ | _ | he | _
    rw [sorted_list, sorted_list]
    congr 1
    refine List.ext_getElem? fun i ↦ ?_
    rw [List.getElem?_map, List.getElem?_map]
    rcases hi : items[i]? with _ | d
    · rw [List.getElem?_eq_none_iff, ← hlength] at hi
      rw [List.getElem?_eq_none_iff.2 hi]
    · obtain ⟨hbound, -⟩ := List.getElem?_eq_some_iff.1 hi
      obtain ⟨d', hi'⟩ : ∃ d', items'[i]? = some d' :=
        ⟨_, List.getElem?_eq_getElem (show i < items'.length by omega)⟩
      rw [hi', Option.map_some, Option.map_some, ih i d d' hi hi' (hd d (List.mem_of_getElem? hi))
        (he d' (List.mem_of_getElem? hi'))]
  | @object entries entries' hkeys hvalues ih =>
    -- Under distinct keys, what is found under a key decides what an object is once it is sorted.
    rcases hd with _ | _ | _ | _ | _ | ⟨hnodup, hd⟩
    rcases he with _ | _ | _ | _ | _ | ⟨hnodup', he⟩
    have hfst (entries : List (String × Datum)) :
        (entries.map fun entry ↦ (entry.1, entry.2.sorted)).map Prod.fst =
          entries.map Prod.fst := by
      rw [List.map_map]
      rfl
    rw [sorted, sorted, sortedEntries_eq_map, sortedEntries_eq_map]
    congr 1
    refine sortByKey_eq_of_lookup (by rwa [hfst]) (by rwa [hfst]) fun key ↦ ?_
    rw [lookup_map_sorted, lookup_map_sorted]
    have hkey := hkeys key
    rcases hlookup : entries.lookup key with _ | d
    · rw [hlookup, Option.isSome_none, Option.isSome_eq_false_iff,
        Option.isNone_iff_eq_none] at hkey
      rw [hkey]
    · rw [hlookup, Option.isSome_some] at hkey
      obtain ⟨d', hlookup'⟩ := Option.isSome_iff_exists.1 hkey
      rw [hlookup', Option.map_some, Option.map_some, ih key d d' hlookup hlookup'
        (hd _ ((mem_iff_lookup hnodup).2 hlookup)) (he _ ((mem_iff_lookup hnodup').2 hlookup'))]

/-- **Same value**: data are the same value if their sorted forms are equal. -/
theorem Regular.sameValue_iff_sorted_eq {d e : Datum} (hd : d.Regular) (he : e.Regular) :
    SameValue d e ↔ d.sorted = e.sorted := by
  refine ⟨hd.sorted_eq_of_sameValue he, fun h ↦ hd.sameValue_sorted.trans ?_⟩
  rw [h]
  exact he.sameValue_sorted.symm

/-- The sorted form of a datum has the same JSON text. -/
theorem Regular.jsonChars_sorted {d : Datum} (h : d.Regular) (depth : Nat) :
    d.sorted.jsonChars depth = d.jsonChars depth := by
  induction h generalizing depth with
  | null | bool | int | text => rfl
  | list _ ih =>
    rw [sorted_list, jsonChars, jsonChars, jsonItems_eq_map, jsonItems_eq_map, List.map_map]
    exact congrArg _ (List.map_congr_left fun d hd ↦ ih d hd (depth + 1))
  | object hkeys _ ih =>
    rw [sorted]
    refine jsonChars_sortByKey ?_
    rw [sortedEntries_eq_map, jsonEntries_eq_map, jsonEntries_eq_map, List.map_map]
    exact List.map_congr_left fun entry hentry ↦ congrArg _ (ih entry hentry (depth + 1))

end ConfigTables.Datum
