import Mathlib.Data.List.AList
import Mathlib.Data.List.Nodup
import Mathlib.Tactic.Common

/-!
# Maps of maps, and their enumerations

A collection of keyed records is a finite map of finite maps.  `merge` writes some fields of one
record and keeps its others; `get` reads one field.  A reader sees the collection as a list of
records, in an order that nothing fixes, and each record's fields in an order that nothing fixes
either: `Enumerates snap m` says that the list `snap` is such a view of `m`.

`cells` flattens a view into its fields.  The two facts a consumer needs are `mem_cells_iff`,
which says what a view holds, and `cells_perm_of_mem_iff`, which says how often: a view is a
permutation of every duplicate-free list with the same fields.
-/

namespace NestedMap

variable {K L V : Type*}

/-- A finite map, with the order of its entries. -/
abbrev Dict (K V : Type*) := AList fun _ : K => V

/-- A finite map of records. -/
abbrev Nested (K L V : Type*) := Dict K (Dict L V)

/-- All fields of the records of a list, each with the key of its record. -/
def cells (snap : List (K × Dict L V)) : List (K × L × V) :=
  snap.flatMap fun d => d.2.entries.map fun e => (d.1, e.1, e.2)

lemma mem_cells {snap : List (K × Dict L V)} {k : K} {l : L} {v : V} :
    (k, l, v) ∈ cells snap ↔ ∃ d ∈ snap, d.1 = k ∧ ⟨l, v⟩ ∈ d.2.entries := by
  simp only [cells, List.mem_flatMap, List.mem_map, Prod.mk.injEq]
  constructor
  · rintro ⟨d, hd, e, he, rfl, rfl, rfl⟩
    exact ⟨d, hd, rfl, he⟩
  · rintro ⟨d, hd, rfl, he⟩
    exact ⟨d, hd, ⟨l, v⟩, he, rfl, rfl, rfl⟩

variable [DecidableEq K]

/-! ## Views of a collection -/

/-- The list `snap` is the collection `m`, its records and their fields in some order. -/
def Enumerates (snap : List (K × Dict L V)) (m : Nested K L V) : Prop :=
  (snap.map Prod.fst).Perm m.keys ∧
    ∀ d ∈ snap, d.2.entries.Perm ((m.lookup d.1).getD ∅).entries

instance [DecidableEq L] [DecidableEq V] (snap : List (K × Dict L V)) (m : Nested K L V) :
    Decidable (Enumerates snap m) :=
  inferInstanceAs (Decidable (_ ∧ _))

variable {snap : List (K × Dict L V)} {m : Nested K L V}

/-- The records of a view are those of the collection. -/
lemma Enumerates.exists_record (h : Enumerates snap m) {k : K} {record : Dict L V}
    (hk : m.lookup k = some record) : ∃ d ∈ snap, d.1 = k ∧ d.2.entries.Perm record.entries := by
  have hmem : k ∈ snap.map Prod.fst := by
    rw [h.1.mem_iff, ← AList.mem_keys, ← AList.lookup_isSome, hk]
    rfl
  obtain ⟨d, hd, rfl⟩ := List.mem_map.mp hmem
  exact ⟨d, hd, rfl, by simpa [hk] using h.2 d hd⟩

lemma Enumerates.lookup_of_mem (h : Enumerates snap m) {d : K × Dict L V} (hd : d ∈ snap) :
    ∃ record, m.lookup d.1 = some record ∧ d.2.entries.Perm record.entries := by
  have hmem : d.1 ∈ m.keys := h.1.mem_iff.mp (List.mem_map_of_mem hd)
  obtain ⟨record, hr⟩ := Option.isSome_iff_exists.mp
    (AList.lookup_isSome.mpr (AList.mem_keys.mpr hmem))
  exact ⟨record, hr, by simpa [hr] using h.2 d hd⟩

omit [DecidableEq K] in
lemma nodup_record_cells (d : K × Dict L V) :
    (d.2.entries.map fun e => (d.1, e.1, e.2)).Nodup := by
  refine (List.NodupKeys.nodup d.2.nodupKeys).map ?_
  rintro ⟨l, v⟩ ⟨l', v'⟩ hef
  simpa using hef

/-- A view holds every field once. -/
lemma nodup_cells (h : Enumerates snap m) : (cells snap).Nodup := by
  have hkeys : (snap.map Prod.fst).Nodup := h.1.nodup_iff.mpr m.keys_nodup
  refine List.nodup_flatMap.mpr ⟨fun d _ => nodup_record_cells d, ?_⟩
  refine (List.pairwise_map.mp hkeys).imp ?_
  intro d d' hne x hx hx'
  obtain ⟨e, -, rfl⟩ := List.mem_map.mp hx
  obtain ⟨e', -, he'⟩ := List.mem_map.mp hx'
  exact hne (congrArg Prod.fst he').symm

/-! ## Reading and merging fields -/

variable [DecidableEq L]

/-- One field of one record. -/
def get (m : Nested K L V) (k : K) (l : L) : Option V :=
  (m.lookup k).bind fun record => record.lookup l

/-- Write the fields `new` into the record `k` and keep its other fields. -/
def merge (k : K) (new : Dict L V) (m : Nested K L V) : Nested K L V :=
  m.insert k (new ∪ (m.lookup k).getD ∅)

lemma get_merge_self (k : K) (new : Dict L V) (m : Nested K L V) (l : L) :
    get (merge k new m) k l = (new.lookup l).or (get m k l) := by
  have hold : ((m.lookup k).getD ∅).lookup l = get m k l := by
    rw [get]
    cases m.lookup k <;> rfl
  rw [get, merge, AList.lookup_insert, Option.bind_some, ← hold]
  cases h : new.lookup l with
  | some v => rw [AList.lookup_union_left (AList.lookup_isSome.mp (by simp [h])), h]; rfl
  | none => rw [AList.lookup_union_right (AList.lookup_eq_none.mp h)]; rfl

lemma get_merge_of_ne {k k' : K} (h : k' ≠ k) (new : Dict L V) (m : Nested K L V) (l : L) :
    get (merge k new m) k' l = get m k' l := by
  rw [get, merge, AList.lookup_insert_ne h, ← get]

/-- A merge of one field changes this field only. -/
lemma get_merge_singleton (k : K) (l : L) (v : V) (m : Nested K L V) (k' : K) (l' : L) :
    get (merge k (AList.singleton l v) m) k' l' =
      if k' = k ∧ l' = l then some v else get m k' l' := by
  by_cases hk : k' = k
  · subst hk
    rw [get_merge_self]
    by_cases hl : l' = l
    · subst hl
      rw [if_pos ⟨rfl, rfl⟩, ← AList.insert_empty, AList.lookup_insert]
      rfl
    · rw [if_neg (fun h => hl h.2), ← AList.insert_empty, AList.lookup_insert_ne hl]
      rfl
  · rw [get_merge_of_ne hk, if_neg (fun h => hk h.1)]

/-- A field is read from a view as from the collection. -/
lemma Enumerates.lookup_field (h : Enumerates snap m) {d : K × Dict L V} (hd : d ∈ snap) (l : L) :
    d.2.lookup l = get m d.1 l := by
  obtain ⟨record, hr, hperm⟩ := h.lookup_of_mem hd
  rw [get, hr, Option.bind_some]
  exact AList.perm_lookup hperm

theorem mem_cells_iff (h : Enumerates snap m) {k : K} {l : L} {v : V} :
    (k, l, v) ∈ cells snap ↔ get m k l = some v := by
  rw [mem_cells]
  constructor
  · rintro ⟨d, hd, rfl, he⟩
    rw [← h.lookup_field hd]
    exact AList.mem_lookup_iff.mpr he
  · intro hv
    obtain ⟨record, hr, -⟩ := Option.bind_eq_some_iff.mp hv
    obtain ⟨d, hd, rfl, -⟩ := h.exists_record hr
    refine ⟨d, hd, rfl, AList.mem_lookup_iff.mp ?_⟩
    rw [h.lookup_field hd]
    exact hv

/-- A view is a permutation of every duplicate-free list of the collection's fields. -/
theorem cells_perm_of_mem_iff (h : Enumerates snap m) {fields : List (K × L × V)}
    (hnodup : fields.Nodup) (hmem : ∀ k l v, (k, l, v) ∈ fields ↔ get m k l = some v) :
    (cells snap).Perm fields := by
  refine (List.perm_ext_iff_of_nodup (nodup_cells h) hnodup).mpr ?_
  rintro ⟨k, l, v⟩
  rw [mem_cells_iff h, hmem]

/-! ## How many fields a collection has -/

/-- All fields of a collection, in its own order. -/
def fields (m : Nested K L V) : List (K × L × V) := cells (m.entries.map fun e => (e.1, e.2))

omit [DecidableEq L] in
/-- A collection is a view of itself. -/
lemma enumerates_entries (m : Nested K L V) :
    Enumerates (m.entries.map fun e => (e.1, e.2)) m := by
  refine ⟨?_, ?_⟩
  · rw [List.map_map]
    exact List.Perm.refl _
  · intro d hd
    obtain ⟨e, he, rfl⟩ := List.mem_map.mp hd
    have hlookup : m.lookup e.1 = some e.2 := AList.mem_lookup_iff.mpr he
    simp [hlookup]

lemma length_cells (h : Enumerates snap m) : (cells snap).length = (fields m).length := by
  refine (cells_perm_of_mem_iff h (nodup_cells (enumerates_entries m)) ?_).length_eq
  exact fun k l v => mem_cells_iff (enumerates_entries m)

/-- A collection that has all the fields of another has at least as many. -/
lemma length_fields_le {m' : Nested K L V}
    (h : ∀ k l, (get m k l).isSome → (get m' k l).isSome) :
    (fields m).length ≤ (fields m').length := by
  have hmem : ∀ (m : Nested K L V) k l,
      (k, l) ∈ (fields m).map (fun f => (f.1, f.2.1)) ↔ (get m k l).isSome := by
    intro m k l
    rw [Option.isSome_iff_exists]
    constructor
    · intro hkl
      obtain ⟨⟨k', l', v⟩, hf, heq⟩ := List.mem_map.mp hkl
      obtain ⟨rfl, rfl⟩ := Prod.mk.inj heq
      exact ⟨v, (mem_cells_iff (enumerates_entries m)).mp hf⟩
    · rintro ⟨v, hv⟩
      exact List.mem_map.mpr ⟨(k, l, v), (mem_cells_iff (enumerates_entries m)).mpr hv, rfl⟩
  have hnodup : ((fields m).map fun f => (f.1, f.2.1)).Nodup := by
    refine (nodup_cells (enumerates_entries m)).map_on ?_
    rintro ⟨k, l, v⟩ hf ⟨k', l', v'⟩ hf' heq
    obtain ⟨rfl, rfl⟩ := Prod.mk.inj heq
    have hv := (mem_cells_iff (enumerates_entries m)).mp hf
    rw [(mem_cells_iff (enumerates_entries m)).mp hf'] at hv
    obtain rfl := Option.some.inj hv
    rfl
  have hsubset : (fields m).map (fun f => (f.1, f.2.1)) ⊆
      (fields m').map fun f => (f.1, f.2.1) := by
    rintro ⟨k, l⟩ hkl
    exact (hmem m' k l).mpr (h k l ((hmem m k l).mp hkl))
  simpa using List.Nodup.length_le_of_subset hnodup hsubset

end NestedMap
