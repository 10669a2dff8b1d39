import BgpTestbed.NameMap

/-!
# What a map from names contains

Looking up a name finds exactly the entry of that name, so a map is known as
soon as its lookups are.  Putting entries in one after the other lets the last
entry of each name win.
-/

namespace BgpTestbed

/-- An entry is found if no other entry has its key. -/
theorem lookup_eq_some_of_mem {κ α : Type} [BEq κ] [LawfulBEq κ]
    {entries : List (κ × α)} {key : κ} {value : α}
    (distinct : (entries.map Prod.fst).Nodup)
    (member : (key, value) ∈ entries) :
    entries.lookup key = some value := by
  induction entries with
  | nil => simp at member
  | cons head later ih =>
      obtain ⟨other, held⟩ := head
      obtain ⟨fresh, laterDistinct⟩ := List.nodup_cons.mp distinct
      rcases List.mem_cons.mp member with isHead | isLater
      · cases isHead
        simp
      · have different : key ≠ other := by
          rintro rfl
          exact fresh (List.mem_map.mpr ⟨_, isLater, rfl⟩)
        simpa [List.lookup_cons, beq_eq_false_iff_ne.mpr different] using
          ih laterDistinct isLater

theorem mem_of_lookup_eq_some {κ α : Type} [BEq κ] [LawfulBEq κ]
    {entries : List (κ × α)} {key : κ} {value : α}
    (found : entries.lookup key = some value) :
    (key, value) ∈ entries := by
  obtain ⟨before, after, rfl, _⟩ := List.lookup_eq_some_iff.mp found
  simp

theorem lookup_eq_none_iff_not_mem {κ α : Type} [BEq κ] [LawfulBEq κ]
    {entries : List (κ × α)} {key : κ} :
    entries.lookup key = none ↔ key ∉ entries.map Prod.fst := by
  simp only [List.lookup_eq_none_iff, bne_iff_ne, List.mem_map, not_exists,
    not_and]
  exact ⟨fun apart entry member same => apart entry member same.symm,
    fun absent entry member same => absent entry member same.symm⟩

namespace NameMap

variable {α : Type}

theorem keys_nodup (map : NameMap α) : map.keys.Nodup :=
  map.keys_isSorted.imp String.ne_of_lt

theorem entries_nodup (map : NameMap α) : map.entries.Nodup :=
  map.isSorted.imp fun before same =>
    String.ne_of_lt before (congrArg Prod.fst same)

theorem mem_entries_iff (map : NameMap α) (name : String) (value : α) :
    (name, value) ∈ map.entries ↔ map.find? name = some value :=
  ⟨lookup_eq_some_of_mem map.keys_nodup, mem_of_lookup_eq_some⟩

theorem mem_keys_iff (map : NameMap α) (name : String) :
    name ∈ map.keys ↔ ∃ value, map.find? name = some value := by
  simp only [keys, List.mem_map]
  constructor
  · rintro ⟨⟨other, value⟩, member, rfl⟩
    exact ⟨value, (map.mem_entries_iff other value).mp member⟩
  · rintro ⟨value, found⟩
    exact ⟨(name, value), (map.mem_entries_iff name value).mpr found, rfl⟩

theorem find?_eq_none_iff (map : NameMap α) (name : String) :
    map.find? name = none ↔ name ∉ map.keys :=
  lookup_eq_none_iff_not_mem

theorem contains_iff (map : NameMap α) (name : String) :
    map.contains name = true ↔ name ∈ map.keys := by
  simp [contains]

theorem mem_values_iff (map : NameMap α) (value : α) :
    value ∈ map.values ↔ ∃ name, map.find? name = some value := by
  simp only [values, List.mem_map]
  constructor
  · rintro ⟨⟨name, held⟩, member, rfl⟩
    exact ⟨name, (map.mem_entries_iff name held).mp member⟩
  · rintro ⟨name, found⟩
    exact ⟨(name, value), (map.mem_entries_iff name value).mpr found, rfl⟩

/-- Maps with the same lookups are equal, because entries have one order. -/
theorem ext_find? {first second : NameMap α}
    (same : ∀ name, first.find? name = second.find? name) :
    first = second := by
  apply ext_entries
  have permuted : first.entries.Perm second.entries := by
    refine (List.perm_ext_iff_of_nodup first.entries_nodup
      second.entries_nodup).mpr ?_
    rintro ⟨name, value⟩
    rw [mem_entries_iff, mem_entries_iff, same]
  refine permuted.eq_of_pairwise ?_ first.isSorted second.isSorted
  intro one other _ _ before after
  exact absurd (String.lt_trans before after) (String.lt_irrefl one.1)

/-- Puts entries in one after the other. -/
def insertAll (map : NameMap α) (entries : List (String × α)) : NameMap α :=
  entries.foldl (fun map (name, value) => map.insert name value) map

theorem ofList_eq_insertAll (entries : List (String × α)) :
    ofList entries = empty.insertAll entries := rfl

/-- The last entry of a name wins over earlier ones and over the map. -/
theorem find?_insertAll (map : NameMap α) (entries : List (String × α))
    (name : String) :
    (map.insertAll entries).find? name =
      (entries.reverse.lookup name).or (map.find? name) := by
  induction entries generalizing map with
  | nil => simp [insertAll]
  | cons entry later ih =>
      obtain ⟨other, value⟩ := entry
      have step : map.insertAll ((other, value) :: later) =
          (map.insert other value).insertAll later := rfl
      rw [step, ih, find?_insert, List.reverse_cons, List.lookup_append,
        lookup_entry, Option.or_assoc]
      split <;> simp

theorem find?_ofList (entries : List (String × α)) (name : String) :
    (ofList entries).find? name = entries.reverse.lookup name := by
  rw [ofList_eq_insertAll, find?_insertAll, find?_empty, Option.or_none]

theorem mem_keys_insertAll (map : NameMap α)
    (entries : List (String × α)) (name : String) :
    name ∈ (map.insertAll entries).keys ↔
      name ∈ map.keys ∨ name ∈ entries.map Prod.fst := by
  rw [← Decidable.not_iff_not, not_or, ← find?_eq_none_iff,
    ← find?_eq_none_iff, find?_insertAll, Option.or_eq_none_iff,
    lookup_eq_none_iff_not_mem, List.map_reverse, List.mem_reverse, and_comm]

/-- Entries of different names are all found. -/
theorem find?_insertAll_of_mem (map : NameMap α)
    {entries : List (String × α)} {name : String} {value : α}
    (distinct : (entries.map Prod.fst).Nodup)
    (member : (name, value) ∈ entries) :
    (map.insertAll entries).find? name = some value := by
  have reversed : (entries.reverse.map Prod.fst).Nodup := by
    rw [List.map_reverse]
    exact List.pairwise_reverse.mpr (distinct.imp Ne.symm)
  rw [find?_insertAll,
    lookup_eq_some_of_mem reversed (List.mem_reverse.mpr member),
    Option.some_or]

/-- Entries of other names leave an entry as it is. -/
theorem find?_insertAll_of_not_mem (map : NameMap α)
    {entries : List (String × α)} {name : String}
    (other : name ∉ entries.map Prod.fst) :
    (map.insertAll entries).find? name = map.find? name := by
  have notPut : entries.reverse.lookup name = none := by
    rwa [lookup_eq_none_iff_not_mem, List.map_reverse, List.mem_reverse]
  rw [find?_insertAll, notPut, Option.none_or]

end NameMap

end BgpTestbed
