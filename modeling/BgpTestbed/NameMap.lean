import BgpTestbed.Lookup

/-!
# Maps from names

A map keeps its entries in strictly ascending order of their names, compared
character by character, so every walk over a map has one order and two maps
with the same entries are equal.
-/

namespace BgpTestbed

structure NameMap (α : Type) where
  entries : List (String × α)
  isSorted : entries.Pairwise fun first second => first.1 < second.1
  deriving DecidableEq

namespace NameMap

variable {α β : Type}

/-- Puts an entry into its place and replaces an entry of the same name. -/
def insertEntry (name : String) (value : α) :
    List (String × α) → List (String × α)
  | [] => [(name, value)]
  | (other, held) :: later =>
      if name < other then (name, value) :: (other, held) :: later
      else if name = other then (name, value) :: later
      else (other, held) :: insertEntry name value later

theorem mem_insertEntry {name : String} {value : α} {entry : String × α}
    {entries : List (String × α)}
    (member : entry ∈ insertEntry name value entries) :
    entry = (name, value) ∨ entry ∈ entries := by
  induction entries with
  | nil => simpa [insertEntry] using member
  | cons head later ih =>
      obtain ⟨other, held⟩ := head
      simp only [insertEntry] at member
      split at member
      · simpa using member
      · split at member
        · simp only [List.mem_cons] at member ⊢
          exact member.imp_right .inr
        · simp only [List.mem_cons] at member ⊢
          rcases member with isHead | isLater
          · exact .inr (.inl isHead)
          · exact (ih isLater).imp_right .inr

theorem insertEntry_isSorted (name : String) (value : α)
    {entries : List (String × α)}
    (isSorted : entries.Pairwise fun first second => first.1 < second.1) :
    (insertEntry name value entries).Pairwise
      fun first second => first.1 < second.1 := by
  induction entries with
  | nil => simp [insertEntry]
  | cons head later ih =>
      obtain ⟨other, held⟩ := head
      obtain ⟨above, laterSorted⟩ := List.pairwise_cons.mp isSorted
      simp only [insertEntry]
      split
      case isTrue before =>
        refine List.pairwise_cons.mpr ⟨?_, isSorted⟩
        intro entry member
        rcases List.mem_cons.mp member with rfl | isLater
        · exact before
        · exact String.lt_trans before (above entry isLater)
      case isFalse notBefore =>
        split
        case isTrue same =>
          subst same
          exact List.pairwise_cons.mpr ⟨above, laterSorted⟩
        case isFalse different =>
          refine List.pairwise_cons.mpr ⟨?_, ih laterSorted⟩
          intro entry member
          rcases mem_insertEntry member with rfl | isLater
          · exact Decidable.byContradiction fun notAbove =>
              different (String.le_antisymm
                (String.not_lt.mp notAbove) (String.not_lt.mp notBefore))
          · exact above entry isLater

def empty : NameMap α where
  entries := []
  isSorted := List.Pairwise.nil

def insert (map : NameMap α) (name : String) (value : α) : NameMap α where
  entries := insertEntry name value map.entries
  isSorted := insertEntry_isSorted name value map.isSorted

/-- Later entries replace earlier ones of the same name. -/
def ofList (entries : List (String × α)) : NameMap α :=
  entries.foldl (fun map (name, value) => map.insert name value) empty

def erase (map : NameMap α) (name : String) : NameMap α where
  entries := map.entries.filter fun entry => entry.1 != name
  isSorted := map.isSorted.filter _

def find? (map : NameMap α) (name : String) : Option α :=
  map.entries.lookup name

def keys (map : NameMap α) : List String :=
  map.entries.map Prod.fst

def contains (map : NameMap α) (name : String) : Bool :=
  map.keys.contains name

def values (map : NameMap α) : List α :=
  map.entries.map Prod.snd

theorem keys_isSorted (map : NameMap α) :
    map.keys.Pairwise fun first second => first < second :=
  List.pairwise_map.mpr map.isSorted

theorem lookup_insertEntry (name other : String) (value : α)
    (entries : List (String × α)) :
    (insertEntry name value entries).lookup other =
      if other = name then some value else entries.lookup other := by
  induction entries with
  | nil => simp only [insertEntry, lookup_entry]
  | cons head later ih =>
      obtain ⟨key, held⟩ := head
      simp only [insertEntry]
      split
      · simp only [lookup_entry]
      · split
        case isTrue same =>
          subst same
          simp only [lookup_entry]
          split <;> rfl
        case isFalse different =>
          simp only [lookup_entry, ih]
          split
          case isTrue atHead =>
            subst atHead
            simp [Ne.symm different]
          case isFalse => rfl

theorem find?_empty (name : String) : (empty : NameMap α).find? name = none :=
  rfl

theorem find?_insert (map : NameMap α) (name other : String) (value : α) :
    (map.insert name value).find? other =
      if other = name then some value else map.find? other :=
  lookup_insertEntry name other value map.entries

theorem find?_erase (map : NameMap α) (name other : String) :
    (map.erase name).find? other =
      if other = name then none else map.find? other :=
  lookup_filter_ne name other map.entries

theorem ext_entries {first second : NameMap α}
    (same : first.entries = second.entries) : first = second := by
  cases first
  cases second
  cases same
  rfl

end NameMap

end BgpTestbed
