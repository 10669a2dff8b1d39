/-!
# Looking up entries

Maps and file systems are lists of entries.  A lookup finds the first entry
under a key; entries of other keys can be added in front of it or removed
without a change to what it finds.
-/

namespace BgpTestbed

variable {κ α : Type} [BEq κ] [LawfulBEq κ]

theorem lookup_entry (key other : κ) (value : α) (later : List (κ × α))
    [Decidable (other = key)] :
    ((key, value) :: later).lookup other =
      if other = key then some value else later.lookup other := by
  by_cases same : other = key
  · subst other
    simp
  · simp [List.lookup_cons, beq_eq_false_iff_ne.mpr same, same]

theorem lookup_filter_ne (key other : κ) (entries : List (κ × α))
    [Decidable (other = key)] :
    (entries.filter fun entry => entry.1 != key).lookup other =
      if other = key then none else entries.lookup other := by
  induction entries with
  | nil => simp
  | cons head later ih =>
      obtain ⟨place, held⟩ := head
      by_cases same : place = key
      · subst same
        simp only [bne_self_eq_false, Bool.false_eq_true, not_false_eq_true,
          List.filter_cons_of_neg, ih, lookup_entry]
        split <;> rfl
      · have kept : (place != key) = true := bne_iff_ne.mpr same
        by_cases atHead : other = place
        · subst atHead
          simp [kept, same]
        · simp [kept, List.lookup_cons, beq_eq_false_iff_ne.mpr atHead, ih]

end BgpTestbed
