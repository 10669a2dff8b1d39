/-!
# First occurrences

Dropping repeated items from a list keeps each item where it first occurs.
The items that are left are told apart from every other list of the same
items by the places of their first occurrences.
-/

namespace BgpTestbed

variable {α β : Type} [BEq α] [BEq β]

/-- The items of a source without repetition, in the order in which they
first occur in it. -/
structure FirstOccurrences (source items : List α) : Prop where
  sameMembers : ∀ item, item ∈ items ↔ item ∈ source
  inOrder : items.Pairwise fun first second =>
    source.idxOf first < source.idxOf second

theorem FirstOccurrences.nodup {source items : List α}
    (occurrences : FirstOccurrences source items) : items.Nodup := by
  refine occurrences.inOrder.imp ?_
  rintro first _ before rfl
  exact Nat.lt_irrefl _ before

/-- Erasing the repetitions of a head shortens what is behind it. -/
private theorem length_filter_lt (head : α) (later : List α) :
    (later.filter fun item => !item == head).length <
      (head :: later).length :=
  Nat.lt_succ_of_le (List.length_filter_le _ _)

variable [LawfulBEq α] [LawfulBEq β]

/-- Items that a filter keeps do not change their order. -/
private theorem idxOf_lt_of_filter (kept : α → Bool) {first second : α}
    (keptFirst : kept first = true) (keptSecond : kept second = true) :
    ∀ source : List α,
      (source.filter kept).idxOf first < (source.filter kept).idxOf second →
        source.idxOf first < source.idxOf second := by
  intro source
  induction source with
  | nil => simp
  | cons head later ih =>
      intro before
      by_cases keptHead : kept head = true
      · rw [List.filter_cons_of_pos keptHead] at before
        simp only [List.idxOf_cons, cond_eq_ite] at before ⊢
        grind
      · have notFirst : (head == first) = false := by
          rw [beq_eq_false_iff_ne]
          rintro rfl
          exact keptHead keptFirst
        have notSecond : (head == second) = false := by
          rw [beq_eq_false_iff_ne]
          rintro rfl
          exact keptHead keptSecond
        rw [List.filter_cons_of_neg keptHead] at before
        simpa [List.idxOf_cons, notFirst, notSecond] using ih before

private theorem eraseDups_inOrder (source : List α) :
    source.eraseDups.Pairwise fun first second =>
      source.idxOf first < source.idxOf second := by
  cases source with
  | nil => simp
  | cons head later =>
      -- What is left behind the head differs from it, so it stands there
      -- in the source too.
      have isLater : ∀ item,
          item ∈ (later.filter fun item => !item == head).eraseDups →
            (!item == head) = true ∧ (head == item) = false := by
        intro item member
        have kept := (List.mem_filter.mp (List.mem_eraseDups.mp member)).2
        refine ⟨kept, ?_⟩
        rw [beq_eq_false_iff_ne]
        rintro rfl
        simp at kept
      rw [List.eraseDups_cons, List.pairwise_cons]
      constructor
      · intro item member
        simp [List.idxOf_cons, (isLater item member).2]
      · refine (eraseDups_inOrder
          (later.filter fun item => !item == head)).imp_of_mem ?_
        intro first second firstMember secondMember before
        obtain ⟨keptFirst, notFirst⟩ := isLater first firstMember
        obtain ⟨keptSecond, notSecond⟩ := isLater second secondMember
        have laterBefore :=
          idxOf_lt_of_filter (fun item => !item == head) keptFirst
            keptSecond later before
        simpa [List.idxOf_cons, notFirst, notSecond] using laterBefore
termination_by source.length
decreasing_by exact length_filter_lt head later

theorem eraseDups_firstOccurrences (source : List α) :
    FirstOccurrences source source.eraseDups where
  sameMembers _ := List.mem_eraseDups
  inOrder := eraseDups_inOrder source

theorem eraseDups_map {function : α → β}
    (injective : ∀ first second, function first = function second →
      first = second) (source : List α) :
    (source.map function).eraseDups = source.eraseDups.map function := by
  cases source with
  | nil => simp
  | cons head later =>
      have sameTest : ∀ item,
          (!function item == function head) = !item == head := by
        intro item
        congr 1
        rw [Bool.eq_iff_iff, beq_iff_eq, beq_iff_eq]
        exact ⟨injective item head, congrArg function⟩
      rw [List.map_cons, List.eraseDups_cons, List.filter_map,
        List.eraseDups_cons, List.map_cons,
        ← eraseDups_map injective (later.filter fun item => !item == head)]
      simp only [Function.comp_def, sameTest]
termination_by source.length
decreasing_by exact length_filter_lt head later

end BgpTestbed
