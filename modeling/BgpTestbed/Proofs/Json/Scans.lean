import BgpTestbed.Proofs.Json.Tokens

/-!
# Scans over texts between brackets

The texts behind the first one are taken one by one, each behind a comma.  A
numeral in front of such a text ends where the comma, the closing bracket or
space stands.
-/

namespace BgpTestbed.Json

open Reader

theorem endsNumeral_nil : EndsNumeral [] := by
  intro first isHead
  cases isHead

theorem endsNumeral_cons {first : Char}
    (notDigit : first.isDigit = false) (notPoint : first ≠ '.')
    (notSmall : first ≠ 'e') (notLarge : first ≠ 'E') (later : List Char) :
    EndsNumeral (first :: later) := by
  intro other isHead
  cases isHead
  exact ⟨notDigit, notPoint, notSmall, notLarge⟩

theorem endsNumeral_bracket {closing : Char}
    (isClosing : closing = ']' ∨ closing = '\x7d') (rest : List Char) :
    EndsNumeral (closing :: rest) := by
  rcases isClosing with rfl | rfl
  · exact endsNumeral_cons rfl (by decide) (by decide) (by decide) rest
  · exact endsNumeral_cons rfl (by decide) (by decide) (by decide) rest

/-- Space ends a numeral. -/
theorem EndsNumeral.append {space rest : List Char} (blank : IsBlank space)
    (ends : EndsNumeral rest) : EndsNumeral (space ++ rest) := by
  cases space with
  | nil => exact ends
  | cons first later =>
      have isSpace := blank first List.mem_cons_self
      simp only [Reader.isSpace, Bool.or_eq_true, beq_iff_eq] at isSpace
      rcases isSpace with ((rfl | rfl) | rfl) | rfl <;>
        exact endsNumeral_cons rfl (by decide) (by decide) (by decide) _

/-- The later texts end every numeral in front of them. -/
theorem Later.endsNumeral {texts : List (List Char)} {text rest : List Char}
    (later : Later texts text) (ends : EndsNumeral rest) :
    EndsNumeral (text ++ rest) := by
  cases later with
  | none isBlank => exact ends.append isBlank
  | next beforeIsBlank _ _ =>
      rw [List.append_assoc]
      apply EndsNumeral.append beforeIsBlank
      exact endsNumeral_cons rfl (by decide) (by decide) (by decide) _

/-- The colon of a member is taken, and the space in front of it. -/
theorem run_colon_member (member : Member) (rest : List Char) :
    colon.run (member.behindKey ++ rest) =
      .ok ((), member.afterColon ++ (member.value ++ rest)) := by
  rw [Member.behindKey, List.append_assoc, List.cons_append, colon, run_bind,
    run_nextToken member.beforeIsBlank rfl, List.append_assoc]
  rfl

section Scan

variable {σ α : Type} {step : σ → Char → Reader (σ ⊕ α)} {atEnd : σ → Fault}

/-- A scan whose steps pass over space starts behind the space. -/
theorem run_scan_blank (step : σ → Char → Reader (σ ⊕ α)) (atEnd : σ → Fault)
    (state : σ)
    (skips : ∀ character, isSpace character = true →
      step state character = pure (.inl state))
    {space : List Char} (blank : IsBlank space) (rest : List Char) :
    (scan step atEnd state).run (space ++ rest) =
      (scan step atEnd state).run rest := by
  induction space with
  | nil => rfl
  | cons character later ih =>
      obtain ⟨isSpace, laterBlank⟩ := List.forall_mem_cons.mp blank
      rw [List.cons_append, run_scan_cons, skips character isSpace, run_pure]
      exact ih laterBlank

/-- The scan takes texts behind commas, one state after the other. -/
inductive Takes (step : σ → Char → Reader (σ ⊕ α)) (atEnd : σ → Fault) :
    σ → List (List Char) → σ → Prop where
  | done (state : σ) : Takes step atEnd state [] state
  | next {state following last : σ} {text : List Char}
      {later : List (List Char)}
      (takes : ∀ space rest, IsBlank space → EndsNumeral rest →
        (scan step atEnd state).run (',' :: (space ++ (text ++ rest))) =
          (scan step atEnd following).run rest)
      (others : Takes step atEnd following later last) :
      Takes step atEnd state (text :: later) last

/-- A scan that takes the texts stands before what closes them. -/
theorem run_scan_later
    (skips : ∀ state character, isSpace character = true →
      step state character = pure (.inl state))
    {state last : σ} {texts : List (List Char)} {text : List Char}
    (takes : Takes step atEnd state texts last) (later : Later texts text)
    {rest : List Char} (ends : EndsNumeral rest) :
    (scan step atEnd state).run (text ++ rest) =
      (scan step atEnd last).run rest := by
  induction takes generalizing text with
  | done state =>
      obtain ⟨isBlank⟩ := later
      exact run_scan_blank step atEnd state (skips state) isBlank rest
  | @next state _ _ text _ takes _ ih =>
      obtain _ | ⟨beforeIsBlank, afterIsBlank, others⟩ := later
      rw [List.append_assoc, run_scan_blank step atEnd state (skips state)
        beforeIsBlank, List.cons_append, List.append_assoc, List.append_assoc,
        takes _ _ afterIsBlank (others.endsNumeral ends)]
      exact ih others

end Scan

end BgpTestbed.Json
