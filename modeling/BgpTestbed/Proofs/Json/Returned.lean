import BgpTestbed.Json.Record

/-!
# Values that readers return

A reader ensures a condition if it returns no value without it, whatever the
text.  A scan ensures what its steps keep up, and every field of a record that
is read has its fallback or a value that its codec returns.
-/

namespace BgpTestbed.Json

variable {α β σ τ δ : Type}

namespace Reader

theorem run_isSuffix {reader : Reader α} {text rest : List Char} {value : α}
    (reads : reader.run text = .ok (value, rest)) : rest <:+ text := by
  rw [run] at reads
  cases result : reader text with
  | error fault =>
      rw [result] at reads
      cases reads
  | ok reading =>
      rw [result] at reads
      cases reads
      exact reading.isSuffix

/-- Some text makes the reader return the value. -/
def Returns (reader : Reader α) (value : α) : Prop :=
  ∃ text rest, reader.run text = .ok (value, rest)

/-- The reader returns only values that satisfy the condition. -/
def Ensures (reader : Reader α) (condition : α → Prop) : Prop :=
  ∀ value, reader.Returns value → condition value

theorem ensures_returns (reader : Reader α) :
    reader.Ensures reader.Returns := by
  intro value returned
  exact returned

theorem Ensures.weaken {reader : Reader α} {condition weaker : α → Prop}
    (ensures : reader.Ensures condition)
    (implies : ∀ value, condition value → weaker value) :
    reader.Ensures weaker := by
  intro value returned
  exact implies value (ensures value returned)

theorem ensures_pure {condition : α → Prop} {value : α}
    (holds : condition value) : (pure value : Reader α).Ensures condition := by
  intro other returned
  obtain ⟨text, rest, reads⟩ := returned
  rw [run_pure] at reads
  cases reads
  exact holds

theorem ensures_fail (condition : α → Prop) (fault : Fault) :
    (fail fault : Reader α).Ensures condition := by
  intro value returned
  obtain ⟨text, rest, reads⟩ := returned
  rw [run_fail] at reads
  cases reads

theorem ensures_bind {first : Reader α} {following : α → Reader β}
    {between : α → Prop} {condition : β → Prop}
    (ensuresFirst : first.Ensures between)
    (ensuresFollowing : ∀ value, between value →
      (following value).Ensures condition) :
    (first >>= following).Ensures condition := by
  intro value returned
  obtain ⟨text, rest, reads⟩ := returned
  rw [run_bind] at reads
  cases firstReads : first.run text with
  | error fault =>
      rw [firstReads] at reads
      cases reads
  | ok reading =>
      rw [firstReads] at reads
      have held := ensuresFirst reading.1 ⟨text, reading.2, firstReads⟩
      exact ensuresFollowing reading.1 held value ⟨reading.2, rest, reads⟩

/-- Nothing has to be known about what is read first. -/
theorem ensures_behind {first : Reader α} {following : α → Reader β}
    {condition : β → Prop}
    (ensuresFollowing : ∀ value, (following value).Ensures condition) :
    (first >>= following).Ensures condition :=
  ensures_bind first.ensures_returns
    fun value _ => ensuresFollowing value

theorem ensures_map {reader : Reader α} {change : α → β}
    {condition : β → Prop}
    (ensures : reader.Ensures fun value => condition (change value)) :
    (change <$> reader).Ensures condition :=
  ensures_bind ensures fun _ holds => ensures_pure holds

/-- A step of a scan that begins in a good state ends in one, or ends the
scan with a good value. -/
theorem ensures_scan {step : σ → Char → Reader (σ ⊕ α)} {atEnd : σ → Fault}
    {invariant : σ → Prop} {condition : α → Prop}
    (preserved : ∀ state character, invariant state →
      (step state character).Ensures (Sum.elim invariant condition))
    {start : σ} (holds : invariant start) :
    (scan step atEnd start).Ensures condition := by
  intro value returned
  obtain ⟨text, rest, reads⟩ := returned
  induction size : text.length using Nat.strongRecOn generalizing start text with
  | _ length ih =>
    cases text with
    | nil =>
        rw [run_scan_nil] at reads
        cases reads
    | cons character later =>
        rw [run_scan_cons] at reads
        cases stepped : (step start character).run later with
        | error fault =>
            rw [stepped] at reads
            cases reads
        | ok reading =>
            obtain ⟨result, behind⟩ := reading
            have good := preserved start character holds result
              ⟨later, behind, stepped⟩
            rw [stepped] at reads
            cases result with
            | inr last =>
                cases reads
                exact good
            | inl following =>
                have shorter : behind.length < length := by
                  have := (run_isSuffix stepped).length_le
                  simp only [List.length_cons] at size
                  omega
                exact ih behind.length shorter good behind reads rfl

end Reader

open Reader

/-- In a whole text that is decoded, nothing but space follows the value. -/
theorem Codec.exists_run_of_decode {codec : Codec α} {text : String} {value : α}
    (decodes : codec.decode text = .ok value) :
    ∃ rest behind, codec.read.run text.toList = .ok (value, rest) ∧
      nextToken.run rest = .ok (none, behind) := by
  rw [decode, run_bind] at decodes
  cases reads : codec.read.run text.toList with
  | error fault =>
      rw [reads] at decodes
      cases decodes
  | ok reading =>
      obtain ⟨read, rest⟩ := reading
      rw [reads] at decodes
      simp only [Except.bind, run_bind] at decodes
      cases following : nextToken.run rest with
      | error fault =>
          rw [following] at decodes
          cases decodes
      | ok token =>
          obtain ⟨first, behind⟩ := token
          rw [following] at decodes
          cases first with
          | none =>
              cases decodes
              exact ⟨rest, behind, rfl, following⟩
          | some character => cases decodes

/-- What a whole text decodes to is a value that the codec returns. -/
theorem Codec.returns_of_decode {codec : Codec α} {text : String} {value : α}
    (decodes : codec.decode text = .ok value) : codec.read.Returns value := by
  obtain ⟨rest, _, reads, _⟩ := exists_run_of_decode decodes
  exact ⟨text.toList, rest, reads⟩

/-- A value of another type than wanted is never returned. -/
theorem ensures_mismatch (condition : α → Prop) (wanted : String)
    (first : Char) : (mismatch wanted first : Reader α).Ensures condition := by
  unfold mismatch
  split
  case h_4 => exact ensures_behind fun _ => ensures_fail _ _
  case h_7 =>
    split
    · apply ensures_behind
      intro number
      cases number with
      | integer value => exact ensures_fail _ _
      | float value => exact ensures_fail _ _
    · exact ensures_fail _ _
  all_goals
    first
      | exact ensures_fail _ _
      | exact ensures_behind fun _ => ensures_fail _ _

private theorem ensures_listStep {item : Reader α} {condition : α → Prop}
    (ensures : item.Ensures condition) (soFar : List α) (character : Char)
    (holds : ∀ value ∈ soFar, condition value) :
    (listStep item soFar character).Ensures
      (Sum.elim (fun soFar => ∀ value ∈ soFar, condition value)
        fun items => ∀ value ∈ items, condition value) := by
  unfold listStep
  split
  · exact ensures_pure holds
  split
  · apply ensures_pure
    intro value member
    exact holds value (List.mem_reverse.mp member)
  split
  · apply ensures_behind
    intro following
    split
    · exact ensures_fail _ _
    · exact ensures_fail _ _
    · refine ensures_bind ensures ?_
      intro value good
      apply ensures_pure
      intro other member
      rcases List.mem_cons.mp member with rfl | isEarlier
      · exact good
      · exact holds other isEarlier
  · exact ensures_fail _ _

theorem ensures_readList {item : Reader α} {condition : α → Prop}
    (ensures : item.Ensures condition) :
    (readList item).Ensures fun items => ∀ value ∈ items, condition value := by
  apply ensures_behind
  intro opening
  split
  · exact ensures_fail _ _
  · apply ensures_behind
    intro first
    split
    · exact ensures_fail _ _
    · apply ensures_behind
      intro _
      apply ensures_pure
      intro value member
      cases member
    · refine ensures_bind ensures ?_
      intro value good
      apply ensures_scan (ensures_listStep ensures)
      intro other member
      rw [List.mem_singleton.mp member]
      exact good
  · exact ensures_mismatch _ _ _

/-- What every member keeps up holds behind an object. -/
theorem ensures_readMembers {member : σ → String → Reader σ}
    {invariant : σ → Prop}
    (preserved : ∀ state key, invariant state →
      (member state key).Ensures invariant)
    {start : σ} (holds : invariant start) :
    (readMembers member start).Ensures invariant := by
  have step : ∀ state character, invariant state →
      (objectStep member state character).Ensures
        (Sum.elim invariant invariant) := by
    intro state character holds
    unfold objectStep
    split
    · exact ensures_pure holds
    split
    · exact ensures_pure holds
    split
    · apply ensures_behind
      intro following
      split
      · exact ensures_fail _ _
      · apply ensures_behind
        intro key
        refine ensures_bind (preserved state key holds) ?_
        intro next good
        exact ensures_pure good
      · exact ensures_fail _ _
      · exact ensures_fail _ _
    · exact ensures_fail _ _
  apply ensures_behind
  intro first
  split
  · exact ensures_fail _ _
  · exact ensures_pure holds
  · apply ensures_behind
    intro key
    refine ensures_bind (preserved start key holds) ?_
    intro following good
    exact ensures_scan step good
  · exact ensures_fail _ _

namespace Fields

/-- Every field has a value that its codec returns, or its fallback. -/
def Returned : {τ δ : Type} → Fields τ δ → τ → Prop
  | _, _, .done, _ => True
  | _, _, .field first later, (value, values) =>
      (first.codec.read.Returns value ∨ first.fallback = some value) ∧
        later.Returned values

/-- Every value of the draft was returned by the codec of its field. -/
def Drafted : {τ δ : Type} → Fields τ δ → δ → Prop
  | _, _, .done, _ => True
  | _, _, .field first later, (value, draft) =>
      (∀ held, value = some held → first.codec.read.Returns held) ∧
        later.Drafted draft

private theorem drafted_draft (fields : Fields τ δ) :
    fields.Drafted fields.draft := by
  induction fields with
  | done => trivial
  | field first later ih =>
      refine ⟨?_, ih⟩
      intro held isHeld
      cases isHeld

private theorem ensures_readMember (fields : Fields τ δ) {draft : δ}
    (key : String) (drafted : fields.Drafted draft) :
    (fields.readMember draft key).Ensures fields.Drafted := by
  induction fields with
  | done =>
      apply ensures_behind
      intro _
      apply ensures_behind
      intro _
      exact ensures_pure trivial
  | field first later ih =>
      obtain ⟨value, draft⟩ := draft
      obtain ⟨draftedFirst, draftedLater⟩ := drafted
      rw [readMember]
      split
      · split
        · exact ensures_fail _ _
        · apply ensures_behind
          intro _
          refine ensures_bind (ensures_returns _) ?_
          intro read returned
          apply ensures_pure
          refine ⟨?_, draftedLater⟩
          intro held isHeld
          cases isHeld
          exact returned
      · refine ensures_bind (ih draftedLater) ?_
        intro behind draftedBehind
        exact ensures_pure ⟨draftedFirst, draftedBehind⟩

private theorem returned_of_complete (fields : Fields τ δ) {draft : δ}
    {values : τ} (drafted : fields.Drafted draft)
    (completes : fields.complete draft = .ok values) :
    fields.Returned values := by
  induction fields with
  | done => trivial
  | field first later ih =>
      obtain ⟨value, draft⟩ := draft
      obtain ⟨draftedFirst, draftedLater⟩ := drafted
      rw [complete] at completes
      split at completes
      case h_1 => cases completes
      case h_2 held isHeld =>
        split at completes
        case h_1 => cases completes
        case h_2 behind completesLater =>
          cases completes
          refine ⟨?_, ih draftedLater completesLater⟩
          rcases Option.or_eq_some_iff.mp isHeld with isRead | ⟨_, isFallback⟩
          · exact .inl (draftedFirst held isRead)
          · exact .inr isFallback

private theorem ensures_readElements (wanted : String) (fields : Fields τ δ)
    (position : Nat) :
    (fields.readElements wanted position).Ensures fields.Returned := by
  induction fields generalizing position with
  | done =>
      rw [readElements]
      exact (ensures_returns _).weaken fun _ _ => trivial
  | field first later ih =>
      rw [readElements]
      apply ensures_behind
      intro present
      split
      · refine ensures_bind (ensures_returns _) ?_
        intro value returned
        refine ensures_bind (ih (position + 1)) ?_
        intro values returnedLater
        exact ensures_pure ⟨.inl returned, returnedLater⟩
      · split
        · exact ensures_fail _ _
        case h_2 value isFallback =>
          refine ensures_bind (ih (position + 1)) ?_
          intro values returnedLater
          exact ensures_pure ⟨.inr isFallback, returnedLater⟩

/-- A record is read from a list or an object; either way its fields have
values of their codecs or their fallbacks. -/
theorem ensures_read (fields : Fields τ δ) (name : String) :
    (fields.read name).Ensures fields.Returned := by
  apply ensures_behind
  intro opening
  split
  · exact ensures_fail _ _
  · exact ensures_readElements _ fields 0
  · refine ensures_bind
      (ensures_readMembers (fun draft key => fields.ensures_readMember key)
        fields.drafted_draft) ?_
    intro draft drafted values returned
    obtain ⟨text, rest, completes⟩ := returned
    rw [run_ofExcept] at completes
    cases result : fields.complete draft with
    | error fault =>
        rw [result] at completes
        cases completes
    | ok completed =>
        rw [result] at completes
        cases completes
        exact fields.returned_of_complete drafted result
  · exact ensures_mismatch _ _ _

end Fields

end BgpTestbed.Json
