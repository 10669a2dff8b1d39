import BgpTestbed.Proofs.Json.Returned
import BgpTestbed.Proofs.Json.Tokens

/-!
# What readers do not look at

A reader that leaves a rest has not looked behind the first character of this
rest, so more text behind it changes nothing.  A reader that takes the whole
text may have stopped at its end only; a record ends with a bracket and is read
without a look behind it.
-/

namespace BgpTestbed.Json

variable {α β σ τ δ : Type}

namespace Reader

/-- More text behind the rest changes nothing, provided that there is a rest
or the value is a settled one. -/
def LocalFor (reader : Reader α) (settled : α → Prop) : Prop :=
  ∀ text value rest, reader.run text = .ok (value, rest) →
    settled value ∨ rest ≠ [] →
      ∀ more, reader.run (text ++ more) = .ok (value, rest ++ more)

/-- More text behind a rest changes nothing. -/
def Local (reader : Reader α) : Prop :=
  reader.LocalFor fun _ => False

theorem LocalFor.weaken {reader : Reader α} {settled fewer : α → Prop}
    (isLocal : reader.LocalFor settled)
    (implies : ∀ value, fewer value → settled value) :
    reader.LocalFor fewer := by
  intro text value rest reads ends
  exact isLocal text value rest reads (ends.imp_left (implies value))

theorem LocalFor.local {reader : Reader α} {settled : α → Prop}
    (isLocal : reader.LocalFor settled) : reader.Local :=
  isLocal.weaken fun _ => False.elim

theorem localFor_of_ensures_false {reader : Reader α}
    (never : reader.Ensures fun _ => False) (settled : α → Prop) :
    reader.LocalFor settled := by
  intro text value rest reads
  exact (never value ⟨text, rest, reads⟩).elim

theorem localFor_fail (settled : α → Prop) (fault : Fault) :
    (fail fault : Reader α).LocalFor settled :=
  localFor_of_ensures_false (ensures_fail _ fault) settled

theorem localFor_pure (settled : α → Prop) (value : α) :
    (pure value : Reader α).LocalFor settled := by
  intro text other rest reads _ more
  rw [run_pure] at reads
  cases reads
  rfl

theorem localFor_ofExcept (settled : α → Prop) (result : Except Fault α) :
    (ofExcept result).LocalFor settled := by
  cases result with
  | error fault => exact localFor_fail _ fault
  | ok value => exact localFor_pure _ value

/-- What is read first may only be unsettled if the reader behind it takes
something. -/
theorem localFor_bind {first : Reader α} {following : α → Reader β}
    {between : α → Prop} {settled : β → Prop}
    (firstLocal : first.LocalFor between)
    (followingLocal : ∀ value, (following value).LocalFor settled)
    (takes : ∀ value, between value ∨ ∀ last rest,
      (following value).run [] = .ok (last, rest) → ¬ settled last) :
    (first >>= following).LocalFor settled := by
  intro text last rest reads ends more
  rw [run_bind] at reads ⊢
  cases firstReads : first.run text with
  | error fault =>
      rw [firstReads] at reads
      cases reads
  | ok reading =>
      obtain ⟨value, middle⟩ := reading
      rw [firstReads] at reads
      have settles : between value ∨ middle ≠ [] := by
        rcases takes value with isSettled | takesMore
        · exact .inl isSettled
        · refine .inr ?_
          rintro rfl
          rcases ends with isSettled | notEmpty
          · exact takesMore last rest reads isSettled
          · exact notEmpty (List.suffix_nil.mp (run_isSuffix reads))
      rw [firstLocal text value middle firstReads settles more]
      exact followingLocal value middle last rest reads ends more

theorem Local.bind {first : Reader α} {following : α → Reader β}
    (firstLocal : first.Local)
    (followingLocal : ∀ value, (following value).Local) :
    (first >>= following).Local :=
  localFor_bind firstLocal followingLocal fun _ => .inr fun _ _ _ => id

/-- Values that are never settled need no care where the text ends. -/
theorem Local.localFor {reader : Reader α} {settled : α → Prop}
    (isLocal : reader.Local)
    (unsettled : reader.Ensures fun value => ¬ settled value) :
    reader.LocalFor settled := by
  intro text value rest reads ends
  have notSettled := unsettled value ⟨text, rest, reads⟩
  exact isLocal text value rest reads (.inr (ends.resolve_left notSettled))

/-- The reader does not succeed where nothing is left. -/
def NeedsText (reader : Reader α) : Prop :=
  ∀ value rest, reader.run [] ≠ .ok (value, rest)

theorem NeedsText.before {first : Reader α} (needsText : first.NeedsText)
    (following : α → Reader β) : (first >>= following).NeedsText := by
  intro last rest reads
  rw [run_bind] at reads
  cases firstReads : first.run [] with
  | error fault =>
      rw [firstReads] at reads
      cases reads
  | ok reading => exact needsText reading.1 reading.2 firstReads

theorem NeedsText.behind {first : Reader α} {following : α → Reader β}
    (needsText : ∀ value, (following value).NeedsText) :
    (first >>= following).NeedsText := by
  intro last rest reads
  rw [run_bind] at reads
  cases firstReads : first.run [] with
  | error fault =>
      rw [firstReads] at reads
      cases reads
  | ok reading =>
      obtain ⟨value, middle⟩ := reading
      obtain rfl := List.suffix_nil.mp (run_isSuffix firstReads)
      rw [firstReads] at reads
      exact needsText value last rest reads

theorem NeedsText.scan (step : σ → Char → Reader (σ ⊕ α)) (atEnd : σ → Fault)
    (start : σ) : (scan step atEnd start).NeedsText := by
  intro value rest reads
  rw [run_scan_nil] at reads
  cases reads

/-- Where the second reader needs text, the first one has left some. -/
theorem Local.bind_needsText {first : Reader α} {following : α → Reader β}
    {settled : β → Prop} (firstLocal : first.Local)
    (followingLocal : ∀ value, (following value).LocalFor settled)
    (needsText : ∀ value, (following value).NeedsText) :
    (first >>= following).LocalFor settled :=
  localFor_bind firstLocal followingLocal fun value =>
    .inr fun last rest reads => absurd reads (needsText value last rest)

theorem LocalFor.map {reader : Reader α} {change : α → β}
    {settled : β → Prop}
    (isLocal : reader.LocalFor fun value => settled (change value)) :
    (change <$> reader).LocalFor settled := by
  apply localFor_bind isLocal
  · intro value
    exact localFor_pure _ _
  · intro value
    by_cases isSettled : settled (change value)
    · exact .inl isSettled
    · refine .inr ?_
      intro last rest reads
      change (pure (change value) : Reader β).run [] = _ at reads
      rw [run_pure] at reads
      cases reads
      exact isSettled

/-- A character that is missing has to be a fault. -/
theorem localFor_behind {first : Reader (Option Char)}
    {following : Option Char → Reader β} {settled : β → Prop}
    (firstLocal : first.LocalFor fun character => character.isSome = true)
    (followingLocal : ∀ character, (following character).LocalFor settled)
    {atEnd : Fault} (fails : following none = fail atEnd) :
    (first >>= following).LocalFor settled := by
  apply localFor_bind firstLocal followingLocal
  intro character
  cases character with
  | some character => exact .inl rfl
  | none =>
      refine .inr ?_
      intro last rest reads
      rw [fails, run_fail] at reads
      cases reads

theorem next_local :
    next.LocalFor fun character => character.isSome = true := by
  intro text value rest reads ends more
  rw [run_next] at reads
  cases reads
  cases text with
  | nil => simp at ends
  | cons first later => rfl

theorem peek_local :
    peek.LocalFor fun character => character.isSome = true := by
  intro text value rest reads ends more
  rw [run_peek] at reads
  cases reads
  cases text with
  | nil => simp at ends
  | cons first later => rfl

theorem takeWhile_local (wanted : Char → Bool) : (takeWhile wanted).Local := by
  intro text value rest reads ends more
  rw [run_takeWhile] at reads ⊢
  cases reads
  have stops : text.dropWhile wanted ≠ [] := ends.resolve_left id
  have notAll : (text.takeWhile wanted).length ≠ text.length := by
    intro same
    have lengths := congrArg List.length
      (text.takeWhile_append_dropWhile (p := wanted))
    rw [List.length_append, same] at lengths
    exact stops (List.length_eq_zero_iff.mp (by omega))
  rw [List.takeWhile_append, if_neg notAll, List.dropWhile_append,
    if_neg (by simpa using stops)]

theorem skipSpace_local : skipSpace.Local :=
  (takeWhile_local isSpace).bind fun _ => (localFor_pure _ _)

theorem token_local :
    token.LocalFor fun character => character.isSome = true := by
  apply localFor_bind skipSpace_local (fun _ => peek_local)
  intro _
  refine .inr ?_
  intro last rest reads isSome
  rw [run_peek] at reads
  cases reads
  cases isSome

theorem nextToken_local :
    nextToken.LocalFor fun character => character.isSome = true := by
  apply localFor_bind skipSpace_local (fun _ => next_local)
  intro _
  refine .inr ?_
  intro last rest reads isSome
  rw [run_next] at reads
  cases reads
  cases isSome

theorem accept_local (wanted : Char) : (accept wanted).Local := by
  refine Local.bind peek_local.local fun first => ?_
  split
  · exact Local.bind next_local.local fun _ => localFor_pure _ _
  · exact localFor_pure _ _

/-- The steps of a scan may be unsettled as long as the scan goes on. -/
theorem localFor_scan {step : σ → Char → Reader (σ ⊕ α)}
    {atEnd : σ → Fault} {settled : α → Prop}
    (stepLocal : ∀ state character, (step state character).LocalFor
      (Sum.elim (fun _ => False) settled))
    (start : σ) : (scan step atEnd start).LocalFor settled := by
  intro text value rest reads ends more
  induction size : text.length using Nat.strongRecOn generalizing start text with
  | _ length ih =>
    cases text with
    | nil =>
        rw [run_scan_nil] at reads
        cases reads
    | cons character later =>
        rw [List.cons_append]
        rw [run_scan_cons] at reads ⊢
        cases stepped : (step start character).run later with
        | error fault =>
            rw [stepped] at reads
            cases reads
        | ok reading =>
            obtain ⟨result, behind⟩ := reading
            rw [stepped] at reads
            cases result with
            | inr last =>
                cases reads
                rw [stepLocal _ _ _ _ _ stepped ends]
                rfl
            | inl following =>
                have goesOn : behind ≠ [] := by
                  rintro rfl
                  simp only [Except.bind, run_scan_nil] at reads
                  cases reads
                have shorter : behind.length < length := by
                  have := (run_isSuffix stepped).length_le
                  simp only [List.length_cons] at size
                  omega
                rw [stepLocal _ _ _ _ _ stepped (.inr goesOn)]
                exact ih behind.length shorter following behind reads rfl

theorem Local.scan {step : σ → Char → Reader (σ ⊕ α)} {atEnd : σ → Fault}
    (stepLocal : ∀ state character, (step state character).Local)
    (start : σ) : (scan step atEnd start).Local := by
  apply localFor_scan
  intro state character
  apply (stepLocal state character).weaken
  rintro (_ | _) isSettled
  · exact isSettled
  · exact isSettled

end Reader

open Reader

theorem keyword_local (letters : List Char) : (keyword letters).Local := by
  induction letters with
  | nil => exact localFor_pure _ _
  | cons expected later ih =>
      refine Local.bind next_local.local fun character => ?_
      cases character with
      | none => exact localFor_fail _ _
      | some character =>
          dsimp only
          split
          · exact ih
          · exact localFor_fail _ _

theorem mismatch_local (settled : α → Prop) (wanted : String) (first : Char) :
    (mismatch wanted first : Reader α).LocalFor settled :=
  localFor_of_ensures_false (ensures_mismatch _ wanted first) settled

private theorem hexDigit_local :
    (next >>= fun character =>
      match character.bind hexDigit? with
      | some value => (pure value : Reader Nat)
      | none => fail .invalidEscape).Local := by
  refine Local.bind next_local.local fun character => ?_
  split
  · exact localFor_pure _ _
  · exact localFor_fail _ _

theorem hexEscape_local : hexEscape.Local := by
  have digits_local := Local.bind hexDigit_local fun first =>
    Local.bind hexDigit_local fun second =>
    Local.bind hexDigit_local fun third =>
    Local.bind hexDigit_local fun fourth =>
      localFor_pure (fun _ => False)
        (((first * 16 + second) * 16 + third) * 16 + fourth)
  intro text value rest reads ends more
  rw [hexEscape, run_bind, run_ahead] at reads ⊢
  simp only [Except.bind] at reads ⊢
  -- The four characters ahead have no fewer bytes if more text follows.
  split at reads
  · cases reads
  · rename_i enough
    rw [if_neg]
    · exact digits_local text value rest reads ends more
    · rw [List.take_append, String.ofList_append, String.utf8ByteSize_append]
      omega

theorem unicodeEscape_local : unicodeEscape.Local := by
  refine Local.bind hexEscape_local fun first => ?_
  split
  · exact localFor_fail _ _
  split
  · refine Local.bind next_local.local fun backslash => ?_
    split
    · exact localFor_fail _ _
    · refine Local.bind next_local.local fun letter => ?_
      split
      · exact localFor_fail _ _
      · refine Local.bind hexEscape_local fun second => ?_
        split
        · exact localFor_pure _ _
        · exact localFor_fail _ _
      · exact localFor_fail _ _
    · exact localFor_fail _ _
  · exact localFor_pure _ _

theorem escape_local : escape.Local := by
  refine Local.bind next_local.local fun letter => ?_
  split
  · exact localFor_fail _ _
  · exact unicodeEscape_local
  · split
    · exact localFor_pure _ _
    · exact localFor_fail _ _

theorem text_local : text.Local := by
  refine Local.scan (fun soFar character => ?_) []
  rw [textStep]
  split
  · exact localFor_pure _ _
  split
  · exact Local.bind escape_local fun _ => localFor_pure _ _
  split
  · exact localFor_fail _ _
  · exact localFor_pure _ _

theorem colon_local : colon.Local := by
  refine Local.bind nextToken_local.local fun character => ?_
  split
  · exact localFor_pure _ _
  · exact localFor_fail _ _
  · exact localFor_fail _ _

theorem wholeDigits_local (first : Char) : (wholeDigits first).Local := by
  rw [wholeDigits]
  split
  · refine Local.bind peek_local.local fun following => ?_
    split
    · exact localFor_fail _ _
    · exact localFor_pure _ _
  split
  · exact Local.bind (takeWhile_local _) fun _ => localFor_pure _ _
  · exact localFor_fail _ _

theorem fractionDigits_local (atEnd : Fault) :
    (fractionDigits atEnd).Local := by
  refine Local.bind (takeWhile_local _) fun digits => ?_
  split
  · refine Local.bind peek_local.local fun following => ?_
    split
    · exact localFor_fail _ _
    · exact localFor_fail _ _
  · exact localFor_pure _ _

private theorem exponentDigits_local (atEnd : Fault)
    (value : List Char → Int) :
    (next >>= fun character =>
      match character with
      | none => (fail atEnd : Reader Int)
      | some first =>
          if first.isDigit then
            takeWhile Char.isDigit >>= fun later => pure (value (first :: later))
          else fail .invalidNumber).Local := by
  refine Local.bind next_local.local fun character => ?_
  split
  · exact localFor_fail _ _
  split
  · exact Local.bind (takeWhile_local _) fun _ => localFor_pure _ _
  · exact localFor_fail _ _

theorem exponentValue_local (atEnd : Fault) : (exponentValue atEnd).Local := by
  refine Local.bind (accept_local '-') fun negative => ?_
  split
  · exact exponentDigits_local atEnd fun digits =>
      -(Nat.ofDigitChars 10 digits 0 : Int)
  · exact Local.bind (accept_local '+') fun _ =>
      exponentDigits_local atEnd fun digits =>
        (Nat.ofDigitChars 10 digits 0 : Int)

theorem numeral_local (atEnd : Fault) (first : Char) :
    (numeral atEnd first).Local := by
  have fraction_local : (some <$> fractionDigits atEnd).Local :=
    LocalFor.map (fractionDigits_local atEnd)
  have exponent_local : (some <$> exponentValue atEnd).Local :=
    LocalFor.map (exponentValue_local atEnd)
  -- A sign, a fraction and an exponent may each be there or not.
  rw [numeral]
  repeat' first
    | exact localFor_pure _ _
    | exact localFor_fail _ _
    | exact wholeDigits_local _
    | exact accept_local _
    | exact fraction_local
    | exact exponent_local
    | exact next_local.local
    | refine Local.bind ?_ fun _ => ?_
    | split
    | dsimp only

theorem number_local (first : Char) : (number first).Local := by
  refine Local.bind (numeral_local _ first) fun numeral => ?_
  split
  · exact localFor_pure _ _
  · exact localFor_fail _ _

theorem skipText_local : skipText.Local := by
  refine Local.scan (fun _ character => ?_) ()
  rw [skipTextStep]
  split
  · exact localFor_pure _ _
  split
  · refine Local.bind ?_ fun _ => localFor_pure _ _
    refine Local.bind next_local.local fun letter => ?_
    split
    · exact localFor_fail _ _
    · exact Local.bind hexEscape_local fun _ => localFor_pure _ _
    · split
      · exact localFor_fail _ _
      · exact localFor_pure _ _
  split
  · exact localFor_fail _ _
  · exact localFor_pure _ _

private theorem skipStart_local (enclosing : List Bracket) (first : Char) :
    (skipStart enclosing first).Local := by
  unfold skipStart
  split
  case h_7 =>
    split
    · exact Local.bind (numeral_local _ _) fun _ => localFor_pure _ _
    · exact localFor_fail _ _
  case h_4 => exact Local.bind skipText_local fun _ => localFor_pure _ _
  case h_5 => exact localFor_pure _ _
  case h_6 => exact localFor_pure _ _
  all_goals exact Local.bind (keyword_local _) fun _ => localFor_pure _ _

private theorem skipKey_local (enclosing : List Bracket) :
    (skipKey enclosing).Local :=
  Local.bind skipText_local fun _ =>
    Local.bind colon_local fun _ => localFor_pure _ _

theorem skipValue_local : skipValue.Local := by
  refine Local.scan (fun skipping character => ?_) _
  unfold skipStep
  split
  · exact localFor_pure _ _
  split
  · exact skipStart_local _ _
  · split
    · exact localFor_pure _ _
    · exact skipStart_local _ _
  · split
    · exact localFor_pure _ _
    split
    · exact skipKey_local _
    · exact localFor_fail _ _
  · split
    · exact localFor_pure _ _
    split
    · exact localFor_pure _ _
    · exact localFor_fail _ _
  · split
    · exact localFor_pure _ _
    split
    · refine Local.bind nextToken_local.local fun quote => ?_
      split
      · exact skipKey_local _
      · exact localFor_fail _ _
      · exact localFor_fail _ _
    · exact localFor_fail _ _

theorem readText_local (wanted : String) : (readText wanted).Local := by
  refine Local.bind nextToken_local.local fun first => ?_
  split
  · exact localFor_fail _ _
  · exact text_local
  · exact mismatch_local _ _ _

theorem readWord_local : readWord.Local := by
  refine Local.bind nextToken_local.local fun first => ?_
  split
  · exact localFor_fail _ _
  split
  · refine Local.bind (number_local _) fun value => ?_
    split
    · split
      · exact localFor_pure _ _
      · exact localFor_fail _ _
    · exact localFor_fail _ _
  · exact mismatch_local _ _ _

theorem readOptional_local {present : Reader α} (isLocal : present.Local) :
    (readOptional present).Local := by
  refine Local.bind token_local.local fun first => ?_
  split
  · exact Local.bind next_local.local fun _ =>
      Local.bind (keyword_local _) fun _ => localFor_pure _ _
  · exact LocalFor.map isLocal

theorem readList_local {item : Reader α} (isLocal : item.Local) :
    (readList item).Local := by
  have step_local (soFar : List α) (character : Char) :
      (listStep item soFar character).Local := by
    rw [listStep]
    split
    · exact localFor_pure _ _
    split
    · exact localFor_pure _ _
    split
    · refine Local.bind token_local.local fun first => ?_
      split
      · exact localFor_fail _ _
      · exact localFor_fail _ _
      · exact Local.bind isLocal fun _ => localFor_pure _ _
    · exact localFor_fail _ _
  refine Local.bind nextToken_local.local fun opening => ?_
  split
  · exact localFor_fail _ _
  · refine Local.bind token_local.local fun first => ?_
    split
    · exact localFor_fail _ _
    · exact Local.bind next_local.local fun _ => localFor_pure _ _
    · exact Local.bind isLocal fun _ => Local.scan step_local _
  · exact mismatch_local _ _ _

/-- The closing brace is the last character that is looked at. -/
theorem readMembers_local {member : σ → String → Reader σ}
    (isLocal : ∀ state key, (member state key).Local) (start : σ) :
    (readMembers member start).LocalFor fun _ => True := by
  have step_local (state : σ) (character : Char) :
      (objectStep member state character).LocalFor
        (Sum.elim (fun _ => False) fun _ => True) := by
    rw [objectStep]
    split
    · exact localFor_pure _ _
    split
    · exact localFor_pure _ _
    split
    · refine localFor_behind nextToken_local (fun first => ?_) rfl
      split
      · exact localFor_fail _ _
      · have readsMember := Local.bind text_local fun key =>
          Local.bind (isLocal state key) fun following =>
            localFor_pure (fun _ => False) (Sum.inl (β := σ) following)
        apply Local.localFor readsMember
        exact ensures_behind fun _ => ensures_behind fun _ => ensures_pure id
      · exact localFor_fail _ _
      · exact localFor_fail _ _
    · exact localFor_fail _ _
  have members_local (state : σ) :
      (scan (objectStep member) (fun _ => .endOfObject) state).LocalFor
        fun _ => True := localFor_scan step_local state
  have needsText (state : σ) :=
    NeedsText.scan (objectStep member) (fun _ => .endOfObject) state
  refine localFor_behind nextToken_local (fun first => ?_) rfl
  split
  · exact localFor_fail _ _
  · exact localFor_pure _ _
  · apply Local.bind_needsText text_local
    · intro key
      exact Local.bind_needsText (isLocal start key) members_local needsText
    · intro key
      exact NeedsText.behind needsText
  · exact localFor_fail _ _

namespace Fields

/-- No codec looks behind the rest that it leaves. -/
def AreLocal : {τ δ : Type} → Fields τ δ → Prop
  | _, _, .done => True
  | _, _, .field first later => first.codec.read.Local ∧ later.AreLocal

private theorem readMember_local {fields : Fields τ δ}
    (areLocal : fields.AreLocal) (draft : δ) (key : String) :
    (fields.readMember draft key).Local := by
  induction fields with
  | done =>
      exact Local.bind colon_local fun _ =>
        Local.bind skipValue_local fun _ => localFor_pure _ _
  | field first later ih =>
      obtain ⟨value, draft⟩ := draft
      obtain ⟨firstLocal, laterLocal⟩ := areLocal
      rw [readMember]
      split
      · split
        · exact localFor_fail _ _
        · exact Local.bind colon_local fun _ =>
            Local.bind firstLocal fun _ => localFor_pure _ _
      · exact Local.bind (ih laterLocal draft) fun _ => localFor_pure _ _

private theorem hasElement_local (isFirst : Bool) :
    (hasElement isFirst).Local := by
  refine Local.bind token_local.local fun first => ?_
  split
  · exact localFor_fail _ _
  · exact localFor_pure _ _
  split
  · exact localFor_pure _ _
  split
  · refine Local.bind next_local.local fun _ => ?_
    refine Local.bind token_local.local fun following => ?_
    split
    · exact localFor_fail _ _
    · exact localFor_fail _ _
    · exact localFor_pure _ _
  · exact localFor_fail _ _

private theorem readElements_needsText (fields : Fields τ δ)
    (wanted : String) (position : Nat) :
    (fields.readElements wanted position).NeedsText := by
  cases fields with
  | done => exact nofun
  | field first later => exact nofun

/-- The closing bracket is the last character that is looked at. -/
private theorem readElements_local {fields : Fields τ δ}
    (areLocal : fields.AreLocal) (wanted : String) (position : Nat) :
    (fields.readElements wanted position).LocalFor fun _ => True := by
  induction fields generalizing position with
  | done =>
      refine localFor_behind nextToken_local (fun first => ?_) rfl
      split
      · exact localFor_fail _ _
      · exact localFor_pure _ _
      · apply localFor_of_ensures_false
        apply ensures_behind
        intro following
        split
        · exact ensures_fail _ _
        · exact ensures_fail _ _
      · exact localFor_fail _ _
  | @field α _ _ first later ih =>
      obtain ⟨firstLocal, laterLocal⟩ := areLocal
      have laterElements (value : α) :
          (later.readElements wanted (position + 1) >>= fun values =>
            pure (value, values)).LocalFor fun _ => True :=
        localFor_bind (ih laterLocal (position + 1))
          (fun _ => localFor_pure _ _) fun _ => .inl trivial
      have needsText (value : α) :
          (later.readElements wanted (position + 1) >>= fun values =>
            (pure (value, values) : Reader _)).NeedsText :=
        NeedsText.before (later.readElements_needsText wanted (position + 1)) _
      apply Local.bind_needsText (hasElement_local _)
      · intro present
        split
        · exact Local.bind_needsText firstLocal laterElements needsText
        · split
          · exact localFor_fail _ _
          · exact laterElements _
      · intro present
        split
        · exact NeedsText.behind needsText
        · split
          · exact nofun
          · exact needsText _

/-- The bracket that closes a record is the last character that is looked
at. -/
theorem read_local {fields : Fields τ δ} (areLocal : fields.AreLocal)
    (name : String) : (fields.read name).LocalFor fun _ => True := by
  refine localFor_behind nextToken_local (fun first => ?_) rfl
  split
  · exact localFor_fail _ _
  · exact readElements_local areLocal _ 0
  · apply localFor_bind (readMembers_local (readMember_local areLocal) _)
    · intro draft
      exact localFor_ofExcept _ _
    · intro draft
      exact .inl trivial
  · exact mismatch_local _ _ _

end Fields

namespace Codec

variable {fields : Fields τ δ}

theorem record_local (areLocal : fields.AreLocal) (name : String)
    (build : τ → α) (values : α → τ) :
    (record name fields build values).read.LocalFor fun _ => True :=
  LocalFor.map (Fields.read_local areLocal name)

/-- A record is found behind any space. -/
theorem run_record_blank (name : String) (build : τ → α) (values : α → τ)
    {space : List Char} (isBlank : IsBlank space) (text : List Char) :
    (record name fields build values).read.run (space ++ text) =
      (record name fields build values).read.run text := by
  have skips : nextToken.run (space ++ text) = nextToken.run text := by
    rw [nextToken, run_bind, run_bind, run_skipSpace, run_skipSpace,
      List.dropWhile_append_of_pos isBlank]
  change (build <$> fields.read name).run _ = (build <$> fields.read name).run _
  simp only [run_map, Fields.read, run_bind, skips]

end Codec

end BgpTestbed.Json
