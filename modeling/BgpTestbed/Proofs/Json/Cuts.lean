import BgpTestbed.Proofs.Json.Reading

/-!
# Tokens cut short

A cut of a text is a front of it that something is missing from.  Readers stop
at the end of a cut: they miss what should follow, and only a number may seem
to be complete.
-/

namespace BgpTestbed.Json

open Reader

variable {α β σ : Type}

/-- A front of the text, but not all of it. -/
def Cut (cut text : List Char) : Prop :=
  ∃ rest, rest ≠ [] ∧ text = cut ++ rest

theorem not_cut_nil (cut : List Char) : ¬ Cut cut [] := by
  rintro ⟨rest, notEmpty, isText⟩
  exact notEmpty (List.append_eq_nil_iff.mp isText.symm).2

theorem cut_cons {cut later : List Char} {first : Char}
    (isCut : Cut cut (first :: later)) :
    cut = [] ∨ ∃ inner, cut = first :: inner ∧ Cut inner later := by
  obtain ⟨rest, notEmpty, isText⟩ := isCut
  cases cut with
  | nil => exact .inl rfl
  | cons character inner =>
      obtain ⟨rfl, isLater⟩ := List.cons.inj isText
      exact .inr ⟨inner, rfl, rest, notEmpty, isLater⟩

theorem cut_singleton {cut : List Char} {character : Char}
    (isCut : Cut cut [character]) : cut = [] := by
  rcases cut_cons isCut with isEmpty | ⟨inner, _, isInner⟩
  · exact isEmpty
  · exact absurd isInner (not_cut_nil inner)

/-- A cut of two texts is a cut of the first or ends in the second. -/
theorem cut_append {cut first second : List Char}
    (isCut : Cut cut (first ++ second)) :
    Cut cut first ∨ ∃ inner, cut = first ++ inner ∧ Cut inner second := by
  induction first generalizing cut with
  | nil => exact .inr ⟨cut, rfl, isCut⟩
  | cons character later ih =>
      rcases cut_cons isCut with rfl | ⟨inner, rfl, isInner⟩
      · exact .inl ⟨character :: later, List.cons_ne_nil _ _, rfl⟩
      · rcases ih isInner with ⟨rest, notEmpty, isLater⟩ | ⟨last, rfl, isLast⟩
        · exact .inl ⟨rest, notEmpty, by rw [isLater, List.cons_append]⟩
        · exact .inr ⟨last, rfl, isLast⟩

theorem Cut.subset {cut text : List Char} (isCut : Cut cut text) :
    cut ⊆ text := by
  obtain ⟨rest, _, rfl⟩ := isCut
  exact List.subset_append_left cut rest

theorem Cut.isBlank {cut space : List Char} (isCut : Cut cut space)
    (blank : IsBlank space) : IsBlank cut :=
  fun character member => blank character (isCut.subset member)

/-- A cut of a text behind space is blank or starts as the text does. -/
theorem cut_behind_space {cut space later : List Char} {first : Char}
    (blank : IsBlank space) (isCut : Cut cut (space ++ first :: later)) :
    IsBlank cut ∨
      ∃ inner, cut = space ++ first :: inner ∧ Cut inner later := by
  rcases cut_append isCut with inSpace | ⟨behind, rfl, isBehind⟩
  · exact .inl (inSpace.isBlank blank)
  · rcases cut_cons isBehind with rfl | ⟨inner, rfl, isInner⟩
    · exact .inl (by rwa [List.append_nil])
    · exact .inr ⟨inner, rfl, isInner⟩

/-- What ends a numeral also ends it where it is cut. -/
theorem EndsNumeral.cut {cut text : List Char} (ends : EndsNumeral text)
    (isCut : Cut cut text) : EndsNumeral cut := by
  obtain ⟨rest, _, rfl⟩ := isCut
  cases cut with
  | nil =>
      intro first isHead
      cases isHead
  | cons first later => exact ends

namespace Reader

/-- The reader misses something behind the text. -/
def FailsAtEnd (reader : Reader α) (text : List Char) : Prop :=
  ∃ fault, reader.run text = .error fault ∧ fault.category = .eof

/-- The reader misses something behind the text or takes all of it. -/
def StopsAtEnd (reader : Reader α) (text : List Char) : Prop :=
  reader.FailsAtEnd text ∨ ∃ value, reader.run text = .ok (value, [])

theorem failsAtEnd_fail {fault : Fault} (atEnd : fault.category = .eof)
    (text : List Char) : (fail fault : Reader α).FailsAtEnd text :=
  ⟨fault, rfl, atEnd⟩

theorem FailsAtEnd.stopsAtEnd {reader : Reader α} {text : List Char}
    (fails : reader.FailsAtEnd text) : reader.StopsAtEnd text :=
  .inl fails

theorem FailsAtEnd.of_run_eq {reader other : Reader α} {text rest : List Char}
    (fails : other.FailsAtEnd rest) (same : reader.run text = other.run rest) :
    reader.FailsAtEnd text := by
  rw [FailsAtEnd, same]
  exact fails

theorem FailsAtEnd.bind {first : Reader α} {text : List Char}
    (fails : first.FailsAtEnd text) (following : α → Reader β) :
    (first >>= following).FailsAtEnd text := by
  obtain ⟨fault, stops, atEnd⟩ := fails
  refine ⟨fault, ?_, atEnd⟩
  rw [run_bind, stops]
  rfl

/-- What is read behind a value stops where the whole reader does. -/
theorem failsAtEnd_bind {first : Reader α} {following : α → Reader β}
    {value : α} {text rest : List Char}
    (reads : first.run text = .ok (value, rest))
    (fails : (following value).FailsAtEnd rest) :
    (first >>= following).FailsAtEnd text := by
  obtain ⟨fault, stops, atEnd⟩ := fails
  refine ⟨fault, ?_, atEnd⟩
  rw [run_bind, reads]
  exact stops

theorem stopsAtEnd_bind {first : Reader α} {following : α → Reader β}
    {value : α} {text rest : List Char}
    (reads : first.run text = .ok (value, rest))
    (stops : (following value).StopsAtEnd rest) :
    (first >>= following).StopsAtEnd text := by
  rcases stops with fails | ⟨last, readsLast⟩
  · exact .inl (failsAtEnd_bind reads fails)
  · refine .inr ⟨last, ?_⟩
    rw [run_bind, reads]
    exact readsLast

theorem StopsAtEnd.bind {first : Reader α} {following : α → Reader β}
    {text : List Char} (stops : first.StopsAtEnd text)
    (stopsBehind : ∀ value, (following value).StopsAtEnd []) :
    (first >>= following).StopsAtEnd text := by
  rcases stops with fails | ⟨value, reads⟩
  · exact .inl (fails.bind following)
  · exact stopsAtEnd_bind reads (stopsBehind value)

theorem StopsAtEnd.failsAtEnd_bind {first : Reader α}
    {following : α → Reader β} {text : List Char}
    (stops : first.StopsAtEnd text)
    (fails : ∀ value, (following value).FailsAtEnd []) :
    (first >>= following).FailsAtEnd text := by
  rcases stops with failsFirst | ⟨value, reads⟩
  · exact failsFirst.bind following
  · exact Reader.failsAtEnd_bind reads (fails value)

theorem stopsAtEnd_pure (value : α) : (pure value : Reader α).StopsAtEnd [] :=
  .inr ⟨value, rfl⟩

theorem StopsAtEnd.of_run_eq {reader other : Reader α} {text rest : List Char}
    (stops : other.StopsAtEnd rest) (same : reader.run text = other.run rest) :
    reader.StopsAtEnd text := by
  rw [StopsAtEnd, FailsAtEnd, same]
  exact stops

theorem StopsAtEnd.map {reader : Reader α} {text : List Char}
    (stops : reader.StopsAtEnd text) (change : α → β) :
    (change <$> reader).StopsAtEnd text :=
  stops.bind fun value => stopsAtEnd_pure (change value)

end Reader

/-- There is no token in a cut, or the one of the whole text. -/
theorem run_nextToken_cut {cut space later : List Char} {first : Char}
    (blank : IsBlank space) (notSpace : isSpace first = false)
    (isCut : Cut cut (space ++ first :: later)) :
    nextToken.run cut = .ok (none, []) ∨
      ∃ inner, Cut inner later ∧
        nextToken.run cut = .ok (some first, inner) := by
  rcases cut_behind_space blank isCut with cutBlank | ⟨inner, rfl, isInner⟩
  · exact .inl (run_nextToken_of_isBlank cutBlank)
  · exact .inr ⟨inner, isInner, run_nextToken blank notSpace inner⟩

/-- The token is missing, or something behind it. -/
theorem nextToken_failsAtEnd {following : Option Char → Reader β}
    {cut space later : List Char} {first : Char} (blank : IsBlank space)
    (notSpace : isSpace first = false)
    (isCut : Cut cut (space ++ first :: later))
    (fails : (following none).FailsAtEnd [])
    (failsBehind : ∀ inner, Cut inner later →
      (following (some first)).FailsAtEnd inner) :
    (nextToken >>= following).FailsAtEnd cut := by
  rcases run_nextToken_cut blank notSpace isCut with
    nothing | ⟨inner, isInner, looks⟩
  · exact failsAtEnd_bind nothing fails
  · exact failsAtEnd_bind looks (failsBehind inner isInner)

theorem keyword_failsAtEnd {cut letters : List Char}
    (isCut : Cut cut letters) : (keyword letters).FailsAtEnd cut := by
  induction letters generalizing cut with
  | nil => exact absurd isCut (not_cut_nil cut)
  | cons letter later ih =>
      rcases cut_cons isCut with rfl | ⟨inner, rfl, isInner⟩
      · exact ⟨.endOfValue, rfl, rfl⟩
      · obtain ⟨fault, stops, atEnd⟩ := ih isInner
        refine ⟨fault, ?_, atEnd⟩
        rw [keyword, run_bind, run_next]
        simpa [Except.bind] using stops

/-- The colon is missing, or the value behind it is cut. -/
theorem colon_cut {cut before behind : List Char} (blank : IsBlank before)
    (isCut : Cut cut (before ++ ':' :: behind)) :
    colon.FailsAtEnd cut ∨
      ∃ inner, Cut inner behind ∧ colon.run cut = .ok ((), inner) := by
  rcases run_nextToken_cut blank rfl isCut with
    nothing | ⟨inner, isInner, reads⟩
  · exact .inl (failsAtEnd_bind nothing (failsAtEnd_fail rfl _))
  · refine .inr ⟨inner, isInner, ?_⟩
    rw [colon, run_bind, reads]
    rfl

section Scan

variable {step : σ → Char → Reader (σ ⊕ α)} {atEnd : σ → Fault}

theorem scan_nil_failsAtEnd (step : σ → Char → Reader (σ ⊕ α)) (state : σ)
    (isEnd : (atEnd state).category = .eof) :
    (scan step atEnd state).FailsAtEnd [] :=
  ⟨atEnd state, run_scan_nil step atEnd state, isEnd⟩

theorem scan_failsAtEnd_of_step {state : σ} {character : Char}
    {later : List Char} (fails : (step state character).FailsAtEnd later) :
    (scan step atEnd state).FailsAtEnd (character :: later) := by
  obtain ⟨fault, stops, isEnd⟩ := fails
  refine ⟨fault, ?_, isEnd⟩
  rw [run_scan_cons, stops]
  rfl

end Scan

/-- Fewer digits than a code needs. -/
private theorem hexEscape_failsAtEnd {cut digits : List Char} {code : Nat}
    (isCode : HexCode digits code) (isCut : Cut cut digits) :
    hexEscape.FailsAtEnd cut := by
  have oneByte : ∀ digit ∈ hexDigits, digit.1.utf8Size = 1 := by
    decide
  obtain ⟨isFirst, isSecond, isThird, _⟩ := isCode
  have bytes : (String.ofList (cut.take 4)).utf8ByteSize < 4 := by
    rcases cut_cons isCut with rfl | ⟨_, rfl, behindFirst⟩
    · decide
    rcases cut_cons behindFirst with rfl | ⟨_, rfl, behindSecond⟩
    · simp [oneByte _ isFirst]
    rcases cut_cons behindSecond with rfl | ⟨_, rfl, behindThird⟩
    · simp [oneByte _ isFirst, oneByte _ isSecond]
    · rw [cut_singleton behindThird]
      simp [oneByte _ isFirst, oneByte _ isSecond, oneByte _ isThird]
  refine failsAtEnd_bind (run_ahead cut) ?_
  rw [if_pos bytes]
  exact failsAtEnd_fail rfl cut

/-- The written form of a character is cut. -/
private theorem Escaped.scan_failsAtEnd {character : Char}
    {written cut : List Char} (escaped : Escaped character written)
    {atEnd : List Char → Fault} (isEnd : ∀ soFar, (atEnd soFar).category = .eof)
    (soFar : List Char) (isCut : Cut cut written) :
    (scan textStep atEnd soFar).FailsAtEnd cut := by
  have behindBackslash (inner : List Char) (fails : escape.FailsAtEnd inner) :
      (scan textStep atEnd soFar).FailsAtEnd ('\\' :: inner) :=
    scan_failsAtEnd_of_step (fails.bind _)
  have nothing : escape.FailsAtEnd [] := ⟨.endOfText, rfl, rfl⟩
  cases escaped with
  | plain _ =>
      rw [cut_singleton isCut]
      exact scan_nil_failsAtEnd _ _ (isEnd soFar)
  | short _ =>
      rcases cut_cons isCut with rfl | ⟨inner, rfl, isInner⟩
      · exact scan_nil_failsAtEnd _ _ (isEnd soFar)
      · rw [cut_singleton isInner]
        exact behindBackslash [] nothing
  | code isCode _ =>
      rcases cut_cons isCut with rfl | ⟨inner, rfl, isInner⟩
      · exact scan_nil_failsAtEnd _ _ (isEnd soFar)
      rcases cut_cons isInner with rfl | ⟨digits, rfl, inDigits⟩
      · exact behindBackslash [] nothing
      · apply behindBackslash
        have fails := hexEscape_failsAtEnd isCode inDigits
        exact failsAtEnd_bind (run_next _) (fails.bind _)

/-- A written text without its last quote. -/
theorem text_failsAtEnd (value : String) {cut : List Char}
    (isCut : Cut cut (value.toList.flatMap escapedChar ++ ['"'])) :
    Json.text.FailsAtEnd cut := by
  have scans (characters soFar cut : List Char)
      (isCut : Cut cut (characters.flatMap escapedChar ++ ['"'])) :
      (scan textStep (fun _ => .endOfText) soFar).FailsAtEnd cut := by
    induction characters generalizing soFar cut with
    | nil =>
        rw [cut_singleton isCut]
        exact scan_nil_failsAtEnd _ _ rfl
    | cons character later ih =>
        rw [List.flatMap_cons, List.append_assoc] at isCut
        have escaped := escaped_escapedChar character
        rcases cut_append isCut with inFirst | ⟨inner, rfl, isInner⟩
        · exact escaped.scan_failsAtEnd (fun _ => rfl) soFar inFirst
        · exact (ih (character :: soFar) inner isInner).of_run_eq
            (escaped.run_scan _ soFar inner)
  exact scans value.toList [] cut isCut

/-- The front digits of a number are those of a smaller one. -/
theorem exists_toDigits_of_prefix (number : Nat) {front : List Char}
    (isFront : front <+: Nat.toDigits 10 number) (notEmpty : front ≠ []) :
    ∃ smaller ≤ number, front = Nat.toDigits 10 smaller := by
  induction number using Nat.strongRecOn with
  | _ number ih =>
    by_cases below : number < 10
    · refine ⟨number, Nat.le_refl _, ?_⟩
      rw [Nat.toDigits_of_lt_base below] at isFront ⊢
      rcases List.prefix_cons_iff.mp isFront with rfl | ⟨_, rfl, isNil⟩
      · exact absurd rfl notEmpty
      · rw [List.prefix_nil.mp isNil]
    · have atLeast : 10 ≤ number := Nat.not_lt.mp below
      rw [Nat.toDigits_of_base_le (by decide) atLeast] at isFront
      rcases List.prefix_concat_iff.mp isFront with rfl | inFront
      · exact ⟨number, Nat.le_refl _,
          (Nat.toDigits_of_base_le (by decide) atLeast).symm⟩
      · have shorter : number / 10 < number :=
          Nat.div_lt_self (by omega) (by decide)
        obtain ⟨smaller, isSmaller, rfl⟩ := ih (number / 10) shorter inFront
        exact ⟨smaller, by omega, rfl⟩

/-- A cut number is a smaller number, or there is none. -/
theorem readWord_stopsAtEnd (value : UInt32) {space cut : List Char}
    (blank : IsBlank space)
    (isCut : Cut cut (space ++ Nat.toDigits 10 value.toNat)) :
    readWord.StopsAtEnd cut := by
  obtain ⟨first, later, digits, firstIsDigit⟩ := toDigits_eq_cons value.toNat
  rw [digits] at isCut
  rcases cut_behind_space blank isCut with cutBlank | ⟨inner, rfl, isInner⟩
  · exact .inl (failsAtEnd_bind (run_nextToken_of_isBlank cutBlank)
      (failsAtEnd_fail rfl _))
  · -- The digits that are left are read as the number they make.
    obtain ⟨rest, _, rfl⟩ := isInner
    have isFront : first :: inner <+: Nat.toDigits 10 value.toNat := by
      rw [digits]
      exact List.prefix_append (first :: inner) rest
    obtain ⟨smaller, isSmaller, isNumber⟩ :=
      exists_toDigits_of_prefix value.toNat isFront (List.cons_ne_nil _ _)
    have fits : (UInt32.ofNat smaller).toNat = smaller :=
      UInt32.toNat_ofNat_of_lt'
        (Nat.lt_of_le_of_lt isSmaller (UInt32.toNat_lt_size value))
    have ends : EndsNumeral [] := nofun
    have reads := run_readWord (UInt32.ofNat smaller) blank ends
    rw [fits, List.append_nil, ← isNumber] at reads
    exact .inr ⟨_, reads⟩

end BgpTestbed.Json
