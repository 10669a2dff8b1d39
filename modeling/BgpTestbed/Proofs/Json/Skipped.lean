import BgpTestbed.Proofs.Json.Scans

/-!
# Skipped values

A well-formed value is skipped up to its end, whatever its nesting and whatever
brackets are open around it.
-/

namespace BgpTestbed.Json

open Reader

private theorem run_skipEscape_short {letter character : Char}
    (isShort : (letter, character) ∈ shortEscapes) (rest : List Char) :
    skipEscape.run (letter :: rest) = .ok ((), rest) := by
  simp only [shortEscapes, List.mem_cons, List.not_mem_nil, or_false,
    Prod.mk.injEq] at isShort
  rcases isShort with ⟨rfl, rfl⟩ | ⟨rfl, rfl⟩ | ⟨rfl, rfl⟩ | ⟨rfl, rfl⟩ |
    ⟨rfl, rfl⟩ | ⟨rfl, rfl⟩ | ⟨rfl, rfl⟩ | ⟨rfl, rfl⟩ <;> rfl

private theorem run_skipEscape_code {digits : List Char} {code : Nat}
    (isCode : HexCode digits code) (rest : List Char) :
    skipEscape.run ('u' :: (digits ++ rest)) = .ok ((), rest) := by
  simp only [skipEscape, run_bind, run_next, List.head?_cons, List.tail_cons,
    Except.bind, run_hexEscape isCode, run_pure]

private theorem run_scan_skipEscape {text rest : List Char}
    (atEnd : Unit → Fault) (escapes : skipEscape.run text = .ok ((), rest)) :
    (scan skipTextStep atEnd ()).run ('\\' :: text) =
      (scan skipTextStep atEnd ()).run rest := by
  have step : (skipTextStep () '\\').run text = .ok (.inl (), rest) := by
    simp [skipTextStep, run_bind, escapes, run_pure, Except.bind]
  rw [run_scan_cons, step]
  rfl

private theorem run_scan_skipPlain (atEnd : Unit → Fault) {character : Char}
    (isPlain : IsPlain character) (rest : List Char) :
    (scan skipTextStep atEnd ()).run (character :: rest) =
      (scan skipTextStep atEnd ()).run rest := by
  obtain ⟨notQuote, notBackslash, visible⟩ := isPlain
  have notControl : ¬ character.toNat < 0x20 := Nat.not_lt.mpr visible
  have step : (skipTextStep () character).run rest = .ok (.inl (), rest) := by
    simp [skipTextStep, notQuote, notBackslash, isControl, notControl,
      run_pure]
  rw [run_scan_cons, step]
  rfl

theorem run_skipText {body : List Char} (isBody : IsBody body)
    (rest : List Char) :
    skipText.run (body ++ '"' :: rest) = .ok ((), rest) := by
  rw [skipText]
  induction isBody with
  | done =>
      rw [List.nil_append, run_scan_cons]
      rfl
  | plain isPlain _ ih =>
      rw [List.cons_append, run_scan_skipPlain _ isPlain, ih]
  | short isShort _ ih =>
      rw [List.cons_append, List.cons_append,
        run_scan_skipEscape _ (run_skipEscape_short isShort _), ih]
  | code isCode _ ih =>
      rw [List.cons_append, List.cons_append, List.append_assoc,
        run_scan_skipEscape _ (run_skipEscape_code isCode _), ih]

/-- What follows either branch follows the choice between them. -/
private theorem run_ite_bind {α β : Type} {condition : Prop}
    [Decidable condition] (first second : Reader α) (following : α → Reader β)
    (text : List Char) :
    (if condition then first >>= following else second >>= following).run
        text =
      ((if condition then first else second).run text).bind
        fun (value, rest) => (following value).run rest := by
  split
  · exact run_bind first following text
  · exact run_bind second following text

/-- The fraction is taken if there is one. -/
private theorem run_fraction (atEnd : Fault) {text rest : List Char}
    (isFraction : IsFraction text) (stops : StopsDigits rest)
    (noPoint : rest.head? ≠ some '.') :
    ∃ marked behind fraction,
      (accept '.').run (text ++ rest) = .ok (marked, behind) ∧
      (if marked = true then some <$> fractionDigits atEnd
        else pure none : Reader _).run behind = .ok (fraction, rest) := by
  cases isFraction with
  | none =>
      refine ⟨false, rest, none, ?_, rfl⟩
      rw [List.nil_append, run_accept, if_neg noPoint]
  | @some digits areDigits =>
      obtain ⟨notEmpty, areDigits⟩ := areDigits
      refine ⟨true, digits ++ rest, some digits, ?_, ?_⟩
      · rw [run_accept, List.cons_append, List.head?_cons, if_pos rfl,
          List.tail_cons]
      · have isDigits : digits.isEmpty = false := by
          simpa using notEmpty
        simp only [ite_true, run_map, fractionDigits, run_bind, run_takeWhile,
          takeWhile_isDigit_append areDigits stops,
          dropWhile_isDigit_append areDigits stops, Except.bind, isDigits,
          Bool.false_eq_true, ite_false, run_pure]

private theorem run_exponentValue (atEnd : Fault) {sign digits rest : List Char}
    (isSign : sign ∈ [[], ['+'], ['-']]) (areDigits : IsDigits digits)
    (stops : StopsDigits rest) :
    ∃ value, (exponentValue atEnd).run (sign ++ (digits ++ rest)) =
      .ok (value, rest) := by
  obtain ⟨notEmpty, areDigits⟩ := areDigits
  obtain ⟨first, later, rfl⟩ := List.exists_cons_of_ne_nil notEmpty
  obtain ⟨firstIsDigit, laterAreDigits⟩ := List.forall_mem_cons.mp areDigits
  have notMinus : first ≠ '-' := by
    rintro rfl
    cases firstIsDigit
  have notPlus : first ≠ '+' := by
    rintro rfl
    cases firstIsDigit
  simp only [List.mem_cons, List.not_mem_nil, or_false] at isSign
  rcases isSign with rfl | rfl | rfl
  all_goals
    simp [exponentValue, run_bind, run_accept, run_next, run_pure, Except.bind,
      notMinus, notPlus, firstIsDigit, run_takeWhile,
      takeWhile_isDigit_append laterAreDigits stops,
      dropWhile_isDigit_append laterAreDigits stops]

/-- The exponent is taken if there is one. -/
private theorem run_exponent (atEnd : Fault) {text rest : List Char}
    (isExponent : IsExponent text) (ends : EndsNumeral rest) :
    ∃ small afterSmall marked behind exponent,
      (accept 'e').run (text ++ rest) = .ok (small, afterSmall) ∧
      (if small = true then pure true else accept 'E' : Reader _).run
        afterSmall = .ok (marked, behind) ∧
      (if marked = true then some <$> exponentValue atEnd
        else pure none : Reader _).run behind = .ok (exponent, rest) := by
  cases isExponent with
  | none =>
      exact ⟨false, rest, false, rest, none, ends.run_accept (.inr (.inl rfl)),
        ends.run_accept (.inr (.inr rfl)), rfl⟩
  | @some mark sign digits isMark isSign areDigits =>
      obtain ⟨value, reads⟩ :=
        run_exponentValue atEnd isSign areDigits ends.stopsDigits
      have reads' : (some <$> exponentValue atEnd).run
          (sign ++ (digits ++ rest)) = .ok (some value, rest) := by
        rw [run_map, reads]
        rfl
      simp only [List.mem_cons, List.not_mem_nil, or_false] at isMark
      rw [List.cons_append, List.append_assoc]
      rcases isMark with rfl | rfl
      · exact ⟨true, _, true, _, some value, rfl, rfl, reads'⟩
      · exact ⟨false, _, true, _, some value, rfl, rfl, reads'⟩

private theorem stops_exponent {text rest : List Char}
    (isExponent : IsExponent text) (ends : EndsNumeral rest) :
    StopsDigits (text ++ rest) ∧ (text ++ rest).head? ≠ some '.' := by
  cases isExponent with
  | none =>
      refine ⟨ends.stopsDigits, fun isPoint => ?_⟩
      exact (ends '.' isPoint).2.1 rfl
  | some isMark _ _ =>
      simp only [List.mem_cons, List.not_mem_nil, or_false] at isMark
      rcases isMark with rfl | rfl
      · exact ⟨fun _ isHead => by cases isHead; rfl, by simp⟩
      · exact ⟨fun _ isHead => by cases isHead; rfl, by simp⟩

private theorem stops_fraction {text rest : List Char}
    (isFraction : IsFraction text) (stops : StopsDigits rest) :
    StopsDigits (text ++ rest) := by
  cases isFraction with
  | none => exact stops
  | some areDigits => exact fun _ isHead => by cases isHead; rfl

/-- A numeral is taken up to its end. -/
theorem run_numeral_of_isNumeral (atEnd : Fault) {first : Char}
    {later rest : List Char} (isNumeral : IsNumeral (first :: later))
    (ends : EndsNumeral rest) :
    ∃ value, (numeral atEnd first).run (later ++ rest) = .ok (value, rest) := by
  generalize isText : first :: later = text at isNumeral
  obtain @⟨sign, whole, fraction, exponent, isSign, ⟨notEmpty, areDigits⟩,
    noLeadingZero, isFraction, isExponent⟩ := isNumeral
  obtain ⟨lead, others, rfl⟩ := List.exists_cons_of_ne_nil notEmpty
  obtain ⟨stops, noPoint⟩ := stops_exponent isExponent ends
  have alone : lead = '0' → others = [] := by
    rintro rfl
    exact (List.cons.inj (noLeadingZero rfl)).2
  have wholeReads := run_wholeDigits areDigits alone
    (stops_fraction isFraction stops)
  obtain ⟨marked, behindMark, fractionValue, takesMark, takesFraction⟩ :=
    run_fraction atEnd isFraction stops noPoint
  obtain ⟨small, afterSmall, large, behindLarge, exponentValue, takesSmall,
    takesLarge, takesExponent⟩ := run_exponent atEnd isExponent ends
  have leadIsDigit := areDigits lead List.mem_cons_self
  simp only [List.mem_cons, List.not_mem_nil, or_false] at isSign
  rcases isSign with rfl | rfl
  · obtain ⟨rfl, rfl⟩ :
        first = lead ∧ later = others ++ (fraction ++ exponent) :=
      List.cons.inj isText
    have notMinus : (first == '-') = false := by
      rw [beq_eq_false_iff_ne]
      rintro rfl
      cases leadIsDigit
    simp only [numeral, notMinus, Bool.false_eq_true, ite_false, run_ite_bind,
      run_bind, run_pure, Except.bind, List.append_assoc, wholeReads,
      takesMark, takesFraction, takesSmall, takesLarge, takesExponent]
    exact ⟨_, rfl⟩
  · obtain ⟨rfl, rfl⟩ :
        first = '-' ∧ later = lead :: (others ++ (fraction ++ exponent)) :=
      List.cons.inj isText
    simp only [numeral, beq_self_eq_true, ite_true, run_ite_bind, run_bind,
      run_next, List.head?_cons, List.tail_cons, List.cons_append,
      run_pure, Except.bind, List.append_assoc, wholeReads,
      takesMark, takesFraction, takesSmall, takesLarge, takesExponent]
    exact ⟨_, rfl⟩

/-- The scan goes on in a new state, or ends. -/
private def goOn : (Skipping ⊕ Unit) × List Char →
    Except Fault (Unit × List Char)
  | (.inr value, rest) => .ok (value, rest)
  | (.inl following, rest) =>
      (scan skipStep Skipping.atEnd following).run rest

private theorem run_scan_skipStep (skipping : Skipping) (character : Char)
    (later : List Char) :
    (scan skipStep Skipping.atEnd skipping).run (character :: later) =
      ((skipStep skipping character).run later).bind goOn := by
  rw [run_scan_cons]
  congr 1
  funext reading
  obtain ⟨following | value, rest⟩ := reading <;> rfl

private theorem skipStep_space (skipping : Skipping) (character : Char)
    (space : isSpace character = true) :
    skipStep skipping character = pure (.inl skipping) := by
  unfold skipStep
  rw [if_pos space]

private theorem run_skip_blank (skipping : Skipping) {space : List Char}
    (isBlank : IsBlank space) (rest : List Char) :
    (scan skipStep Skipping.atEnd skipping).run (space ++ rest) =
      (scan skipStep Skipping.atEnd skipping).run rest :=
  run_scan_blank _ _ _ (skipStep_space skipping) isBlank rest

/-- From its first character on the text is passed over as one value. -/
private structure Skips (text : List Char) : Prop where
  starts : ∃ first later, text = first :: later ∧ isSpace first = false ∧
    first ≠ ']' ∧ ∀ enclosing rest, EndsNumeral rest →
      ((skipStart enclosing first).run (later ++ rest)).bind goOn =
        goOn (completed enclosing, rest)

/-- A state in which a value may come next. -/
private def AwaitsValue (skipping : Skipping) (enclosing : List Bracket) :
    Prop :=
  ∀ first, isSpace first = false → first ≠ ']' →
    skipStep skipping first = skipStart enclosing first

private theorem awaitsValue_value (enclosing : List Bracket) :
    AwaitsValue (.value enclosing) enclosing := by
  intro first notSpace _
  simp only [skipStep, notSpace, Bool.false_eq_true, ite_false]

private theorem awaitsValue_opened (enclosing : List Bracket) :
    AwaitsValue (.opened .list enclosing) (.list :: enclosing) := by
  intro first notSpace notClosing
  simp only [skipStep, notSpace, Bool.false_eq_true, ite_false, notClosing]

private theorem AwaitsValue.run_scan {skipping : Skipping}
    {enclosing : List Bracket} (awaits : AwaitsValue skipping enclosing)
    {space text rest : List Char} (isBlank : IsBlank space)
    (skips : Skips text) (ends : EndsNumeral rest) :
    (scan skipStep Skipping.atEnd skipping).run (space ++ (text ++ rest)) =
      goOn (completed enclosing, rest) := by
  obtain ⟨first, later, rfl, notSpace, notClosing, starts⟩ := skips.starts
  rw [run_skip_blank skipping isBlank, List.cons_append, run_scan_skipStep,
    awaits first notSpace notClosing, starts enclosing rest ends]

private theorem takes_items (enclosing : List Bracket)
    {items : List (List Char)} (skips : ∀ item ∈ items, Skips item) :
    Takes skipStep Skipping.atEnd (.behind .list enclosing) items
      (.behind .list enclosing) := by
  induction items with
  | nil => exact .done _
  | cons item later ih =>
      obtain ⟨itemSkips, laterSkip⟩ := List.forall_mem_cons.mp skips
      refine .next ?_ (ih laterSkip)
      intro space rest isBlank ends
      rw [run_scan_skipStep]
      exact (awaitsValue_value _).run_scan isBlank itemSkips ends

private theorem skips_list {items : List (List Char)} {text : List Char}
    (enclosed : Enclosed '[' ']' items text)
    (skips : ∀ item ∈ items, Skips item) : Skips text := by
  cases enclosed with
  | none isBlank =>
      refine ⟨_, _, rfl, rfl, by decide, ?_⟩
      intro enclosing rest _
      change (scan skipStep Skipping.atEnd (.opened .list enclosing)).run _ = _
      rw [List.append_assoc, run_skip_blank _ isBlank, List.cons_append,
        run_scan_skipStep]
      rfl
  | @some space first text later isBlank others =>
      obtain ⟨firstSkips, laterSkip⟩ := List.forall_mem_cons.mp skips
      refine ⟨_, _, rfl, rfl, by decide, ?_⟩
      intro enclosing rest _
      have closes : EndsNumeral (']' :: rest) :=
        endsNumeral_bracket (.inl rfl) rest
      change (scan skipStep Skipping.atEnd (.opened .list enclosing)).run _ = _
      simp only [List.append_assoc, List.cons_append, List.nil_append]
      rw [(awaitsValue_opened enclosing).run_scan isBlank firstSkips
        (others.endsNumeral closes)]
      change (scan skipStep Skipping.atEnd (.behind .list enclosing)).run _ = _
      rw [run_scan_later skipStep_space (takes_items enclosing laterSkip) others
        closes, run_scan_skipStep]
      rfl

/-- Behind the opening quote of a key, a member is passed over. -/
private theorem run_skipKey (enclosing : List Bracket) {member : Member}
    (isBody : IsBody member.key) (skips : Skips member.value)
    {rest : List Char} (ends : EndsNumeral rest) :
    ((skipKey enclosing).run
        (member.key ++ '"' :: (member.behindKey ++ rest))).bind goOn =
      (scan skipStep Skipping.atEnd (.behind .object enclosing)).run rest := by
  simp only [skipKey, run_bind, run_skipText isBody, Except.bind,
    run_colon_member, run_pure]
  exact (awaitsValue_value _).run_scan member.afterIsBlank skips ends

private theorem takes_members (enclosing : List Bracket)
    {members : List Member}
    (areBodies : ∀ member ∈ members, IsBody member.key)
    (skips : ∀ member ∈ members, Skips member.value) :
    Takes skipStep Skipping.atEnd (.behind .object enclosing)
      (members.map Member.text) (.behind .object enclosing) := by
  induction members with
  | nil => exact .done _
  | cons member later ih =>
      obtain ⟨isBody, laterBodies⟩ := List.forall_mem_cons.mp areBodies
      obtain ⟨memberSkips, laterSkip⟩ := List.forall_mem_cons.mp skips
      refine .next ?_ (ih laterBodies laterSkip)
      intro space rest isBlank ends
      have step : (skipStep (.behind .object enclosing) ',').run
          (space ++ (member.text ++ rest)) =
          (skipKey enclosing).run
            (member.key ++ '"' :: (member.behindKey ++ rest)) := by
        have notSpace : isSpace ',' = false := rfl
        have notClosing : ',' ≠ '\x7d' := by decide
        have quote : isSpace '"' = false := rfl
        simp only [skipStep, notSpace, Bool.false_eq_true, ite_false,
          notClosing, ite_true, run_bind, Member.text, List.cons_append,
          run_nextToken isBlank quote, Except.bind, List.append_assoc]
      rw [run_scan_skipStep, step, run_skipKey enclosing isBody memberSkips ends]

private theorem skips_object {members : List Member} {text : List Char}
    (enclosed : Enclosed '\x7b' '\x7d' (members.map Member.text) text)
    (areBodies : ∀ member ∈ members, IsBody member.key)
    (skips : ∀ member ∈ members, Skips member.value) : Skips text := by
  generalize isTexts : members.map Member.text = texts at enclosed
  cases enclosed with
  | none isBlank =>
      refine ⟨_, _, rfl, rfl, by decide, ?_⟩
      intro enclosing rest _
      change (scan skipStep Skipping.atEnd (.opened .object enclosing)).run _ = _
      rw [List.append_assoc, run_skip_blank _ isBlank, List.cons_append,
        run_scan_skipStep]
      rfl
  | @some space first text later isBlank others =>
      obtain ⟨member, members, rfl, rfl, rfl⟩ := List.map_eq_cons_iff.mp isTexts
      obtain ⟨isBody, laterBodies⟩ := List.forall_mem_cons.mp areBodies
      obtain ⟨memberSkips, laterSkip⟩ := List.forall_mem_cons.mp skips
      refine ⟨_, _, rfl, rfl, by decide, ?_⟩
      intro enclosing rest _
      have closes : EndsNumeral ('\x7d' :: rest) :=
        endsNumeral_bracket (.inr rfl) rest
      change (scan skipStep Skipping.atEnd (.opened .object enclosing)).run _ = _
      simp only [Member.text, List.append_assoc, List.cons_append,
        List.nil_append]
      rw [run_skip_blank _ isBlank, run_scan_skipStep]
      change ((skipKey enclosing).run _).bind goOn = _
      rw [run_skipKey enclosing isBody memberSkips (others.endsNumeral closes),
        run_scan_later skipStep_space
          (takes_members enclosing laterBodies laterSkip) others closes,
        run_scan_skipStep]
      rfl

private theorem skips_keyword {first : Char} {later : List Char}
    (notSpace : isSpace first = false) (notClosing : first ≠ ']')
    (starts : ∀ enclosing, skipStart enclosing first =
      keyword later >>= fun _ => pure (completed enclosing)) :
    Skips (first :: later) := by
  have takes (later rest : List Char) :
      (keyword later).run (later ++ rest) = .ok ((), rest) := by
    induction later with
    | nil => rfl
    | cons expected later ih =>
        rw [List.cons_append, keyword, run_bind, run_next]
        simpa [Except.bind] using ih
  refine ⟨first, later, rfl, notSpace, notClosing, ?_⟩
  intro enclosing rest _
  rw [starts, run_bind, takes]
  rfl

private theorem skips_number {text : List Char} (isNumeral : IsNumeral text) :
    Skips text := by
  obtain ⟨first, later, rfl, isStart⟩ : ∃ first later, text = first :: later ∧
      (first = '-' ∨ first.isDigit = true) := by
    obtain @⟨sign, whole, _, _, isSign, ⟨notEmpty, areDigits⟩, _, _, _⟩ :=
      isNumeral
    obtain ⟨lead, others, rfl⟩ := List.exists_cons_of_ne_nil notEmpty
    simp only [List.mem_cons, List.not_mem_nil, or_false] at isSign
    rcases isSign with rfl | rfl
    · exact ⟨_, _, rfl, .inr (areDigits lead List.mem_cons_self)⟩
    · exact ⟨_, _, rfl, .inl rfl⟩
  have notOther : ∀ other ∈ ['n', 't', 'f', '"', '[', '\x7b', ']'],
      first ≠ other := by
    rintro other isOther rfl
    simp only [List.mem_cons, List.not_mem_nil, or_false] at isOther
    rcases isOther with rfl | rfl | rfl | rfl | rfl | rfl | rfl <;>
      exact absurd isStart (by decide)
  refine ⟨first, later, rfl, ?_, notOther ']' (by decide), ?_⟩
  · rcases isStart with rfl | isDigit
    · rfl
    · exact isSpace_of_isDigit isDigit
  · intro enclosing rest ends
    obtain ⟨value, takes⟩ :=
      run_numeral_of_isNumeral .invalidNumber isNumeral ends
    unfold skipStart
    split
    case h_7 =>
      rw [if_pos isStart, run_bind, takes]
      rfl
    all_goals exact absurd rfl (notOther _ (by decide))

private theorem skips_text {body : List Char} (isBody : IsBody body) :
    Skips ('"' :: (body ++ ['"'])) := by
  refine ⟨'"', _, rfl, rfl, by decide, ?_⟩
  intro enclosing rest _
  have isText : skipStart enclosing '"' =
      skipText >>= fun _ => pure (completed enclosing) := rfl
  rw [isText, run_bind, List.append_assoc, List.singleton_append,
    run_skipText isBody]
  rfl

private theorem skips_of_isValue {text : List Char} (isValue : IsValue text) :
    Skips text := by
  induction isValue with
  | null => exact skips_keyword rfl (by decide) fun _ => rfl
  | true => exact skips_keyword rfl (by decide) fun _ => rfl
  | false => exact skips_keyword rfl (by decide) fun _ => rfl
  | number isNumeral => exact skips_number isNumeral
  | text isBody => exact skips_text isBody
  | list enclosed _ ih => exact skips_list enclosed ih
  | object enclosed areBodies _ ih => exact skips_object enclosed areBodies ih

/-- A well-formed value is skipped up to its end. -/
theorem run_skipValue {text : List Char} (isValue : IsValue text)
    {space rest : List Char} (isBlank : IsBlank space)
    (ends : EndsNumeral rest) :
    skipValue.run (space ++ (text ++ rest)) = .ok ((), rest) :=
  (awaitsValue_value []).run_scan isBlank (skips_of_isValue isValue) ends

end BgpTestbed.Json
