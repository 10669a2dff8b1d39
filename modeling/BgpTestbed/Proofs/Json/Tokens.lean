import BgpTestbed.Json.Codec
import BgpTestbed.Proofs.Digits
import BgpTestbed.Proofs.Json.Spelling

/-!
# Tokens read back

A reader that takes a token skips the space in front of it and leaves what
follows.  Texts and numbers are read back from their written forms; a number
ends only where no character follows that would go on with it.
-/

namespace BgpTestbed.Json

open Reader

theorem isBlank_nil : IsBlank [] := by
  intro character member
  simp at member

/-- No character follows that a numeral could take. -/
def EndsNumeral (rest : List Char) : Prop :=
  ∀ first ∈ rest.head?,
    first.isDigit = false ∧ first ≠ '.' ∧ first ≠ 'e' ∧ first ≠ 'E'

theorem dropWhile_isSpace {space : List Char} (blank : IsBlank space)
    {first : Char} (notSpace : isSpace first = false) (later : List Char) :
    (space ++ first :: later).dropWhile isSpace = first :: later := by
  rw [List.dropWhile_append_of_pos blank, List.dropWhile_cons, notSpace]
  rfl

theorem dropWhile_isBlank {space : List Char} (blank : IsBlank space) :
    space.dropWhile isSpace = [] := by
  rw [← List.append_nil space, List.dropWhile_append_of_pos blank]
  rfl

theorem run_nextToken_of_isBlank {space : List Char} (blank : IsBlank space) :
    nextToken.run space = .ok (none, []) := by
  rw [nextToken, run_bind, run_skipSpace, dropWhile_isBlank blank]
  rfl

theorem run_token_of_isBlank {space : List Char} (blank : IsBlank space) :
    token.run space = .ok (none, []) := by
  rw [run_token, dropWhile_isBlank blank]
  rfl

theorem run_nextToken {space : List Char} (blank : IsBlank space)
    {first : Char} (notSpace : isSpace first = false) (later : List Char) :
    nextToken.run (space ++ first :: later) = .ok (some first, later) := by
  simp only [nextToken, run_bind, run_skipSpace, Except.bind, run_next,
    dropWhile_isSpace blank notSpace, List.head?_cons, List.tail_cons]

theorem run_token_blank {space : List Char} (blank : IsBlank space)
    {first : Char} (notSpace : isSpace first = false) (later : List Char) :
    token.run (space ++ first :: later) =
      .ok (some first, first :: later) := by
  rw [run_token, dropWhile_isSpace blank notSpace, List.head?_cons]

theorem run_map {α β : Type} (change : α → β) (reader : Reader α)
    (text : List Char) :
    (change <$> reader).run text =
      (reader.run text).bind fun (value, rest) => .ok (change value, rest) :=
  run_bind reader (fun value => pure (change value)) text

/-- Every character takes at least one byte. -/
private theorem length_le_utf8ByteSize (characters : List Char) :
    characters.length ≤ (String.ofList characters).utf8ByteSize := by
  induction characters with
  | nil => exact Nat.zero_le _
  | cons character later ih =>
      have positive := Char.utf8Size_pos character
      rw [String.ofList_cons, String.utf8ByteSize_append,
        String.utf8ByteSize_singleton, List.length_cons]
      omega

private theorem hexDigit?_of_mem :
    ∀ digit ∈ hexDigits, hexDigit? digit.1 = some digit.2 := by
  decide

theorem run_hexEscape {digits : List Char} {code : Nat}
    (isCode : HexCode digits code) (rest : List Char) :
    hexEscape.run (digits ++ rest) = .ok (code, rest) := by
  obtain @⟨first, second, third, fourth, isFirst, isSecond, isThird,
    isFourth⟩ := isCode
  have bytes : 4 ≤ _ :=
    length_le_utf8ByteSize [first.1, second.1, third.1, fourth.1]
  have enough := Nat.not_lt.mpr bytes
  simp only [hexEscape, run_bind, run_ahead, Except.bind, List.cons_append,
    List.nil_append, List.take_succ_cons, List.take_zero, enough, ite_false,
    run_next, List.head?_cons, List.tail_cons, Option.bind_some,
    hexDigit?_of_mem _ isFirst, hexDigit?_of_mem _ isSecond,
    hexDigit?_of_mem _ isThird, hexDigit?_of_mem _ isFourth, run_pure]

private theorem run_escape_short {letter character : Char}
    (isShort : (letter, character) ∈ shortEscapes) (rest : List Char) :
    escape.run (letter :: rest) = .ok (character, rest) := by
  simp only [shortEscapes, List.mem_cons, List.not_mem_nil, or_false,
    Prod.mk.injEq] at isShort
  rcases isShort with ⟨rfl, rfl⟩ | ⟨rfl, rfl⟩ | ⟨rfl, rfl⟩ | ⟨rfl, rfl⟩ |
    ⟨rfl, rfl⟩ | ⟨rfl, rfl⟩ | ⟨rfl, rfl⟩ | ⟨rfl, rfl⟩ <;> rfl

private theorem run_escape_code {digits : List Char} {code : Nat}
    (isCode : HexCode digits code)
    (notSurrogate : code < 0xD800 ∨ 0xDFFF < code) (rest : List Char) :
    escape.run ('u' :: (digits ++ rest)) = .ok (Char.ofNat code, rest) := by
  have notLow : ¬ (0xDC00 ≤ code ∧ code ≤ 0xDFFF) := by omega
  have notHigh : ¬ (0xD800 ≤ code ∧ code ≤ 0xDBFF) := by omega
  simp only [escape, unicodeEscape, run_bind, run_next, List.head?_cons,
    List.tail_cons, Except.bind, run_hexEscape isCode, notLow, notHigh,
    ite_false, run_pure]

private theorem run_escape_pair {highDigits lowDigits : List Char}
    {high low : Nat} (highCode : HexCode highDigits high)
    (lowCode : HexCode lowDigits low) (isHigh : 0xD800 ≤ high ∧ high ≤ 0xDBFF)
    (isLow : 0xDC00 ≤ low ∧ low ≤ 0xDFFF) (rest : List Char) :
    escape.run
        ('u' :: (highDigits ++ '\\' :: 'u' :: (lowDigits ++ rest))) =
      .ok (Char.ofNat (0x10000 + (high - 0xD800) * 0x400 + (low - 0xDC00)),
        rest) := by
  have notLow : ¬ (0xDC00 ≤ high ∧ high ≤ 0xDFFF) := by omega
  simp only [escape, unicodeEscape, run_bind, run_next, List.head?_cons,
    List.tail_cons, Except.bind, run_hexEscape highCode, notLow, isHigh,
    and_self, ite_false, ite_true, run_hexEscape lowCode, isLow, run_pure]

/-- A step over a backslash reads the escape behind it. -/
private theorem run_textStep_escape {text rest : List Char} {meant : Char}
    (escapes : escape.run text = .ok (meant, rest)) (soFar : List Char) :
    (textStep soFar '\\').run text = .ok (.inl (meant :: soFar), rest) := by
  simp [textStep, run_bind, escapes, run_pure, Except.bind]

private theorem run_textStep_plain {character : Char}
    (isPlain : IsPlain character) (soFar rest : List Char) :
    (textStep soFar character).run rest =
      .ok (.inl (character :: soFar), rest) := by
  obtain ⟨notQuote, notBackslash, visible⟩ := isPlain
  have notControl : ¬ character.toNat < 0x20 := Nat.not_lt.mpr visible
  simp [textStep, notQuote, notBackslash, isControl, notControl, run_pure]

private theorem run_scan_plain (atEnd : List Char → Fault) {character : Char}
    (isPlain : IsPlain character) (soFar rest : List Char) :
    (scan textStep atEnd soFar).run (character :: rest) =
      (scan textStep atEnd (character :: soFar)).run rest := by
  rw [run_scan_cons, run_textStep_plain isPlain]
  rfl

/-- The escape behind a backslash stands for the character. -/
private theorem run_scan_escape (atEnd : List Char → Fault)
    {text rest : List Char} {meant : Char}
    (escapes : escape.run text = .ok (meant, rest)) (soFar : List Char) :
    (scan textStep atEnd soFar).run ('\\' :: text) =
      (scan textStep atEnd (meant :: soFar)).run rest := by
  rw [run_scan_cons, run_textStep_escape escapes]
  rfl

private theorem run_scan_text (atEnd : List Char → Fault)
    {body characters : List Char} (denotes : Denotes body characters)
    (soFar rest : List Char) :
    (scan textStep atEnd soFar).run (body ++ '"' :: rest) =
      .ok (String.ofList (soFar.reverse ++ characters), rest) := by
  -- Each piece of the body adds one character to those so far.
  have oneMore (soFar later : List Char) (character : Char) :
      (character :: soFar).reverse ++ later =
        soFar.reverse ++ character :: later := by simp
  induction denotes generalizing soFar with
  | done => simp [run_scan_cons, textStep, run_pure, Except.bind]
  | plain isPlain _ ih =>
      rw [List.cons_append, run_scan_plain atEnd isPlain, ih, oneMore]
  | short isShort _ ih =>
      rw [List.cons_append, List.cons_append,
        run_scan_escape atEnd (run_escape_short isShort _), ih, oneMore]
  | code isCode notSurrogate _ ih =>
      rw [List.cons_append, List.cons_append, List.append_assoc,
        run_scan_escape atEnd (run_escape_code isCode notSurrogate _), ih,
        oneMore]
  | pair highCode lowCode isHigh isLow _ ih =>
      rw [List.cons_append, List.cons_append, List.append_assoc,
        List.cons_append, List.cons_append, List.append_assoc,
        run_scan_escape atEnd
          (run_escape_pair highCode lowCode isHigh isLow _), ih, oneMore]

/-- A text is read as the string that it denotes. -/
theorem run_text_of_denotes {body : List Char} {value : String}
    (denotes : Denotes body value.toList) (rest : List Char) :
    text.run (body ++ '"' :: rest) = .ok (value, rest) := by
  rw [text, run_scan_text _ denotes]
  simp

/-- The escapes of a control character are its code. -/
private theorem hexCode_control {code : Nat} (below : code < 0x20) :
    HexCode ['0', '0', Nat.digitChar (code / 16), Nat.digitChar (code % 16)]
      code := by
  have isDigit : ∀ digit, digit < 16 →
      (Nat.digitChar digit, digit) ∈ hexDigits := by decide
  have whole : ((0 * 16 + 0) * 16 + code / 16) * 16 + code % 16 = code := by
    omega
  have isZero : ('0', 0) ∈ hexDigits := by decide
  have isCode := HexCode.digits isZero isZero
    (isDigit (code / 16) (by omega))
    (isDigit (code % 16) (Nat.mod_lt _ (by decide)))
  rwa [whole] at isCode

/-- How a character is written: as it is, with a short escape, or with its
code. -/
inductive Escaped (character : Char) : List Char → Prop where
  | plain (isPlain : IsPlain character) : Escaped character [character]
  | short {letter : Char} (isShort : (letter, character) ∈ shortEscapes) :
      Escaped character ['\\', letter]
  | code {digits : List Char} (isCode : HexCode digits character.toNat)
      (isControl : character.toNat < 0x20) :
      Escaped character ('\\' :: 'u' :: digits)

theorem escaped_escapedChar (character : Char) :
    Escaped character (escapedChar character) := by
  unfold Json.escapedChar
  split
  case h_8 notQuote notBackslash _ _ _ _ _ =>
    split
    case isTrue below => exact .code (hexCode_control below) below
    case isFalse notControl =>
      exact .plain ⟨notQuote, notBackslash, Nat.not_lt.mp notControl⟩
  all_goals
    exact .short (by decide)

private theorem Escaped.denotes {character : Char}
    {written body meant : List Char} (escaped : Escaped character written)
    (later : Denotes body meant) :
    Denotes (written ++ body) (character :: meant) := by
  cases escaped with
  | plain isPlain => exact .plain isPlain later
  | short isShort => exact .short isShort later
  | code isCode isControl =>
      have denotes := Denotes.code isCode (.inl (by omega)) later
      rwa [Char.ofNat_toNat] at denotes

/-- The written form of a character is read as this character. -/
theorem Escaped.run_scan {character : Char} {written : List Char}
    (escaped : Escaped character written) (atEnd : List Char → Fault)
    (soFar rest : List Char) :
    (scan textStep atEnd soFar).run (written ++ rest) =
      (scan textStep atEnd (character :: soFar)).run rest := by
  cases escaped with
  | plain isPlain => exact run_scan_plain atEnd isPlain soFar rest
  | short isShort =>
      exact run_scan_escape atEnd (run_escape_short isShort rest) soFar
  | code isCode isControl =>
      have escapes := run_escape_code isCode (.inl (by omega)) rest
      rw [Char.ofNat_toNat] at escapes
      exact run_scan_escape atEnd escapes soFar

/-- An escaped text denotes its characters. -/
theorem denotes_escaped (characters : List Char) :
    Denotes (characters.flatMap escapedChar) characters := by
  induction characters with
  | nil => exact .done
  | cons character later ih => exact (escaped_escapedChar character).denotes ih

theorem textOf_quotedText (value : String) : TextOf value (quotedText value) :=
  .quoted (denotes_escaped value.toList)

theorem EndsNumeral.stopsDigits {rest : List Char}
    (ends : EndsNumeral rest) : StopsDigits rest := by
  intro first isHead
  exact (ends first isHead).1

theorem EndsNumeral.run_accept {rest : List Char}
    (ends : EndsNumeral rest) {mark : Char}
    (isMark : mark = '.' ∨ mark = 'e' ∨ mark = 'E') :
    (accept mark).run rest = .ok (false, rest) := by
  have notMark : rest.head? ≠ some mark := by
    intro isHead
    obtain ⟨_, notPoint, notSmall, notLarge⟩ := ends mark isHead
    rcases isMark with isPoint | isSmall | isLarge
    · exact notPoint isPoint
    · exact notSmall isSmall
    · exact notLarge isLarge
  rw [Reader.run_accept, if_neg notMark]

theorem run_wholeDigits {first : Char} {later rest : List Char}
    (areDigits : ∀ digit ∈ first :: later, digit.isDigit = true)
    (noLeadingZero : first = '0' → later = []) (stops : StopsDigits rest) :
    (wholeDigits first).run (later ++ rest) = .ok (first :: later, rest) := by
  obtain ⟨firstIsDigit, laterAreDigits⟩ := List.forall_mem_cons.mp areDigits
  by_cases isZero : first = '0'
  · have alone : later = [] := noLeadingZero isZero
    subst isZero
    have noDigit : rest.head?.any Char.isDigit = false := by
      rw [Option.any_eq_false]
      intro following isHead
      simp [stops following isHead]
    rw [alone, List.nil_append, wholeDigits, if_pos rfl, run_bind, run_peek]
    simp only [Except.bind, noDigit, Bool.false_eq_true, ite_false, run_pure]
  · rw [wholeDigits, if_neg isZero, if_pos firstIsDigit, run_bind, run_takeWhile,
      takeWhile_isDigit_append laterAreDigits stops,
      dropWhile_isDigit_append laterAreDigits stops]
    rfl

private theorem run_numeral (atEnd : Fault) {number : Nat} {first : Char}
    {later rest : List Char}
    (digits : Nat.toDigits 10 number = first :: later)
    (firstIsDigit : first.isDigit = true) (ends : EndsNumeral rest) :
    (numeral atEnd first).run (later ++ rest) =
      .ok ({ negative := false, whole := first :: later, fraction := none,
             exponent := none }, rest) := by
  have notMinus : (first == '-') = false := by
    rw [beq_eq_false_iff_ne]
    intro isMinus
    subst isMinus
    contradiction
  have areDigits : ∀ digit ∈ first :: later, digit.isDigit = true := by
    rw [← digits]
    exact isDigit_of_mem_toDigits
  have noLeadingZero : first = '0' → later = [] := by
    rintro rfl
    exact toDigits_eq_zero_cons digits
  simp only [numeral, notMinus, Bool.false_eq_true, ite_false, run_bind,
    run_wholeDigits areDigits noLeadingZero ends.stopsDigits, Except.bind,
    run_pure,
    ends.run_accept (.inl rfl), ends.run_accept (.inr (.inl rfl)),
    ends.run_accept (.inr (.inr rfl))]

private theorem le_ofDigitChars (digits : List Char) (significand : Nat) :
    significand ≤ Nat.ofDigitChars 10 digits significand := by
  induction digits generalizing significand with
  | nil => exact Nat.le_of_eq Nat.ofDigitChars_nil.symm
  | cons digit later ih =>
      rw [Nat.ofDigitChars_cons]
      refine Nat.le_trans ?_ (ih _)
      omega

/-- All digits count as long as their number fits into 64 bits. -/
private theorem appendDigits_eq (digits : List Char) (significand : Nat)
    (fits : Nat.ofDigitChars 10 digits significand < UInt64.size) :
    appendDigits significand digits =
      (Nat.ofDigitChars 10 digits significand, digits.length) := by
  induction digits generalizing significand with
  | nil => rw [appendDigits, Nat.ofDigitChars_nil, List.length_nil]
  | cons digit later ih =>
      rw [Nat.ofDigitChars_cons] at fits
      have grown : Nat.ofDigitChars 10 [digit] significand =
          10 * significand + (digit.toNat - '0'.toNat) := by
        rw [Nat.ofDigitChars_cons, Nat.ofDigitChars_nil]
      have fitsGrown := Nat.lt_of_le_of_lt (le_ofDigitChars later _) fits
      simp only [appendDigits, grown, fitsGrown, ite_true, ih _ fits,
        Nat.ofDigitChars_cons, List.length_cons]

theorem run_number {number : Nat} {first : Char} {later rest : List Char}
    (fits : number < UInt64.size)
    (digits : Nat.toDigits 10 number = first :: later)
    (firstIsDigit : first.isDigit = true) (ends : EndsNumeral rest) :
    (Json.number first).run (later ++ rest) =
      .ok (.integer number, rest) := by
  have value : Nat.ofDigitChars 10 (first :: later) 0 = number := by
    rw [← digits]
    exact Nat.ofDigitChars_ten_toDigits
  have appended := appendDigits_eq (first :: later) 0 (by rwa [value])
  rw [value] at appended
  simp only [Json.number, run_bind, run_numeral .endOfValue digits firstIsDigit ends,
    Except.bind, Numeral.number?, appended]
  simp [run_pure]

theorem isSpace_of_isDigit {digit : Char} (isDigit : digit.isDigit = true) :
    isSpace digit = false := by
  rw [Bool.eq_false_iff]
  intro space
  simp only [isSpace, Bool.or_eq_true, beq_iff_eq] at space
  rcases space with ((rfl | rfl) | rfl) | rfl <;> contradiction

theorem run_readWord (value : UInt32) {space rest : List Char}
    (blank : IsBlank space) (ends : EndsNumeral rest) :
    readWord.run (space ++ Nat.toDigits 10 value.toNat ++ rest) =
      .ok (value, rest) := by
  obtain ⟨first, later, digits, firstIsDigit⟩ :=
    toDigits_eq_cons value.toNat
  have below : value.toNat < UInt32.size := UInt32.toNat_lt_size value
  have fits : value.toNat < UInt64.size :=
    Nat.lt_trans below (by decide)
  rw [digits, List.append_assoc, List.cons_append, readWord, run_bind,
    run_nextToken blank (isSpace_of_isDigit firstIsDigit)]
  simp only [Except.bind, firstIsDigit, or_true, ite_true, run_bind,
    run_number fits digits firstIsDigit ends, Int.natCast_nonneg, Int.toNat_natCast, below,
    and_self, UInt32.ofNat_toNat, run_pure]

end BgpTestbed.Json
