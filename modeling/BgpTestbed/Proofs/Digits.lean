import BgpTestbed.Address

/-!
# Decimal numbers in texts

A number is read from its spellings, which may start with zeros, where no
further digit follows them.  Of its own decimal digits only those of zero start
with a zero.
-/

namespace BgpTestbed

/-- No digit stands at the front of a text. -/
def StopsDigits (rest : List Char) : Prop :=
  ∀ first ∈ rest.head?, first.isDigit = false

theorem isDigit_of_mem_toDigits {number : Nat} :
    ∀ digit ∈ Nat.toDigits 10 number, digit.isDigit = true := by
  intro digit member
  exact Nat.isDigit_of_mem_toDigits (by decide) (by decide) member

theorem toDigits_eq_cons (number : Nat) :
    ∃ first later, Nat.toDigits 10 number = first :: later ∧
      first.isDigit = true := by
  obtain ⟨first, later, digits⟩ :=
    List.exists_cons_of_ne_nil (Nat.toDigits_ne_nil (n := number) (b := 10))
  have firstIsDigit : first.isDigit = true := by
    have member : first ∈ Nat.toDigits 10 number := by
      rw [digits]
      exact List.mem_cons_self
    exact isDigit_of_mem_toDigits first member
  exact ⟨first, later, digits, firstIsDigit⟩

theorem head?_toDigits_ne {letter : Char} (notDigit : letter.isDigit = false)
    (number : Nat) : (Nat.toDigits 10 number).head? ≠ some letter := by
  obtain ⟨first, later, digits, isDigit⟩ := toDigits_eq_cons number
  rw [digits, List.head?_cons]
  rintro ⟨⟩
  rw [notDigit] at isDigit
  cases isDigit

theorem takeWhile_isDigit_append {digits rest : List Char}
    (areDigits : ∀ digit ∈ digits, digit.isDigit = true)
    (stops : StopsDigits rest) :
    (digits ++ rest).takeWhile Char.isDigit = digits := by
  rw [List.takeWhile_append_of_pos areDigits]
  cases rest with
  | nil => simp
  | cons first later =>
      have notDigit := stops first rfl
      rw [List.takeWhile_cons_of_neg (by simp [notDigit]), List.append_nil]

theorem dropWhile_isDigit_append {digits rest : List Char}
    (areDigits : ∀ digit ∈ digits, digit.isDigit = true)
    (stops : StopsDigits rest) :
    (digits ++ rest).dropWhile Char.isDigit = rest := by
  rw [List.dropWhile_append_of_pos areDigits]
  cases rest with
  | nil => rfl
  | cons first later =>
      have notDigit := stops first rfl
      exact List.dropWhile_cons_of_neg (by simp [notDigit])

private theorem digitChar_ne_zero :
    ∀ digit : Nat, digit < 10 → 0 < digit → Nat.digitChar digit ≠ '0' := by
  decide

private theorem head?_toDigits_ne_zero {number : Nat} (positive : 0 < number) :
    (Nat.toDigits 10 number).head? ≠ some '0' := by
  induction number using Nat.strongRecOn with
  | _ number ih =>
    by_cases below : number < 10
    · rw [Nat.toDigits_of_lt_base below]
      simpa using digitChar_ne_zero number below positive
    · have atLeast : 10 ≤ number := Nat.not_lt.mp below
      have shorter : number / 10 < number :=
        Nat.div_lt_self positive (by decide)
      have stillPositive : 0 < number / 10 := Nat.div_pos atLeast (by decide)
      have notZero := ih (number / 10) shorter stillPositive
      rw [Nat.toDigits_of_base_le (by decide) atLeast, List.head?_append]
      cases leading : Nat.toDigits 10 (number / 10) with
      | nil => exact absurd leading Nat.toDigits_ne_nil
      | cons first later => simpa [leading] using notZero

/-- A leading zero stands alone. -/
theorem toDigits_eq_zero_cons {number : Nat} {later : List Char}
    (digits : Nat.toDigits 10 number = '0' :: later) : later = [] := by
  rcases Nat.eq_zero_or_pos number with rfl | positive
  · rw [Nat.toDigits_zero] at digits
    exact (List.cons.inj digits).2.symm
  · have notZero := head?_toDigits_ne_zero positive
    rw [digits] at notZero
    exact absurd rfl notZero

/-- Different numbers have different digits. -/
theorem toString_number_inj {first second : Nat} :
    toString first = toString second ↔ first = second := by
  refine ⟨fun same => ?_, congrArg toString⟩
  rw [Nat.toString_eq_ofList_toDigits, Nat.toString_eq_ofList_toDigits,
    String.ofList_inj] at same
  calc first = Nat.ofDigitChars 10 (Nat.toDigits 10 first) 0 :=
        Nat.ofDigitChars_ten_toDigits.symm
    _ = Nat.ofDigitChars 10 (Nat.toDigits 10 second) 0 := by rw [same]
    _ = second := Nat.ofDigitChars_ten_toDigits

/-- A spelling of a number with at most `width` decimal digits, of which the
first ones may be zeros. -/
structure DigitsOf (width number : Nat) (text : List Char) : Prop where
  areDigits : ∀ digit ∈ text, digit.isDigit = true
  atLeastOne : 1 ≤ text.length
  atMost : text.length ≤ width
  value : Nat.ofDigitChars 10 text 0 = number

theorem digitsOf_toDigits {width number : Nat}
    (fits : (Nat.toDigits 10 number).length ≤ width) :
    DigitsOf width number (Nat.toDigits 10 number) where
  areDigits := isDigit_of_mem_toDigits
  atLeastOne := Nat.length_toDigits_pos
  atMost := fits
  value := Nat.ofDigitChars_ten_toDigits

theorem DigitsOf.digits?_append {width number : Nat} {digits rest : List Char}
    (spelled : DigitsOf width number digits) (stops : StopsDigits rest) :
    digits? width (digits ++ rest) = some (number, rest) := by
  simp only [digits?, takeWhile_isDigit_append spelled.areDigits stops,
    dropWhile_isDigit_append spelled.areDigits stops, spelled.atLeastOne,
    spelled.atMost, and_self, ite_true, spelled.value]

theorem stopsDigits_dropWhile (text : List Char) :
    StopsDigits (text.dropWhile Char.isDigit) := by
  intro first isHead
  have behind := List.head?_dropWhile_not Char.isDigit text
  rw [Option.mem_def.mp isHead] at behind
  exact behind

/-- Reading takes all digits at the front of a text. -/
theorem digits?_eq_some_iff {width number : Nat} {text rest : List Char} :
    digits? width text = some (number, rest) ↔
      ∃ digits, DigitsOf width number digits ∧ StopsDigits rest ∧
        text = digits ++ rest := by
  constructor
  · intro reads
    rw [digits?] at reads
    split at reads
    case isTrue fits =>
      cases reads
      refine ⟨_, ⟨?_, fits.1, fits.2, rfl⟩, stopsDigits_dropWhile text,
        List.takeWhile_append_dropWhile.symm⟩
      exact List.all_eq_true.mp List.all_takeWhile
    case isFalse => cases reads
  · rintro ⟨digits, spelled, stops, rfl⟩
    exact spelled.digits?_append stops

theorem digits?_toDigits_append {width number : Nat} {rest : List Char}
    (fits : (Nat.toDigits 10 number).length ≤ width)
    (stops : StopsDigits rest) :
    digits? width (Nat.toDigits 10 number ++ rest) = some (number, rest) :=
  (digitsOf_toDigits fits).digits?_append stops

end BgpTestbed
