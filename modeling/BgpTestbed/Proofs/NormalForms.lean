import BgpTestbed.Proofs.SpelledNetworks

/-!
# Declared networks in normal form

A subnet has many spellings, which differ in leading zeros, and its text is
one of them.  A text that spells no subnet is symbolic and stays as it is.
Reading a text and showing what was read is therefore a normal form: a second
time changes nothing, and two texts have the same one exactly if they are read
as the same network.
-/

namespace BgpTestbed

open Json

/-- Four octets of up to three digits with dots between them. -/
inductive AddressOf (address : Address) : List Char → Prop where
  | dotted {first second third fourth : List Char}
      (isFirst : DigitsOf 3 address.first.toNat first)
      (isSecond : DigitsOf 3 address.second.toNat second)
      (isThird : DigitsOf 3 address.third.toNat third)
      (isFourth : DigitsOf 3 address.fourth.toNat fourth) :
      AddressOf address
        (first ++ '.' :: (second ++ '.' :: (third ++ '.' :: fourth)))

/-- An address, a slash and a length of up to two digits. -/
inductive SubnetOf (subnet : Subnet) : List Char → Prop where
  | slashed {address length : List Char}
      (isAddress : AddressOf subnet.address address)
      (isLength : DigitsOf 2 subnet.length length) :
      SubnetOf subnet (address ++ '/' :: length)

/-- The text that shows what a text is read as. -/
def Prefix.normalForm (text : String) : String :=
  (ofText text).text

namespace Address

private theorem exists_digits_of_octet? {octet : UInt8}
    {text rest : List Char} (reads : octet? true text = some (octet, rest)) :
    ∃ digits, DigitsOf 3 octet.toNat digits ∧ StopsDigits rest ∧
      text = digits ++ rest := by
  simp only [octet?, Bool.not_true, Bool.false_and, Bool.false_eq_true,
    ite_false] at reads
  obtain ⟨⟨value, behind⟩, readsDigits, reads⟩ :=
    Option.bind_eq_some_iff.mp reads
  split at reads
  case isTrue inRange =>
    cases reads
    have sameValue : (UInt8.ofNat value).toNat = value :=
      UInt8.toNat_ofNat_of_lt' (Nat.lt_succ_of_le inRange)
    rw [sameValue]
    exact digits?_eq_some_iff.mp readsDigits
  case isFalse => cases reads

private theorem dot?_eq_some_iff {text rest : List Char} :
    dot? text = some rest ↔ text = '.' :: rest := by
  constructor
  · intro reads
    unfold dot? at reads
    split at reads
    · cases reads
      rfl
    · cases reads
  · rintro rfl
    rfl

/-- Reading with leading zeros takes the spelling of an address off the front
of a text. -/
theorem read?_eq_some_iff {address : Address} {text rest : List Char} :
    read? true text = some (address, rest) ↔
      ∃ spelling, AddressOf address spelling ∧ StopsDigits rest ∧
        text = spelling ++ rest := by
  constructor
  · intro reads
    obtain ⟨⟨first, _⟩, readsFirst, reads⟩ := Option.bind_eq_some_iff.mp reads
    obtain ⟨_, readsDot, reads⟩ := Option.bind_eq_some_iff.mp reads
    obtain ⟨⟨second, _⟩, readsSecond, reads⟩ :=
      Option.bind_eq_some_iff.mp reads
    obtain ⟨_, readsNextDot, reads⟩ := Option.bind_eq_some_iff.mp reads
    obtain ⟨⟨third, _⟩, readsThird, reads⟩ := Option.bind_eq_some_iff.mp reads
    obtain ⟨_, readsLastDot, reads⟩ := Option.bind_eq_some_iff.mp reads
    obtain ⟨⟨fourth, _⟩, readsFourth, reads⟩ :=
      Option.bind_eq_some_iff.mp reads
    cases reads
    obtain ⟨_, isFirst, _, rfl⟩ := exists_digits_of_octet? readsFirst
    obtain rfl := dot?_eq_some_iff.mp readsDot
    obtain ⟨_, isSecond, _, rfl⟩ := exists_digits_of_octet? readsSecond
    obtain rfl := dot?_eq_some_iff.mp readsNextDot
    obtain ⟨_, isThird, _, rfl⟩ := exists_digits_of_octet? readsThird
    obtain rfl := dot?_eq_some_iff.mp readsLastDot
    obtain ⟨_, isFourth, stops, rfl⟩ := exists_digits_of_octet? readsFourth
    refine ⟨_, .dotted isFirst isSecond isThird isFourth, stops, ?_⟩
    simp only [List.append_assoc, List.cons_append]
  · rintro ⟨_, spelled, stops, rfl⟩
    obtain ⟨isFirst, isSecond, isThird, isFourth⟩ := spelled
    have atDot : ∀ later, StopsDigits ('.' :: later) := stopsDigits_cons rfl
    have reads {octet : UInt8} {digits behind : List Char}
        (spelled : DigitsOf 3 octet.toNat digits)
        (stops : StopsDigits behind) :
        octet? true (digits ++ behind) = some (octet, behind) :=
      octet?_append spelled stops rfl
    simp only [List.append_assoc, List.cons_append, read?,
      reads isFirst (atDot _), reads isSecond (atDot _),
      reads isThird (atDot _), reads isFourth stops, dot?,
      Option.bind_eq_bind, Option.bind_some]

end Address

namespace Subnet

/-- Exactly the spellings of a subnet are read as it. -/
theorem ofText?_eq_some_iff {text : String} {subnet : Subnet} :
    ofText? text = some subnet ↔ SubnetOf subnet text.toList := by
  constructor
  · intro reads
    rw [ofText?] at reads
    split at reads
    case h_1 address rest readsAddress =>
      split at reads
      case h_1 length readsLength =>
        split at reads
        case isTrue =>
          cases reads
          obtain ⟨_, isAddress, _, isText⟩ :=
            Address.read?_eq_some_iff.mp readsAddress
          obtain ⟨digits, isLength, _, rfl⟩ :=
            digits?_eq_some_iff.mp readsLength
          rw [isText, List.append_nil]
          exact .slashed isAddress isLength
        case isFalse => cases reads
      case h_2 => cases reads
    case h_2 => cases reads
  · intro spelled
    generalize isText : text.toList = spelling at spelled
    obtain @⟨_, length, isAddress, isLength⟩ := spelled
    have atSlash : StopsDigits ('/' :: length) := stopsDigits_cons rfl _
    have readsAddress := Address.read?_eq_some_iff.mpr
      ⟨_, isAddress, atSlash, rfl⟩
    have readsLength := isLength.digits?_append stopsDigits_nil
    rw [List.append_nil] at readsLength
    rw [ofText?, isText, readsAddress]
    simp only [readsLength, subnet.length_le, dite_true]

end Subnet

namespace Prefix

theorem ofText_eq_concrete_iff {text : String} {subnet : Subnet} :
    ofText text = .concrete subnet ↔ SubnetOf subnet text.toList := by
  rw [← Subnet.ofText?_eq_some_iff, ofText]
  cases Subnet.ofText? text with
  | some other => simp
  | none => simp

/-- A symbolic text is the whole text that was read. -/
theorem eq_of_ofText_eq_symbolic {text symbol : String}
    (reads : ofText text = .symbolic symbol) : symbol = text := by
  rw [ofText] at reads
  split at reads
  · cases reads
  · cases reads
    rfl

/-- What a text is read as is read again of its normal form. -/
theorem ofText_normalForm (text : String) :
    ofText (normalForm text) = ofText text :=
  ofText_text (ofText_unambiguous text)

theorem decode_compact (text : String) :
    codec.decode (Codec.text.compact text) = .ok (ofText text) := by
  have spelled := (Codec.text_spells text).writes .compact 0
  have decodes := (codec_reads spelled).decode_eq isBlank_nil isBlank_nil
  rwa [List.append_nil] at decodes

/-- Every text is read, as a subnet exactly if it spells one.  Its normal form
is read in the same way and is its own normal form; it is the text itself,
other than that of any subnet, if the text is symbolic.  Texts are read alike
exactly if they have the same normal form. -/
theorem texts_haveNormalForms :
    (∀ text, codec.decode (Codec.text.compact text) = .ok (ofText text)) ∧
    (∀ text subnet,
      ofText text = .concrete subnet ↔ SubnetOf subnet text.toList) ∧
    (∀ text, ofText (normalForm text) = ofText text ∧
      normalForm (normalForm text) = normalForm text) ∧
    (∀ subnet : Subnet, ofText subnet.text = .concrete subnet) ∧
    (∀ text symbol, ofText text = .symbolic symbol →
      normalForm text = text ∧
        ∀ subnet : Subnet, normalForm text ≠ subnet.text) ∧
    ∀ first second,
      ofText first = ofText second ↔ normalForm first = normalForm second := by
  have subnets : ∀ subnet : Subnet, ofText subnet.text = .concrete subnet := by
    intro subnet
    have unambiguous : (Prefix.concrete subnet).Unambiguous := trivial
    have reads := ofText_text unambiguous
    exact reads
  refine ⟨decode_compact, fun _ _ => ofText_eq_concrete_iff, ?_, subnets,
    ?_, ?_⟩
  · intro text
    have same := ofText_normalForm text
    exact ⟨same, congrArg Prefix.text same⟩
  · intro text symbol reads
    have verbatim : normalForm text = text := by
      rw [normalForm, reads]
      exact eq_of_ofText_eq_symbolic reads
    refine ⟨verbatim, ?_⟩
    intro subnet sameText
    have readsSubnet : ofText text = .concrete subnet := by
      rw [← ofText_normalForm, sameText, subnets]
    rw [readsSubnet] at reads
    cases reads
  · intro first second
    constructor
    · exact congrArg Prefix.text
    · intro same
      rw [← ofText_normalForm first, same, ofText_normalForm]

/-- A subnet with host bits, spelled with leading zeros and without, and a text
whose length is too large by one. -/
theorem texts_haveNormalForms_leadingZeros :
    let subnet : Subnet := { address := ⟨10, 0, 0, 1⟩, length := 8 }
    (ofText "010.0.000.1/08" = .concrete subnet ∧
      SubnetOf subnet "010.0.000.1/08".toList) ∧
    (normalForm "010.0.000.1/08" = normalForm "10.0.0.1/8" ∧
      ofText "010.0.000.1/08" = ofText "10.0.0.1/8") ∧
    (ofText "010.0.0.1/33" = .symbolic "010.0.0.1/33" ∧
      normalForm "010.0.0.1/33" = "010.0.0.1/33" ∧
      ∀ other : Subnet, normalForm "010.0.0.1/33" ≠ other.text) := by
  intro subnet
  obtain ⟨_, spellings, _, _, symbolic, alike⟩ := texts_haveNormalForms
  have reads : ofText "010.0.000.1/08" = .concrete subnet := by
    decide +kernel
  have same : normalForm "010.0.000.1/08" = normalForm "10.0.0.1/8" := by
    decide +kernel
  have tooLong : ofText "010.0.0.1/33" = .symbolic "010.0.0.1/33" := by
    decide +kernel
  exact ⟨⟨reads, (spellings _ subnet).mp reads⟩,
    ⟨same, (alike _ _).mpr same⟩, tooLong, symbolic _ _ tooLong⟩

end Prefix

end BgpTestbed
