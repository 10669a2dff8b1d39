import BgpTestbed.Proofs.Digits

/-!
# Addresses and subnets read back

The text of an address has no leading zeros, so both ways to read addresses
accept it.  A symbolic text is unambiguous if it does not read as a subnet.
-/

namespace BgpTestbed

theorem stopsDigits_nil : StopsDigits [] := by
  intro first isHead
  cases isHead

theorem stopsDigits_cons {first : Char} (notDigit : first.isDigit = false)
    (later : List Char) : StopsDigits (first :: later) := by
  intro other isHead
  cases isHead
  exact notDigit

namespace Address

private theorem hasLeadingZero_toDigits (number : Nat) {rest : List Char}
    (stops : StopsDigits rest) :
    hasLeadingZero (Nat.toDigits 10 number ++ rest) = false := by
  obtain ⟨first, later, digits, _⟩ := toDigits_eq_cons number
  rw [digits]
  by_cases isZero : first = '0'
  · subst isZero
    rw [toDigits_eq_zero_cons digits]
    cases rest with
    | nil => rfl
    | cons following behind => exact stops following rfl
  · simp [hasLeadingZero, isZero]

theorem octet?_append {leadingZeros : Bool} {octet : UInt8}
    {digits rest : List Char} (spelled : DigitsOf 3 octet.toNat digits)
    (stops : StopsDigits rest)
    (accepts : (!leadingZeros && hasLeadingZero (digits ++ rest)) = false) :
    octet? leadingZeros (digits ++ rest) = some (octet, rest) := by
  have inRange : octet.toNat ≤ 255 := Nat.le_of_lt_succ octet.toNat_lt
  simp only [octet?, accepts, Bool.false_eq_true, ite_false,
    spelled.digits?_append stops, Option.bind_eq_bind, Option.bind_some,
    inRange, ite_true, UInt8.ofNat_toNat]

private theorem octet?_toDigits (leadingZeros : Bool) (octet : UInt8)
    {rest : List Char} (stops : StopsDigits rest) :
    octet? leadingZeros (Nat.toDigits 10 octet.toNat ++ rest) =
      some (octet, rest) := by
  have below : octet.toNat < 256 := octet.toNat_lt
  have short : (Nat.toDigits 10 octet.toNat).length ≤ 3 := by
    rw [Nat.length_toDigits_le_iff (by decide) (by decide)]
    omega
  refine octet?_append (digitsOf_toDigits short) stops ?_
  rw [hasLeadingZero_toDigits _ stops, Bool.and_false]

theorem toList_text (address : Address) :
    address.text.toList =
      Nat.toDigits 10 address.first.toNat ++ '.' ::
        (Nat.toDigits 10 address.second.toNat ++ '.' ::
          (Nat.toDigits 10 address.third.toNat ++ '.' ::
            Nat.toDigits 10 address.fourth.toNat)) := by
  simp [text, octets]

/-- An address is read back from the front of a text. -/
theorem read?_text (leadingZeros : Bool) (address : Address)
    {rest : List Char} (stops : StopsDigits rest) :
    read? leadingZeros (address.text.toList ++ rest) = some (address, rest) := by
  have atDot : ∀ later, StopsDigits ('.' :: later) := stopsDigits_cons rfl
  simp only [toList_text, List.append_assoc, List.cons_append, read?,
    octet?_toDigits leadingZeros _ (atDot _), octet?_toDigits leadingZeros _ stops,
    dot?, Option.bind_eq_bind, Option.bind_some]

theorem ofText?_text (address : Address) :
    ofText? address.text = some address := by
  have reads := read?_text false address stopsDigits_nil
  rw [List.append_nil] at reads
  rw [ofText?, reads]

theorem text_injective : Function.Injective text := by
  intro first second same
  have reads := ofText?_text first
  rw [same, ofText?_text] at reads
  exact (Option.some.inj reads).symm

end Address

namespace Subnet

theorem ofText?_text (subnet : Subnet) :
    ofText? subnet.text = some subnet := by
  have short : (Nat.toDigits 10 subnet.length).length ≤ 2 := by
    have below := subnet.length_le
    rw [Nat.length_toDigits_le_iff (by decide) (by decide)]
    omega
  have digits := digits?_toDigits_append short stopsDigits_nil
  rw [List.append_nil] at digits
  have shape : subnet.text.toList =
      subnet.address.text.toList ++ '/' :: Nat.toDigits 10 subnet.length := by
    simp [text]
  rw [ofText?, shape,
    Address.read?_text true subnet.address (stopsDigits_cons rfl _)]
  simp only [digits, subnet.length_le, dite_true]

end Subnet

namespace Prefix

/-- Its text is not mistaken for the text of a subnet. -/
def Unambiguous : Prefix → Prop
  | .concrete _ => True
  | .symbolic text => Subnet.ofText? text = none

instance (declared : Prefix) : Decidable declared.Unambiguous :=
  match declared with
  | .concrete _ => .isTrue trivial
  | .symbolic text => inferInstanceAs (Decidable (Subnet.ofText? text = none))

theorem ofText_text {declared : Prefix} (unambiguous : declared.Unambiguous) :
    ofText declared.text = declared := by
  cases declared with
  | concrete subnet =>
      rw [text, ofText, Subnet.ofText?_text]
  | symbolic text =>
      have notSubnet : Subnet.ofText? text = none := unambiguous
      rw [Prefix.text, ofText, notSubnet]

theorem ofText_unambiguous (text : String) : (ofText text).Unambiguous := by
  cases reading : Subnet.ofText? text with
  | some subnet =>
      rw [ofText, reading]
      trivial
  | none =>
      rw [ofText, reading]
      exact reading

end Prefix

end BgpTestbed
