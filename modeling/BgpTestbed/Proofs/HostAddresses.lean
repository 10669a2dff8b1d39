import BgpTestbed.Proofs.MachineNumbers

/-!
# Addresses inside a subnet

An address is a number of 32 bits, of which a subnet fixes the first ones.  A
router and its host get the two numbers behind the base address, and all that
is checked is that they do not run over the last octet.  They stay inside the
subnet exactly if its free bits leave room for them, as they do in every subnet
with at least two free bits and a base address that has none of them set.
-/

namespace BgpTestbed

namespace Address

/-- The number that has the octets of an address as its digits. -/
def number (address : Address) : Nat :=
  ((address.first.toNat * 256 + address.second.toNat) * 256 +
    address.third.toNat) * 256 + address.fourth.toNat

/-- A bit of an address, counted from the front. -/
def bit (address : Address) (place : Nat) : Bool :=
  address.number.testBit (31 - place)

theorem number_lt (address : Address) : address.number < 2 ^ 32 := by
  have first := address.first.toNat_lt
  have second := address.second.toNat_lt
  have third := address.third.toNat_lt
  have fourth := address.fourth.toNat_lt
  unfold number
  omega

theorem number_mod (address : Address) :
    address.number % 256 = address.fourth.toNat := by
  have fourth := address.fourth.toNat_lt
  unfold number
  omega

end Address

namespace Subnet

/-- The address has the bits that the subnet fixes. -/
def Contains (subnet : Subnet) (address : Address) : Prop :=
  ∀ place < subnet.length, address.bit place = subnet.address.bit place

/-- All bits that the subnet leaves free have one value. -/
def FreeBitsAre (subnet : Subnet) (value : Bool) (address : Address) : Prop :=
  ∀ place < 32, subnet.length ≤ place → address.bit place = value

instance (subnet : Subnet) (address : Address) :
    Decidable (subnet.Contains address) :=
  inferInstanceAs (Decidable (∀ place < subnet.length, _))

instance (subnet : Subnet) (value : Bool) (address : Address) :
    Decidable (subnet.FreeBitsAre value address) :=
  inferInstanceAs (Decidable (∀ place < 32, _))

/-- How many addresses the subnet has. -/
def size (subnet : Subnet) : Nat :=
  2 ^ (32 - subnet.length)

/-- Addresses in one subnet differ in their places inside of it only. -/
theorem contains_iff (subnet : Subnet) (address : Address) :
    subnet.Contains address ↔
      address.number / subnet.size = subnet.address.number / subnet.size := by
  have short := subnet.length_le
  constructor
  · intro contains
    apply Nat.eq_of_testBit_eq
    intro index
    rw [size, Nat.testBit_div_two_pow, Nat.testBit_div_two_pow]
    by_cases isBit : index + (32 - subnet.length) < 32
    · have place : 31 - (31 - (index + (32 - subnet.length))) =
          index + (32 - subnet.length) := by omega
      have agrees :=
        contains (31 - (index + (32 - subnet.length))) (by omega)
      rwa [Address.bit, Address.bit, place] at agrees
    · have above : 2 ^ 32 ≤ 2 ^ (index + (32 - subnet.length)) :=
        Nat.pow_le_pow_right Nat.two_pos (Nat.le_of_not_lt isBit)
      rw [Nat.testBit_lt_two_pow (Nat.lt_of_lt_of_le address.number_lt above),
        Nat.testBit_lt_two_pow
          (Nat.lt_of_lt_of_le subnet.address.number_lt above)]
  · intro same place isFixed
    have index : 31 - place =
        31 - place - (32 - subnet.length) + (32 - subnet.length) := by omega
    rw [Address.bit, Address.bit, index, ← Nat.testBit_div_two_pow,
      ← Nat.testBit_div_two_pow]
    exact congrArg (Nat.testBit · _) same

theorem number_mod_size_of_clear {subnet : Subnet} {address : Address}
    (clear : subnet.FreeBitsAre false address) :
    address.number % subnet.size = 0 := by
  apply Nat.eq_of_testBit_eq
  intro index
  rw [size, Nat.testBit_mod_two_pow, Nat.zero_testBit]
  by_cases isFree : index < 32 - subnet.length
  · have place : 31 - (31 - index) = index := by omega
    have isClear := clear (31 - index) (by omega) (by omega)
    rw [Address.bit, place] at isClear
    rw [isClear, Bool.and_false]
  · rw [decide_eq_false isFree, Bool.false_and]

/-- An address behind the base address is in the subnet if it does not run over
the free bits. -/
theorem contains_behind_iff {subnet : Subnet} {address : Address}
    {offset : Nat}
    (isBehind : address.number = subnet.address.number + offset) :
    subnet.Contains address ↔
      subnet.address.number % subnet.size + offset < subnet.size := by
  have positive : 0 < subnet.size := Nat.two_pow_pos _
  have parts := Nat.div_add_mod subnet.address.number subnet.size
  have quotient : address.number / subnet.size =
      subnet.address.number / subnet.size +
        (subnet.address.number % subnet.size + offset) / subnet.size := by
    rw [isBehind, ← Nat.mul_add_div positive, ← Nat.add_assoc, parts]
  rw [contains_iff, quotient, Nat.add_eq_left, Nat.div_eq_zero_iff]
  exact or_iff_right (Nat.ne_of_gt positive)

/-- The subnet of an interface has the length of the declared one, and an
address at this distance behind its base address. -/
structure IsBehind (subnet : Subnet) (offset : Nat) (interface : Subnet) :
    Prop where
  length : interface.length = subnet.length
  number : interface.address.number = subnet.address.number + offset

theorem isBehind_of_advance? {subnet interface : Subnet} {offset : Nat}
    (advances : subnet.advance? offset = some interface) :
    subnet.IsBehind offset interface ∧
      subnet.address.fourth.toNat + offset < 256 := by
  simp only [advance?, Option.ite_none_right_eq_some,
    Option.some.injEq] at advances
  obtain ⟨fits, rfl⟩ := advances
  have fourth : (UInt8.ofNat (subnet.address.fourth.toNat + offset)).toNat =
      subnet.address.fourth.toNat + offset := UInt8.toNat_ofNat_of_lt fits
  refine ⟨⟨rfl, ?_⟩, fits⟩
  simp only [Address.number, fourth, Nat.add_assoc]

/-- Addresses at different distances differ. -/
theorem IsBehind.address_ne {subnet router host : Subnet}
    (near : subnet.IsBehind 1 router) (far : subnet.IsBehind 2 host) :
    router.address ≠ host.address := by
  intro same
  have sameNumber := congrArg Address.number same
  rw [near.number, far.number] at sameNumber
  omega

/-- A single address is shared; otherwise the router and its host have the next
two addresses, which differ from the base address in the last octet only. -/
theorem hostSubnets_eq_ok {subnet router host : Subnet}
    (derives : (Prefix.concrete subnet).hostSubnets = .ok (router, host)) :
    (subnet.length = 32 ∧ router = subnet ∧ host = subnet) ∨
      (subnet.length < 32 ∧ subnet.IsBehind 1 router ∧
        subnet.IsBehind 2 host ∧ subnet.address.fourth.toNat + 2 < 256) := by
  rw [Prefix.hostSubnets] at derives
  by_cases isSingle : subnet.length = 32
  · rw [if_pos isSingle] at derives
    cases derives
    exact .inl ⟨isSingle, rfl, rfl⟩
  · rw [if_neg isSingle] at derives
    cases first : subnet.advance? 1 with
    | none => simp [first] at derives
    | some near =>
        cases second : subnet.advance? 2 with
        | none => simp [first, second] at derives
        | some far =>
            simp only [first, second, Except.ok.injEq, Prod.mk.injEq]
              at derives
            obtain ⟨rfl, rfl⟩ := derives
            have short := subnet.length_le
            obtain ⟨isNear, _⟩ := isBehind_of_advance? first
            obtain ⟨isFar, leavesRoom⟩ := isBehind_of_advance? second
            exact .inr ⟨by omega, isNear, isFar, leavesRoom⟩

/-- Where a subnet has at most 256 addresses, the last octet alone says which
place inside of it an address has. -/
theorem number_mod_size {subnet : Subnet} (long : 24 ≤ subnet.length) :
    subnet.address.number % subnet.size =
      subnet.address.fourth.toNat % subnet.size := by
  have divides : subnet.size ∣ 256 :=
    Nat.pow_dvd_pow 2 (by omega : 32 - subnet.length ≤ 8)
  rw [← Address.number_mod, Nat.mod_mod_of_dvd _ divides]

/-- Where a subnet has at least 256 addresses, the last octet does not run over
its free bits. -/
theorem room_of_short {subnet : Subnet} (short : subnet.length ≤ 24)
    (leavesRoom : subnet.address.fourth.toNat + 2 < 256) :
    subnet.address.number % subnet.size + 2 < subnet.size := by
  obtain ⟨blocks, isSize⟩ : 256 ∣ subnet.size :=
    Nat.pow_dvd_pow 2 (by omega : 8 ≤ 32 - subnet.length)
  have positive : 0 < subnet.size := Nat.two_pow_pos _
  have below := Nat.mod_lt subnet.address.number positive
  have lastOctet : subnet.address.number % subnet.size % 256 =
      subnet.address.fourth.toNat := by
    rw [isSize, Nat.mod_mul_right_mod, Address.number_mod]
  omega

/-- The addresses of a router and its host have the length of the subnet, and
differ unless it is a single address.  Both are inside exactly if the subnet is
a single address, has at least 256 addresses, or leaves room for two more
addresses behind its base address. -/
theorem hostSubnets_contained_iff (subnet router host : Subnet)
    (derives : (Prefix.concrete subnet).hostSubnets = .ok (router, host)) :
    router.length = subnet.length ∧ host.length = subnet.length ∧
      (subnet.length < 32 → router.address ≠ host.address) ∧
      (subnet.Contains router.address ∧ subnet.Contains host.address ↔
        subnet.length = 32 ∨ subnet.length ≤ 24 ∨
          subnet.address.fourth.toNat % 2 ^ (32 - subnet.length) + 2 <
            2 ^ (32 - subnet.length)) := by
  rcases hostSubnets_eq_ok derives with
    ⟨isSingle, rfl, rfl⟩ | ⟨isShort, near, far, leavesRoom⟩
  · refine ⟨rfl, rfl, by omega, iff_of_true ⟨?_, ?_⟩ (.inl isSingle)⟩
    all_goals exact fun _ _ => rfl
  · refine ⟨near.length, far.length, fun _ => near.address_ne far, ?_⟩
    rw [contains_behind_iff near.number, contains_behind_iff far.number]
    by_cases isWide : subnet.length ≤ 24
    · have room := room_of_short isWide leavesRoom
      exact iff_of_true ⟨by omega, room⟩ (.inr (.inl isWide))
    · rw [number_mod_size (by omega), size]
      omega

/-- A subnet of sixteen addresses, whose base address is the thirteenth. -/
def lateBase : Subnet := ⟨⟨172, 16, 0, 204⟩, 28, by decide⟩

theorem hostSubnets_contained_iff_lateBase :
    (Prefix.concrete lateBase).hostSubnets =
        .ok (⟨⟨172, 16, 0, 205⟩, 28, by decide⟩,
          ⟨⟨172, 16, 0, 206⟩, 28, by decide⟩) ∧
      lateBase.Contains ⟨172, 16, 0, 205⟩ ∧
      lateBase.Contains ⟨172, 16, 0, 206⟩ := by
  have derives : (Prefix.concrete lateBase).hostSubnets =
      .ok (⟨⟨172, 16, 0, 205⟩, 28, by decide⟩,
        ⟨⟨172, 16, 0, 206⟩, 28, by decide⟩) := by
    decide
  obtain ⟨_, _, _, contained_iff⟩ :=
    hostSubnets_contained_iff lateBase _ _ derives
  exact ⟨derives, contained_iff.mpr (.inr (.inr (by decide)))⟩

/-- The host is outside of a subnet of two addresses.  Both the router and the
host are outside of a subnet whose base address is its last one. -/
theorem hostSubnets_not_contained :
    (Prefix.concrete ⟨⟨10, 0, 0, 0⟩, 31, by decide⟩).hostSubnets =
        .ok (⟨⟨10, 0, 0, 1⟩, 31, by decide⟩, ⟨⟨10, 0, 0, 2⟩, 31, by decide⟩) ∧
      ¬ Contains ⟨⟨10, 0, 0, 0⟩, 31, by decide⟩ ⟨10, 0, 0, 2⟩ ∧
      (Prefix.concrete ⟨⟨10, 0, 0, 127⟩, 25, by decide⟩).hostSubnets =
        .ok (⟨⟨10, 0, 0, 128⟩, 25, by decide⟩,
          ⟨⟨10, 0, 0, 129⟩, 25, by decide⟩) ∧
      ¬ Contains ⟨⟨10, 0, 0, 127⟩, 25, by decide⟩ ⟨10, 0, 0, 128⟩ ∧
      ¬ Contains ⟨⟨10, 0, 0, 127⟩, 25, by decide⟩ ⟨10, 0, 0, 129⟩ := by
  decide

/-- At least two bits are free, and the base address has no free bit set. -/
structure IsOrdinary (subnet : Subnet) : Prop where
  leavesBits : subnet.length ≤ 30
  baseIsClear : subnet.FreeBitsAre false subnet.address

instance (subnet : Subnet) : Decidable subnet.IsOrdinary :=
  decidable_of_iff
    (subnet.length ≤ 30 ∧ subnet.FreeBitsAre false subnet.address)
    ⟨fun parts => ⟨parts.1, parts.2⟩,
      fun ordinary => ⟨ordinary.leavesBits, ordinary.baseIsClear⟩⟩

/-- The base address of an ordinary subnet is divisible by four. -/
theorem IsOrdinary.number_mod {subnet : Subnet} (ordinary : subnet.IsOrdinary) :
    subnet.address.number % subnet.size = 0 ∧ 4 ≤ subnet.size ∧
      subnet.address.number % 4 = 0 := by
  have clear := number_mod_size_of_clear ordinary.baseIsClear
  have leavesBits := ordinary.leavesBits
  have divides : 4 ∣ subnet.size :=
    Nat.pow_dvd_pow 2 (by omega : 2 ≤ 32 - subnet.length)
  have base : 4 ∣ subnet.address.number :=
    Nat.dvd_trans divides (Nat.dvd_of_mod_eq_zero clear)
  exact ⟨clear, Nat.le_of_dvd (Nat.two_pow_pos _) divides,
    Nat.mod_eq_zero_of_dvd base⟩

end Subnet

/-- The network is an ordinary subnet or a single address. -/
def Prefix.IsOrdinary : Prefix → Prop
  | .concrete subnet => subnet.IsOrdinary ∨ subnet.length = 32
  | .symbolic _ => False

instance (declared : Prefix) : Decidable declared.IsOrdinary :=
  match declared with
  | .concrete subnet =>
      inferInstanceAs (Decidable (subnet.IsOrdinary ∨ subnet.length = 32))
  | .symbolic _ => .isFalse not_false

namespace Network

end Network

end BgpTestbed
