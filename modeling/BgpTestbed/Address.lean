/-!
# Addresses, subnets and declared networks

Addresses have four octets; a subnet keeps its host bits.  A declared network
is either a subnet or a symbolic text that is passed on as it is.  Sessions
take their addresses without leading zeros, subnets accept them.
-/

namespace BgpTestbed

structure Address where
  first : UInt8
  second : UInt8
  third : UInt8
  fourth : UInt8
  deriving DecidableEq, Repr

structure Subnet where
  address : Address
  length : Nat
  length_le : length ≤ 32 := by decide
  deriving DecidableEq, Repr

/-- A network as a router declares it. -/
inductive Prefix where
  | concrete (subnet : Subnet)
  | symbolic (text : String)
  deriving DecidableEq, Repr

/-- Reads a decimal number of at most `width` digits from the front of a
text, as far as the digits go. -/
def digits? (width : Nat) (text : List Char) : Option (Nat × List Char) :=
  let digits := text.takeWhile Char.isDigit
  if 1 ≤ digits.length ∧ digits.length ≤ width then
    some (Nat.ofDigitChars 10 digits 0, text.dropWhile Char.isDigit)
  else none

namespace Address

def octets (address : Address) : List UInt8 :=
  [address.first, address.second, address.third, address.fourth]

def text (address : Address) : String :=
  ".".intercalate (address.octets.map fun octet => toString octet.toNat)

/-- Whether a text starts with a zero that further digits follow. -/
def hasLeadingZero : List Char → Bool
  | '0' :: second :: _ => second.isDigit
  | _ => false

def octet? (leadingZeros : Bool) (text : List Char) :
    Option (UInt8 × List Char) := do
  if !leadingZeros && hasLeadingZero text then none
  else
    let (value, rest) ← digits? 3 text
    if value ≤ 255 then some (UInt8.ofNat value, rest) else none

def dot? : List Char → Option (List Char)
  | '.' :: rest => some rest
  | _ => none

/-- An address at the front of a text and what follows it. -/
def read? (leadingZeros : Bool) (text : List Char) :
    Option (Address × List Char) := do
  let (first, text) ← octet? leadingZeros text
  let text ← dot? text
  let (second, text) ← octet? leadingZeros text
  let text ← dot? text
  let (third, text) ← octet? leadingZeros text
  let text ← dot? text
  let (fourth, text) ← octet? leadingZeros text
  some ({ first, second, third, fourth }, text)

def ofText? (text : String) : Option Address :=
  match read? false text.toList with
  | some (address, []) => some address
  | _ => none

end Address

namespace Subnet

def text (subnet : Subnet) : String :=
  subnet.address.text ++ "/" ++ toString subnet.length

def ofText? (text : String) : Option Subnet :=
  match Address.read? true text.toList with
  | some (address, '/' :: rest) =>
      match digits? 2 rest with
      | some (length, []) =>
          if length_le : length ≤ 32 then some { address, length, length_le }
          else none
      | _ => none
  | _ => none

end Subnet

namespace Prefix

/-- A text that does not read as a subnet is symbolic. -/
def ofText (text : String) : Prefix :=
  match Subnet.ofText? text with
  | some subnet => .concrete subnet
  | none => .symbolic text

def text : Prefix → String
  | .concrete subnet => subnet.text
  | .symbolic text => text

def subnet? : Prefix → Option Subnet
  | .concrete subnet => some subnet
  | .symbolic _ => none

end Prefix

end BgpTestbed
