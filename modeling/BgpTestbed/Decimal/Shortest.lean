import BgpTestbed.Decimal.Binary64

/-!
# Shortest decimals

The decimal of a floating-point number is the one with the fewest digits that
still rounds to that number, and among those the nearest to it; of two that
are equally near, the even one.  Fewest digits means the coarsest power of ten
with a multiple inside the rounding interval.
-/

namespace BgpTestbed.Decimal

/-- A decimal number, `digits * 10 ^ exponent`. -/
structure Expansion where
  digits : Nat
  exponent : Int
  deriving DecidableEq, Repr

namespace Magnitude

/-- The ends of the rounding interval in quarters of the last binary place. -/
private def quarterBounds (magnitude : Magnitude) : Nat × Nat :=
  let centre := 4 * magnitude.significand
  let isNarrowBelow :=
    decide (magnitude.significand = leastFull) &&
      decide (-1074 < magnitude.exponent)
  (centre - (if isNarrowBelow then 1 else 2), centre + 2)

/-- The multiple of `10 ^ power` that reads back as the magnitude, if there
is one.  The ends of the interval belong to it for an even significand. -/
def expansionAt? (magnitude : Magnitude) (power : Int) : Option Expansion :=
  let quarter := magnitude.exponent - 2
  let quarterSize := Nat.pow 2 quarter.toNat * Nat.pow 10 (-power).toNat
  let stepSize := Nat.pow 2 (-quarter).toNat * Nat.pow 10 power.toNat
  let (low, high) := magnitude.quarterBounds
  let value := 4 * magnitude.significand * quarterSize
  let contains (candidate : Nat) : Bool :=
    if magnitude.significand % 2 = 0 then
      decide (low * quarterSize ≤ candidate * stepSize) &&
        decide (candidate * stepSize ≤ high * quarterSize)
    else
      decide (low * quarterSize < candidate * stepSize) &&
        decide (candidate * stepSize < high * quarterSize)
  let below := value / stepSize
  let nearest := roundDiv value stepSize
  let other := if nearest = below then below + 1 else below
  ([nearest, other].find? contains).map fun digits => { digits, exponent := power }

/-- Tries `count` powers of ten, from the coarsest to the finest. -/
private def searchExpansion (magnitude : Magnitude) (power : Int) :
    Nat → Expansion
  | 0 => { digits := 0, exponent := 0 }
  | count + 1 =>
      match magnitude.expansionAt? power with
      | some expansion => expansion
      | none => searchExpansion magnitude (power - 1) count

def shortest (magnitude : Magnitude) : Expansion :=
  if magnitude.significand = 0 then { digits := 0, exponent := 0 }
  else magnitude.searchExpansion 309 660

end Magnitude

/-- Positional text with at least one digit after the point. -/
def Expansion.positional (expansion : Expansion) : String :=
  let digits := Nat.toDigits 10 expansion.digits
  let point := digits.length + expansion.exponent
  let zeros (count : Int) : List Char := List.replicate count.toNat '0'
  let whole :=
    if point ≤ 0 then ['0']
    else digits.take point.toNat ++ zeros expansion.exponent
  let fraction :=
    if 0 ≤ expansion.exponent then ['0']
    else zeros (-point) ++ digits.drop point.toNat
  String.ofList (whole ++ '.' :: fraction)

/-- Text with one digit before the point and a signed power of ten. -/
def Expansion.scientific (expansion : Expansion) : String :=
  let digits := Nat.toDigits 10 expansion.digits
  let power := digits.length + expansion.exponent - 1
  let fraction := digits.drop 1
  String.ofList
      (digits.take 1 ++ if fraction.isEmpty then [] else '.' :: fraction) ++
    "e" ++ (if 0 ≤ power then "+" else "") ++ toString power

/-- Values from `10 ^ -5` up to below `10 ^ 16` are written positionally. -/
def Binary64.text (value : Binary64) : String :=
  let expansion := value.magnitude.shortest
  let point := (Nat.toDigits 10 expansion.digits).length + expansion.exponent
  let isPositional := decide (-5 < point) && decide (point ≤ 16)
  (if value.negative then "-" else "") ++
    if isPositional then expansion.positional else expansion.scientific

end BgpTestbed.Decimal
