/-!
# Finite binary floating-point numbers

A value is a sign together with `significand * 2 ^ exponent`.  Significands
have at most 53 bits and exponents are at least -1074.  Rounding a quotient
of natural numbers goes to the nearest such value, and a tie goes to the even
significand, so products and quotients are rounded once and exactly.
-/

namespace BgpTestbed.Decimal

/-- The size of a floating-point number, `significand * 2 ^ exponent`. -/
structure Magnitude where
  significand : Nat
  exponent : Int
  deriving DecidableEq, Repr

namespace Magnitude

/-- The least significand with 53 bits. -/
def leastFull : Nat := Nat.pow 2 52

/-- The least number with more than 53 bits. -/
def significandBound : Nat := Nat.pow 2 53

def zero : Magnitude := { significand := 0, exponent := -1074 }

/-- The numerator and the denominator of a magnitude. -/
def numerator (magnitude : Magnitude) : Nat :=
  magnitude.significand * Nat.pow 2 magnitude.exponent.toNat

def denominator (magnitude : Magnitude) : Nat :=
  Nat.pow 2 (-magnitude.exponent).toNat

/-- The quotient of two natural numbers rounded to an integer, where a half
goes to the even neighbour. -/
def roundDiv (numerator denominator : Nat) : Nat :=
  let quotient := numerator / denominator
  let doubled := 2 * (numerator % denominator)
  if doubled < denominator then quotient
  else if denominator < doubled then quotient + 1
  else quotient + quotient % 2

/-- An exponent for which the quotient has 53 or 54 bits. -/
private def firstExponent (numerator denominator : Nat) : Int :=
  (Nat.log2 numerator : Int) - Nat.log2 denominator - 53

/-- The significand of the quotient in units of `2 ^ exponent`. -/
private def scaled (numerator denominator : Nat) (exponent : Int) :
    Nat × Nat :=
  (numerator * Nat.pow 2 (-exponent).toNat,
    denominator * Nat.pow 2 exponent.toNat)

/-- The magnitude nearest to a quotient. -/
def ofQuotient (numerator denominator : Nat) : Magnitude :=
  if numerator = 0 then zero
  else
    let first := firstExponent numerator denominator
    let (dividend, divisor) := scaled numerator denominator first
    let fitted := if dividend / divisor < significandBound then first else first + 1
    let exponent := max fitted (-1074)
    let (dividend, divisor) := scaled numerator denominator exponent
    let significand := roundDiv dividend divisor
    if significand = significandBound then
      { significand := leastFull, exponent := exponent + 1 }
    else { significand, exponent }

def ofNat (value : Nat) : Magnitude := ofQuotient value 1

/-- Whether the magnitude lies beyond the largest finite one. -/
def isOverflow (magnitude : Magnitude) : Bool :=
  decide (971 < magnitude.exponent)

def mul (first second : Magnitude) : Magnitude :=
  ofQuotient (first.numerator * second.numerator)
    (first.denominator * second.denominator)

def div (first second : Magnitude) : Magnitude :=
  ofQuotient (first.numerator * second.denominator)
    (first.denominator * second.numerator)

end Magnitude

structure Binary64 where
  negative : Bool
  magnitude : Magnitude
  deriving DecidableEq, Repr

end BgpTestbed.Decimal
