import BgpTestbed.Json.Reader

/-!
# Numerals

A numeral is read digit by digit and turned into a number afterwards.
Numerals without fraction and exponent are integers from `-2 ^ 63` to
`2 ^ 64 - 1`; every other numeral is a floating-point number, for which only
the digits that fit into 64 bits count.
-/

namespace BgpTestbed.Json

structure Numeral where
  negative : Bool
  whole : List Char
  fraction : Option (List Char)
  exponent : Option Int

inductive Number where
  | integer (value : Int)
  | float (value : Decimal.Binary64)
  deriving DecidableEq

open Reader

/-- The digits before the point, the first of which is taken already.
A leading zero stands alone. -/
def wholeDigits (first : Char) : Reader (List Char) := do
  if first = '0' then
    if (← peek).any Char.isDigit then fail .invalidNumber
    else pure ['0']
  else if first.isDigit then
    let later ← takeWhile Char.isDigit
    pure (first :: later)
  else
    fail .invalidNumber

/-- A fraction has at least one digit. -/
def fractionDigits (atEnd : Fault) : Reader (List Char) := do
  let digits ← takeWhile Char.isDigit
  if digits.isEmpty then
    if (← peek).isNone then fail atEnd else fail .invalidNumber
  else
    pure digits

def exponentValue (atEnd : Fault) : Reader Int := do
  let negative ← accept '-'
  unless negative do
    let _ ← accept '+'
  match ← next with
  | none => fail atEnd
  | some first =>
      if first.isDigit then
        let later ← takeWhile Char.isDigit
        let size : Int := Nat.ofDigitChars 10 (first :: later) 0
        pure (if negative then -size else size)
      else
        fail .invalidNumber

/-- Reads the numeral whose first character is taken already; `atEnd` is the
fault of a text that ends inside it. -/
def numeral (atEnd : Fault) (first : Char) : Reader Numeral := do
  let negative := first == '-'
  let lead ←
    if negative then
      match ← next with
      | none => fail atEnd
      | some character => pure character
    else pure first
  let whole ← wholeDigits lead
  let fraction ←
    if ← accept '.' then some <$> fractionDigits atEnd else pure none
  let marked ← accept 'e'
  let marked ← if marked then pure true else accept 'E'
  let exponent ← if marked then some <$> exponentValue atEnd else pure none
  pure { negative, whole, fraction, exponent }

/-- Appends digits to a significand as long as it fits into 64 bits, and
counts those that it took. -/
def appendDigits (significand : Nat) : List Char → Nat × Nat
  | [] => (significand, 0)
  | digit :: later =>
      let grown := Nat.ofDigitChars 10 [digit] significand
      if grown < UInt64.size then
        let (final, count) := appendDigits grown later
        (final, count + 1)
      else
        (significand, 0)

/-- The magnitude of `significand * 10 ^ exponent`, with one rounding for the
significand, one for each power of ten and one for each operation.  A result
beyond all finite magnitudes is none. -/
def scaled? (significand : Nat) (exponent : Int) :
    Option Decimal.Magnitude :=
  let start := Decimal.Magnitude.ofNat significand
  let powerOfTen (power : Nat) :=
    Decimal.Magnitude.ofNat (Nat.pow 10 power)
  if significand = 0 then some .zero
  else if 308 < exponent then none
  else if 0 ≤ exponent then
    let product := start.mul (powerOfTen exponent.toNat)
    if product.isOverflow then none else some product
  else if -308 ≤ exponent then
    some (start.div (powerOfTen (-exponent).toNat))
  else if -616 ≤ exponent then
    some ((start.div (powerOfTen 308)).div
      (powerOfTen (-(exponent + 308)).toNat))
  else some .zero

/-- The number that a numeral stands for, unless it is out of range. -/
def Numeral.number? (numeral : Numeral) : Option Number :=
  let (leading, taken) := appendDigits 0 numeral.whole
  let dropped := numeral.whole.length - taken
  let isInteger :=
    numeral.fraction.isNone && numeral.exponent.isNone && dropped == 0
  if isInteger then
    if !numeral.negative then some (.integer leading)
    else if 0 < leading ∧ leading ≤ Nat.pow 2 63 then some (.integer (-leading))
    else some (.float
      { negative := true, magnitude := Decimal.Magnitude.ofNat leading })
  else
    let (significand, places) :=
      appendDigits leading (numeral.fraction.getD [])
    let exponent : Int :=
      (dropped : Int) - (places : Int) + numeral.exponent.getD 0
    (scaled? significand exponent).map fun magnitude =>
      .float { negative := numeral.negative, magnitude }

def number (first : Char) : Reader Number := do
  match (← numeral .endOfValue first).number? with
  | some value => pure value
  | none => fail .numberOutOfRange

end BgpTestbed.Json
