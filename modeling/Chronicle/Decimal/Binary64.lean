/-!
# Binary floating point numbers of 64 bits

A number is given by its bits: one sign bit, eleven exponent bits, 52 fraction
bits.  A ratio of natural numbers is rounded to the nearest such number, a tie
to the one with an even fraction, and a ratio past the largest finite number
becomes infinite.
-/

namespace Chronicle.Decimal

structure Binary64 where
  bits : UInt64
  deriving DecidableEq, Repr

namespace Binary64

/-! ## Fields -/

def isNegative (number : Binary64) : Bool :=
  decide (Nat.pow 2 63 ≤ number.bits.toNat)

def exponentField (number : Binary64) : Nat :=
  number.bits.toNat / Nat.pow 2 52 % Nat.pow 2 11

def fractionField (number : Binary64) : Nat :=
  number.bits.toNat % Nat.pow 2 52

def isFinite (number : Binary64) : Bool :=
  number.exponentField != 2047

def isInfinite (number : Binary64) : Bool :=
  number.exponentField == 2047 && number.fractionField == 0

def isNotANumber (number : Binary64) : Bool :=
  number.exponentField == 2047 && number.fractionField != 0

def isZero (number : Binary64) : Bool :=
  number.exponentField == 0 && number.fractionField == 0

/-- The magnitude of a finite number is `significand * 2 ^ binaryExponent`. -/
def significand (number : Binary64) : Nat :=
  if number.exponentField = 0 then number.fractionField else Nat.pow 2 52 + number.fractionField

def binaryExponent (number : Binary64) : Int :=
  if number.exponentField = 0 then -1074 else (number.exponentField : Int) - 1075

/-- Equality of keys: one zero, one value that is not a number, and otherwise
equal bits. -/
def same (left right : Binary64) : Bool :=
  (left.isNotANumber && right.isNotANumber) || (left.isZero && right.isZero) ||
    decide (left = right)

/-! ## Construction -/

def infinity (negative : Bool) : Binary64 :=
  ⟨if negative then 0xfff0000000000000 else 0x7ff0000000000000⟩

def notANumber : Binary64 :=
  ⟨0x7ff8000000000000⟩

def zero (negative : Bool) : Binary64 :=
  ⟨if negative then 0x8000000000000000 else 0⟩

/-- The quotient rounded to the nearest natural number, a tie to the even
one. -/
def roundedQuotient (numerator denominator : Nat) : Nat :=
  let quotient := numerator / denominator
  let doubled := 2 * (numerator % denominator)
  if denominator < doubled ∨ (denominator = doubled ∧ quotient % 2 = 1) then quotient + 1
  else quotient

/-- Numerator and denominator of `ratio / 2 ^ exponent`. -/
def scaled (numerator denominator : Nat) (exponent : Int) : Nat × Nat :=
  if 0 ≤ exponent then (numerator, denominator * Nat.pow 2 exponent.toNat)
  else (numerator * Nat.pow 2 (-exponent).toNat, denominator)

/-- The exponent of the last bit: the integer part of the scaled ratio then has
53 bits, or fewer at the smallest exponent. -/
def lastBitExponent (numerator denominator : Nat) : Int :=
  let estimate := (numerator.log2 : Int) - denominator.log2 - 52
  let (scaledNumerator, scaledDenominator) := scaled numerator denominator estimate
  let exponent :=
    if scaledNumerator / scaledDenominator < Nat.pow 2 52 then estimate - 1 else estimate
  max exponent (-1074)

/-- The nearest number to `numerator / denominator`.  A significand rounded up
to 54 bits carries into the exponent field, which is the right number as
well. -/
def ofRatio (negative : Bool) (numerator denominator : Nat) : Binary64 :=
  if numerator = 0 then zero negative
  else
    let exponent := lastBitExponent numerator denominator
    let (scaledNumerator, scaledDenominator) := scaled numerator denominator exponent
    let rounded := roundedQuotient scaledNumerator scaledDenominator
    let magnitude :=
      if rounded < Nat.pow 2 52 then rounded
      else (exponent + 1075).toNat * Nat.pow 2 52 + (rounded - Nat.pow 2 52)
    if 0x7ff0000000000000 ≤ magnitude then infinity negative
    else ⟨UInt64.ofNat (magnitude + if negative then Nat.pow 2 63 else 0)⟩

def ofInt (integer : Int) : Binary64 :=
  ofRatio (decide (integer < 0)) integer.natAbs 1

/-- The nearest number to `digits * 10 ^ exponent`.  A magnitude of 400 digits
or more is infinite and one with 400 zeros after its point is zero, so the
powers stay small. -/
def ofDecimal (negative : Bool) (digits : Nat) (exponent : Int) : Binary64 :=
  let places := (Nat.toDigits 10 digits).length + exponent
  if digits = 0 ∨ places < -400 then zero negative
  else if 400 < places then infinity negative
  else if 0 ≤ exponent then ofRatio negative (digits * Nat.pow 10 exponent.toNat) 1
  else ofRatio negative digits (Nat.pow 10 (-exponent).toNat)

example : (ofDecimal false 1 (-1)).bits = 0x3fb999999999999a ∧
    (ofDecimal true 5 (-324)).bits = 0x8000000000000001 ∧
    (ofInt 9007199254740993).bits = 0x4340000000000000 ∧
    (ofInt (2 ^ 64 - 1)).bits = 0x43f0000000000000 ∧
    (ofDecimal false 17976931348623159 292) = infinity false := by
  decide +kernel

end Binary64

end Chronicle.Decimal
