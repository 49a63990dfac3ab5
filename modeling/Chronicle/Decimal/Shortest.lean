import Chronicle.Decimal.Binary64

/-!
# Shortest decimals

The shortest decimal that reads back as a given binary number is searched for.
The decimals that round to a number form an interval, whose ends belong to it
exactly when the significand is even.  For one digit, then two, and so on, the
two decimals around the number on that grid are tried; the first grid with a
decimal in the interval wins, and of two decimals the nearer one.  Which of two
equally near decimals wins is a choice of the writer.
-/

namespace Chronicle.Decimal

/-- The value `digits * 10 ^ exponent`. -/
structure Numeral where
  digits : Nat
  exponent : Int
  deriving DecidableEq, Repr

/-- Which of two equally near decimals is written: the greater one, or the one
with an even last digit. -/
inductive Tie
  | up
  | toEven
  deriving DecidableEq, Repr

namespace Shortest

/-- A positive ratio of natural numbers. -/
structure Ratio where
  numerator : Nat
  denominator : Nat

def power (base : Nat) (exponent : Int) : Ratio :=
  if 0 ≤ exponent then ⟨Nat.pow base exponent.toNat, 1⟩ else ⟨1, Nat.pow base (-exponent).toNat⟩

def countDigits (number : Nat) : Nat :=
  (Nat.toDigits 10 number).length

/-- The exponent of the first digit: `10 ^ leadingExponent ≤ ratio < 10 ^
(leadingExponent + 1)`. -/
def leadingExponent (ratio : Ratio) : Int :=
  if ratio.denominator ≤ ratio.numerator then
    (countDigits (ratio.numerator / ratio.denominator) : Int) - 1
  else
    let places := countDigits (ratio.denominator / ratio.numerator)
    if ratio.denominator ≤ ratio.numerator * Nat.pow 10 (places - 1) then 1 - (places : Int)
    else -(places : Int)

/-- The decimals that round to a number, in quarters of its last bit. -/
structure Interval where
  low : Nat
  high : Nat
  closed : Bool
  quarter : Ratio

/-- Below a power of two the numbers lie twice as close, so the lower end is
nearer there. -/
def interval (number : Binary64) : Interval :=
  let nearer := number.fractionField = 0 ∧ 1 < number.exponentField
  { low := 4 * number.significand - (if nearer then 1 else 2)
    high := 4 * number.significand + 2
    closed := number.significand % 2 = 0
    quarter := power 2 (number.binaryExponent - 2) }

/-- The decimal `candidate * grid` lies in the interval. -/
def Interval.admits (bounds : Interval) (grid : Ratio) (candidate : Nat) : Bool :=
  let value := candidate * grid.numerator * bounds.quarter.denominator
  let low := bounds.low * bounds.quarter.numerator * grid.denominator
  let high := bounds.high * bounds.quarter.numerator * grid.denominator
  if bounds.closed then decide (low ≤ value ∧ value ≤ high) else decide (low < value ∧ value < high)

/-- A remainder of a division, doubled, asks for the quotient above. -/
def roundsUp (tie : Tie) (quotient doubled denominator : Nat) : Bool :=
  decide (denominator < doubled) ||
    (decide (denominator = doubled) && (tie == .up || quotient % 2 == 1))

/-- The decimal of this grid that reads back, if there is one. -/
def onGrid (tie : Tie) (number : Binary64) (magnitude : Ratio) (gridExponent : Int) :
    Option Numeral :=
  let grid := power 10 gridExponent
  let numerator := magnitude.numerator * grid.denominator
  let denominator := magnitude.denominator * grid.numerator
  let below := numerator / denominator
  let bounds := interval number
  let upperIsNearer := roundsUp tie below (2 * (numerator % denominator)) denominator
  match bounds.admits grid below, bounds.admits grid (below + 1) with
  | true, true => some ⟨if upperIsNearer then below + 1 else below, gridExponent⟩
  | true, false => some ⟨below, gridExponent⟩
  | false, true => some ⟨below + 1, gridExponent⟩
  | false, false => none

def search (tie : Tie) (number : Binary64) (magnitude : Ratio) (leading : Int) : List Nat → Numeral
  | [] => ⟨0, 0⟩
  | places :: rest =>
      match onGrid tie number magnitude (leading - places) with
      | some decimal => decimal
      | none => search tie number magnitude leading rest

/-- The same value with a last digit other than zero; at most `steps` zeros are
taken off. -/
def dropZeros : Nat → Numeral → Numeral
  | 0, decimal => decimal
  | steps + 1, decimal =>
      if decimal.digits % 10 = 0 ∧ decimal.digits ≠ 0 then
        dropZeros steps ⟨decimal.digits / 10, decimal.exponent + 1⟩
      else decimal

end Shortest

/-- The shortest decimal that reads back as the magnitude of a finite number.
Seventeen digits always suffice. -/
def shortest (tie : Tie) (number : Binary64) : Numeral :=
  if number.isZero then ⟨0, 0⟩
  else
    let unit := Shortest.power 2 number.binaryExponent
    let magnitude : Shortest.Ratio := ⟨number.significand * unit.numerator, unit.denominator⟩
    Shortest.dropZeros 17
      (Shortest.search tie number magnitude (Shortest.leadingExponent magnitude) (List.range 17))

example : shortest .up ⟨0x3fb999999999999a⟩ = ⟨1, -1⟩ ∧ shortest .up ⟨1⟩ = ⟨5, -324⟩ ∧
    shortest .up ⟨0x7fefffffffffffff⟩ = ⟨17976931348623157, 292⟩ ∧
    shortest .up ⟨0x4340000000000000⟩ = ⟨9007199254740992, 0⟩ ∧
    shortest .up ⟨0x44b52d02c7e14af6⟩ = ⟨1, 23⟩ ∧
    shortest .toEven ⟨0x3e60000000000000⟩ = ⟨29802322387695312, -24⟩ ∧
    shortest .up ⟨0x3e60000000000000⟩ = ⟨29802322387695313, -24⟩ := by
  decide +kernel

end Chronicle.Decimal
