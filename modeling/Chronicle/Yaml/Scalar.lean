import Chronicle.Mismatch
import Chronicle.Yaml.Value

/-!
# Meanings of plain scalars

The text of a plain scalar means null, a boolean, an integer, a floating point
number, or itself.  Digits behind a leading zero are text.  Integers past 128
bits are floating point numbers, as are all other decimals whose nearest number
is finite.
-/

namespace Chronicle.Yaml.Scalar

/-! ## Words -/

def isNull (text : String) : Bool :=
  ["~", "null", "Null", "NULL"].contains text

def bool? (text : String) : Option Bool :=
  if ["true", "True", "TRUE"].contains text then some true
  else if ["false", "False", "FALSE"].contains text then some false
  else none

/-! ## Integers -/

/-- The value of a digit below the base. -/
def digit? (base : Nat) (character : Char) : Option Nat :=
  let value? :=
    if '0' ≤ character ∧ character ≤ '9' then some (character.toNat - '0'.toNat)
    else if 'a' ≤ character ∧ character ≤ 'z' then some (character.toNat - 'a'.toNat + 10)
    else if 'A' ≤ character ∧ character ≤ 'Z' then some (character.toNat - 'A'.toNat + 10)
    else none
  value?.filter fun value => value < base

/-- At least one digit and nothing else. -/
def natural? (base : Nat) (digits : List Char) : Option Nat :=
  if digits.isEmpty then none
  else digits.foldl (fun value? digit => do return base * (← value?) + (← digit? base digit)) (some 0)

/-- Digits with one plus sign before them at most. -/
def positive? (base : Nat) : List Char → Option Nat
  | '+' :: digits => natural? base digits
  | digits => natural? base digits

/-- Digits with one sign before them at most. -/
def signed? (base : Nat) : List Char → Option Int
  | '-' :: digits => (natural? base digits).map fun value => -(value : Int)
  | digits => (positive? base digits).map fun value => (value : Int)

/-- A leading zero before further digits, behind a sign or not. -/
def hasLeadingZero (text : List Char) : Bool :=
  let unsigned := match text with
    | '-' :: rest => rest
    | '+' :: rest => rest
    | rest => rest
  match unsigned with
  | '0' :: digit :: rest => (digit :: rest).all Char.isDigit
  | _ => false

def startsWithSign (text : List Char) : Bool :=
  text.head?.any fun character => character = '+' || character = '-'

/-- The digits behind a letter of base, and the base. -/
def based? (text : List Char) : Option (Nat × List Char) :=
  match text with
  | '0' :: 'x' :: digits => some (16, digits)
  | '0' :: 'o' :: digits => some (8, digits)
  | '0' :: 'b' :: digits => some (2, digits)
  | _ => none

/-- A natural number below the bound, in decimal or behind a letter of base. -/
def unsigned? (bound : Nat) (text : List Char) : Option Int :=
  let body := match text with
    | '+' :: rest => rest
    | rest => rest
  let decimal :=
    if startsWithSign body || hasLeadingZero text then none
    else (natural? 10 body).filter fun value => value < bound
  match based? body with
  | some (base, digits) =>
      match (natural? base digits).filter fun value => value < bound with
      | some value => some value
      | none => if startsWithSign digits then none else decimal.map fun value => (value : Int)
  | none => decimal.map fun value => (value : Int)

/-- An integer from `-bound` up to but not including the bound, in decimal or
behind a letter of base. -/
def negative? (bound : Nat) (text : List Char) : Option Int :=
  let fits := fun (value : Int) => decide (-(bound : Int) ≤ value ∧ value < bound)
  let decimal :=
    if hasLeadingZero text then none else (signed? 10 text).filter fits
  match text with
  | '-' :: rest =>
      match based? rest with
      | some (base, digits) =>
          match (natural? base digits).map (fun value => -(value : Int)) |>.filter fits with
          | some value => some value
          | none => decimal
      | none => decimal
  | _ => decimal

/-- Integers that fit 64 bits are values; those that fit 128 bits only are
found, but never accepted. -/
def integer? (text : List Char) : Option Found :=
  match unsigned? (Nat.pow 2 64) text with
  | some value => some (.integer value)
  | none =>
      match negative? (Nat.pow 2 63) text with
      | some value => some (.integer value)
      | none =>
          match unsigned? (Nat.pow 2 128) text with
          | some value => some (.wideInteger value)
          | none => (negative? (Nat.pow 2 127) text).map .wideInteger

/-! ## Floating point numbers -/

/-- The digits before and after a point, of which at least one must be there. -/
def mantissa? (text : List Char) : Option (Nat × Nat) :=
  let whole := text.takeWhile Char.isDigit
  match text.dropWhile Char.isDigit with
  | [] => (natural? 10 whole).map fun value => (value, 0)
  | '.' :: fraction => (natural? 10 (whole ++ fraction)).map fun value => (value, fraction.length)
  | _ => none

/-- A decimal with an optional point and an optional power of ten. -/
def magnitude? (negative : Bool) (text : List Char) : Option Decimal.Binary64 := do
  let isExponentMark := fun character : Char => character = 'e' || character = 'E'
  let (digits, places) ← mantissa? (text.takeWhile fun character => !isExponentMark character)
  let exponent ←
    match text.dropWhile fun character => !isExponentMark character with
    | [] => some 0
    | _ :: power => signed? 10 power
  return Decimal.Binary64.ofDecimal negative digits (exponent - places)

def decimal? (text : List Char) : Option Decimal.Binary64 :=
  match text with
  | '-' :: rest => magnitude? true rest
  | '+' :: rest => magnitude? false rest
  | rest => magnitude? false rest

/-- The spellings of infinity and of no number are words; a decimal past the
largest number is none. -/
def float? (text : String) : Option Decimal.Binary64 :=
  let characters := text.toList
  let body := match characters with
    | '+' :: rest => rest
    | rest => rest
  if characters.head? = some '+' ∧ startsWithSign body then none
  else if [".inf", ".Inf", ".INF"].contains (String.ofList body) then
    some (Decimal.Binary64.infinity false)
  else if ["-.inf", "-.Inf", "-.INF"].contains text then some (Decimal.Binary64.infinity true)
  else if [".nan", ".NaN", ".NAN"].contains text then some Decimal.Binary64.notANumber
  else (decimal? body).filter Decimal.Binary64.isFinite

/-! ## Meaning -/

/-- What a plain scalar without a tag is found to be. -/
def meaning (text : String) : Found :=
  if text.isEmpty || isNull text then .unit
  else
    match bool? text with
    | some value => .bool value
    | none =>
        match integer? text.toList with
        | some found => found
        | none =>
            if hasLeadingZero text.toList then .text text
            else
              match float? text with
              | some value => .float value
              | none => .text text

example : meaning "~" = .unit ∧ meaning "True" = .bool true ∧ meaning "yes" = .text "yes" ∧
    meaning "+0x1F" = .integer 31 ∧ meaning "-0o17" = .integer (-15) ∧
    meaning "007" = .text "007" ∧ meaning "0x-1" = .text "0x-1" ∧
    meaning "18446744073709551616" = .wideInteger 18446744073709551616 ∧
    meaning "1." = .float ⟨0x3ff0000000000000⟩ ∧ meaning "." = .text "." ∧
    meaning "1e400" = .text "1e400" ∧ meaning "-.INF" = .float ⟨0xfff0000000000000⟩ := by
  decide +kernel

end Chronicle.Yaml.Scalar
