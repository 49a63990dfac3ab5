import Chronicle.Decimal.Shortest

/-!
# Written forms of binary numbers

A number is written as its shortest decimal, placed with a point or with an
exponent as a style says.  A whole number keeps one zero after its point, and an
exponent is written without sign for positive powers.
-/

namespace Chronicle.Decimal

/-- Where the point may stand for a number to be written positionally, counted
in digits from the left of the first digit, which of two equally near decimals
is written, and the spellings of the values without digits. -/
structure Style where
  positional : Int → Bool
  tie : Tie
  notANumber : String
  infinity : String

namespace Style

/-- The digits with a point before the digit at place `point`. -/
def placed (digits : List Char) (point : Int) : List Char :=
  if point ≤ 0 then '0' :: '.' :: List.replicate (-point).toNat '0' ++ digits
  else
    let padded := digits ++ List.replicate (point.toNat - digits.length) '0'
    let fraction := padded.drop point.toNat
    padded.take point.toNat ++ '.' :: (if fraction.isEmpty then ['0'] else fraction)

/-- One digit, the rest after a point, and the power of ten. -/
def withExponent (digits : List Char) (point : Int) : List Char :=
  let fraction := digits.drop 1
  digits.take 1 ++ (if fraction.isEmpty then [] else '.' :: fraction) ++
    'e' :: (toString (point - 1)).toList

def magnitudeText (style : Style) (number : Binary64) : List Char :=
  let decimal := shortest style.tie number
  let digits := Nat.toDigits 10 decimal.digits
  let point := digits.length + decimal.exponent
  if style.positional point then placed digits point else withExponent digits point

def text (style : Style) (number : Binary64) : String :=
  if number.isNotANumber then style.notANumber
  else
    let sign := if number.isNegative then "-" else ""
    let magnitude :=
      if number.isInfinite then style.infinity else String.ofList (style.magnitudeText number)
    sign ++ magnitude

end Style

end Chronicle.Decimal
