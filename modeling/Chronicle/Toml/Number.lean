import Chronicle.Decimal.Binary64
import Chronicle.Toml.QuotedText

/-!
# Numbers, dates and times in TOML

Digits may be joined by single underscores.  Dates and times are checked and
stepped over; nothing here asks for their value.
-/

namespace Chronicle.Toml.Number

open Decimal (Binary64)

/-! ## Digits -/

/-- Further digits, each of which may have one underscore before it.  An
underscore without a digit behind it is refused; `expected` is what could have
followed. -/
def moreDigits (accepts : Char → Bool) (construct : Construct) (expected : List Expected) :
    Nat → Read (List Char)
  | 0 => return []
  | fuel + 1 => do
      match (← get).rest with
      | '_' :: digit :: _ =>
          advance
          if accepts digit then
            advance
            return digit :: (← moreDigits accepts construct expected fuel)
          else refuse construct expected
      | ['_'] =>
          advance
          refuse construct expected
      | digit :: _ =>
          if accepts digit then
            advance
            return digit :: (← moreDigits accepts construct expected fuel)
          else return []
      | [] => return []

/-- One digit and more digits behind it. -/
def someDigits (accepts : Char → Bool) (construct : Construct) (first further : List Expected) :
    Read (List Char) := do
  let rest := (← get).rest
  match rest with
  | digit :: _ =>
      if accepts digit then
        advance
        return digit :: (← moreDigits accepts construct further rest.length)
      else refuse construct first
  | [] => refuse construct first

def decimalValue (digits : List Char) : Nat :=
  digits.foldl (fun value digit => 10 * value + (digit.toNat - '0'.toNat)) 0

/-- A sign, if there is one; true is minus. -/
def sign : Read Bool := do
  if ← skip "-" then return true
  else
    let _ ← skip "+"
    return false

/-- Decimal digits without a leading zero, or a single zero. -/
def decimalDigits : Read (List Char) := do
  let rest := (← get).rest
  match rest with
  | '0' :: _ =>
      advance
      return ['0']
  | _ => someDigits Char.isDigit .integer [] [.digit]

/-! ## Integers -/

/-- An integer of 64 bits that started at the given place. -/
def bounded (start : Cursor) (value : Int) : Read Int :=
  if Int.pow 2 63 ≤ value then refuseAt start none [] (some .tooLarge)
  else if value < -Int.pow 2 63 then refuseAt start none [] (some .tooSmall)
  else return value

/-- An integer to another base, behind its two characters of prefix. -/
def prefixed (construct : Construct) (accepts : Char → Bool) (base : Nat) : Read Int := do
  let start ← get
  advanceBy 2
  let digits ← someDigits accepts construct [] [.digit]
  bounded start (digits.foldl (fun value digit => base * value + QuotedText.hexDigit digit) 0)

def isOctalDigit (character : Char) : Bool :=
  '0' ≤ character && character ≤ '7'

def isBinaryDigit (character : Char) : Bool :=
  character = '0' || character = '1'

/-! ## Floating point numbers -/

/-- The power of ten behind the letter of an exponent. -/
def exponentValue : Read Int := do
  advance
  let negative ← sign
  let digits ← someDigits Char.isDigit .float [] [.digit]
  let value : Int := decimalValue digits
  return if negative then -value else value

def exponent? : Read (Option Int) := do
  match ← peek? with
  | some 'e' => return some (← exponentValue)
  | some 'E' => return some (← exponentValue)
  | _ => return none

/-- A finite number, or negative infinity if it is too small; one that is too
large is refused. -/
def finite (start : Cursor) (negative : Bool) (digits : Nat) (exponent : Int) : Read Binary64 := do
  let value := Binary64.ofDecimal negative digits exponent
  if value = Binary64.infinity false then refuseAt start (some .float) else return value

/-! ## Decimal numbers -/

inductive Numeral
  | integer (value : Int)
  | float (value : Binary64)
  | moment
  deriving DecidableEq, Repr

/-- A decimal number, whose sign was stepped over.  It is an integer unless it
has a fraction or an exponent. -/
def decimal (start : Cursor) (negative : Bool) : Read Numeral := do
  let whole ← decimalDigits
  if ← skip "." then
    let fraction ← someDigits Char.isDigit .float [.digit] [.digit, .digit]
    let power ← exponent?
    let digits := decimalValue (whole ++ fraction)
    return .float (← finite start negative digits (power.getD 0 - fraction.length))
  else
    match ← exponent? with
    | some power => return .float (← finite start negative (decimalValue whole) power)
    | none =>
        let value : Int := decimalValue whole
        return .integer (← bounded start (if negative then -value else value))

/-- The values without digits, behind a sign. -/
def special? (negative : Bool) : Read (Option Binary64) := do
  if ← skip "inf" then return some (Binary64.infinity negative)
  else if ← skip "nan" then return some Binary64.notANumber
  else return none

/-! ## Dates and times -/

/-- Two digits, whose value lies between the bounds. -/
def twoDigits (construct : Construct) (least greatest : Nat) : Read Nat := do
  let start ← get
  let digits ← takeRun Char.isDigit 2
  let value := decimalValue digits
  if digits.length < 2 then refuseAt start construct
  else if least ≤ value ∧ value ≤ greatest then return value
  else refuseAt start construct [] (some .outOfRange)

/-- A time starts here: an hour and a colon. -/
def startsTime (rest : List Char) : Bool :=
  match rest with
  | tens :: ones :: ':' :: _ =>
      tens.isDigit && ones.isDigit && decide (decimalValue [tens, ones] ≤ 23)
  | _ => false

/-- A date starts here: a year and a hyphen. -/
def startsDate (rest : List Char) : Bool :=
  (rest.take 4).length == 4 && (rest.take 4).all Char.isDigit && rest[4]? == some '-'

def startsFraction (rest : List Char) : Bool :=
  match rest with
  | '.' :: digit :: _ => digit.isDigit
  | _ => false

/-- A time of the day, with a fraction of a second if one follows. -/
def timeOfDay (construct : Construct) : Read Unit := do
  let _ ← twoDigits construct 0 23
  require ":" construct
  let _ ← twoDigits construct 0 59
  require ":" construct
  let _ ← twoDigits construct 0 60
  if startsFraction (← get).rest then
    advance
    let _ ← takeWhile Char.isDigit

def isSignMark (character : Char) : Bool :=
  character = '+' || character = '-'

/-- The distance from universal time, if it is given. -/
def timeOffset : Read Unit := do
  match ← peek? with
  | some mark =>
      if mark = 'Z' || mark = 'z' then advance
      else if isSignMark mark then
        advance
        let _ ← twoDigits .timeOffset 0 23
        require ":" (some .timeOffset)
        let _ ← twoDigits .timeOffset 0 59
  | none => return ()

def isLeapYear (year : Nat) : Bool :=
  year % 4 == 0 && (year % 100 != 0 || year % 400 == 0)

def daysOfMonth (year month : Nat) : Nat :=
  if month = 2 then if isLeapYear year then 29 else 28
  else if month = 4 ∨ month = 6 ∨ month = 9 ∨ month = 11 then 30
  else 31

def isTimeMark (character : Char) : Bool :=
  character = 'T' || character = 't' || character = ' '

/-- A date, with a time of the day if one follows. -/
def date : Read Unit := do
  let year := decimalValue (← takeRun Char.isDigit 4)
  require "-" (some .dateTime)
  let month ← twoDigits .dateTime 1 12
  require "-" (some .dateTime)
  let start ← get
  let day ← twoDigits .dateTime 1 31
  if daysOfMonth year month < day then refuseAt start (some .dateTime) [] (some .outOfRange)
  match (← get).rest with
  | mark :: behind =>
      if isTimeMark mark && startsTime behind then
        advance
        timeOfDay .dateTime
        timeOffset
  | [] => return ()

/-! ## Any number -/

/-- A number, date or time.  It starts with a digit or a sign. -/
def read : Read Numeral := do
  let start ← get
  if startsDate start.rest then
    date
    return .moment
  else if startsTime start.rest then
    timeOfDay .time
    return .moment
  else if ← isAt "0x" then
    return .integer (← prefixed .hexadecimalInteger QuotedText.isHexDigit 16)
  else if ← isAt "0o" then return .integer (← prefixed .octalInteger isOctalDigit 8)
  else if ← isAt "0b" then return .integer (← prefixed .binaryInteger isBinaryDigit 2)
  else
    let negative ← sign
    match ← special? negative with
    | some value => return .float value
    | none => decimal start negative

end Chronicle.Toml.Number
