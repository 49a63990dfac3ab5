import Chronicle.Toml.Cursor

/-!
# Quoted texts in TOML

Double quotes allow escapes and single quotes do not; three quotes allow line
breaks, of which the first one at the very start does not count, and up to two
quotes in a row.
-/

namespace Chronicle.Toml.QuotedText

/-! ## Escapes -/

def isHexDigit (character : Char) : Bool :=
  character.isDigit || ('a' ≤ character && character ≤ 'f') ||
    ('A' ≤ character && character ≤ 'F')

def hexDigit (character : Char) : Nat :=
  if character.isDigit then character.toNat - '0'.toNat
  else character.toLower.toNat - 'a'.toNat + 10

def hexValue (digits : List Char) : Nat :=
  digits.foldl (fun value digit => 16 * value + hexDigit digit) 0

/-- A code point of the given number of hexadecimal digits. -/
def codePoint (construct : Construct) (length : Nat) : Read Char := do
  let start ← get
  let digits ← takeRun isHexDigit length
  if digits.length < length then refuseAt start construct
  else
    let value := hexValue digits
    if (0xD800 ≤ value ∧ value ≤ 0xDFFF) ∨ 0x10FFFF < value then
      refuseAt start construct [] (some .outOfRange)
    else return Char.ofNat value

def simpleEscape? (character : Char) : Option Char :=
  if character = 'b' then some '\x08'
  else if character = 'f' then some '\x0c'
  else if character = 'n' then some '\n'
  else if character = 'r' then some '\r'
  else if character = 't' then some '\t'
  else if character = '\\' || character = '\x22' then some character
  else none

def escapeLetters : List Expected :=
  ["b", "f", "n", "r", "t", "u", "U", "\\", "\x22"].map Expected.mark

/-- The character that an escape stands for; `letter` follows its backslash.  An
unknown letter of one byte is stepped over before the escape is refused. -/
def escape (letter : Char) : Read Char := do
  advance
  if letter = 'u' then
    advance
    codePoint .shortCode 4
  else if letter = 'U' then
    advance
    codePoint .longCode 8
  else
    if letter.utf8Size = 1 then advance
    match simpleEscape? letter with
    | some character => return character
    | none => refuse (some .escapeSequence) escapeLetters

/-! ## Double quotes -/

/-- What a text in double quotes may hold as it is. -/
def isPlain (character : Char) : Bool :=
  isVisible character && character != '\x22' && character != '\\'

/-- The characters up to the closing quote, or up to what may not stand in the
text. -/
def basicBody : Nat → Read (List Char)
  | 0 => return []
  | fuel + 1 => do
      match (← get).rest with
      | '\\' :: letter :: _ => return (← escape letter) :: (← basicBody fuel)
      | character :: _ =>
          if isPlain character then
            advance
            return character :: (← basicBody fuel)
          else return []
      | [] => return []

/-- A text in double quotes on one line. -/
def basic : Read String := do
  advance
  let body ← basicBody (← get).rest.length
  require "\x22" (some .basicString)
  return String.ofList body

/-! ## Three double quotes -/

/-- A backslash at the end of a line takes the break and all blanks and breaks
behind it. -/
def isLineEndEscape (rest : List Char) : Bool :=
  match rest with
  | '\\' :: behind =>
      match behind.dropWhile isBlank with
      | '\n' :: _ => true
      | '\r' :: '\n' :: _ => true
      | _ => false
  | _ => false

/-- The characters behind a run of blanks and line breaks. -/
def dropGap : List Char → List Char
  | '\r' :: '\n' :: rest => dropGap rest
  | character :: rest =>
      if isBlank character || character = '\n' then dropGap rest else character :: rest
  | [] => []

def skipGap : Read Unit := do
  let rest := (← get).rest
  advanceBy (rest.length - (dropGap rest).length)

/-- How many times the quote stands at the start. -/
def quoteRun (quote : Char) (rest : List Char) : Nat :=
  (rest.takeWhile fun character => character == quote).length

/-- Up to two quotes that do not end the text belong to it. -/
def innerQuotes (quote : Char) (rest : List Char) : Option Nat :=
  let count := quoteRun quote rest
  if 0 < count ∧ count < 3 ∧ count < rest.length then some count else none

/-- How many quotes before the closing ones belong to the text. -/
def lastQuotes (quote : Char) (rest : List Char) : Nat :=
  min (quoteRun quote rest - 3) 2

def multilineBasicBody : Nat → Read (List Char)
  | 0 => return []
  | fuel + 1 => do
      let rest := (← get).rest
      match innerQuotes '\x22' rest with
      | some count =>
          advanceBy count
          return List.replicate count '\x22' ++ (← multilineBasicBody fuel)
      | none =>
          if isLineEndEscape rest then
            advance
            skipGap
            multilineBasicBody fuel
          else if ← skipNewline then return '\n' :: (← multilineBasicBody fuel)
          else
            match rest with
            | '\\' :: letter :: _ => return (← escape letter) :: (← multilineBasicBody fuel)
            | character :: _ =>
                if isPlain character then
                  advance
                  return character :: (← multilineBasicBody fuel)
                else
                  let last := lastQuotes '\x22' rest
                  advanceBy last
                  return List.replicate last '\x22'
            | [] => return []

def multilineBasic : Read String := do
  advanceBy 3
  let _ ← skipNewline
  let body ← multilineBasicBody (← get).rest.length
  require "\x22\x22\x22" (some .multilineBasicString)
  return String.ofList body

/-! ## Single quotes -/

def isLiteral (character : Char) : Bool :=
  isVisible character && character != '\x27'

/-- A text in single quotes on one line. -/
def literal : Read String := do
  advance
  let body ← takeWhile isLiteral
  require "\x27" (some .literalString)
  return String.ofList body

/-- Quotes inside the text must be followed by more of it. -/
def continuesLiteral (rest : List Char) : Bool :=
  match rest with
  | '\r' :: '\n' :: _ => true
  | character :: _ => isLiteral character || character = '\n'
  | [] => false

def multilineLiteralBody : Nat → Read (List Char)
  | 0 => return []
  | fuel + 1 => do
      let rest := (← get).rest
      match innerQuotes '\x27' rest with
      | some count =>
          if continuesLiteral (rest.drop count) then
            advanceBy count
            return List.replicate count '\x27' ++ (← multilineLiteralBody fuel)
          else return []
      | none =>
          if ← skipNewline then return '\n' :: (← multilineLiteralBody fuel)
          else
            match rest with
            | character :: _ =>
                if isLiteral character then
                  advance
                  return character :: (← multilineLiteralBody fuel)
                else
                  let last := lastQuotes '\x27' rest
                  advanceBy last
                  return List.replicate last '\x27'
            | [] => return []

def multilineLiteral : Read String := do
  advanceBy 3
  let _ ← skipNewline
  let body ← multilineLiteralBody (← get).rest.length
  require "\x27\x27\x27" (some .multilineLiteralString)
  return String.ofList body

/-! ## Any quotes -/

/-- A text on one line, which starts with a quote. -/
def single : Read String := do
  if ← isAt "\x22" then basic else literal

/-- A text that starts with one or three quotes. -/
def read : Read String := do
  if ← isAt "\x22\x22\x22" then multilineBasic
  else if ← isAt "\x27\x27\x27" then multilineLiteral
  else single

end Chronicle.Toml.QuotedText
