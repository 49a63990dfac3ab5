import Chronicle.Yaml.Token
import Chronicle.Yaml.Token.Folding

/-!
# Scalars in quotes

A single quote is doubled inside single quotes; inside double quotes a backslash
starts an escape.  Gaps fold as in plain scalars, without a least indentation.
-/

namespace Chronicle.Yaml.QuotedScalar

inductive Quote
  | single
  | double
  deriving DecidableEq, Repr

def Quote.mark : Quote → Char
  | .single => '\x27'
  | .double => '\x22'

def scanning : String :=
  "while scanning a quoted scalar"

def parsing : String :=
  "while parsing a quoted scalar"

/-! ## Escapes -/

/-- The meaning of an escape of one character. -/
def simpleEscape? (character : Char) : Option Char :=
  if character = '0' then some '\x00'
  else if character = 'a' then some '\x07'
  else if character = 'b' then some '\x08'
  else if character = 't' || character = '\t' then some '\t'
  else if character = 'n' then some '\n'
  else if character = 'v' then some '\x0b'
  else if character = 'f' then some '\x0c'
  else if character = 'r' then some '\r'
  else if character = 'e' then some '\x1b'
  else if character = ' ' || character = '\x22' || character = '/' || character = '\\' then
    some character
  else if character = 'N' then some '\u0085'
  else if character = '_' then some '\u00a0'
  else if character = 'L' then some '\u2028'
  else if character = 'P' then some '\u2029'
  else none

/-- How many hexadecimal digits follow the letter of a code point escape. -/
def codeLength? (character : Char) : Option Nat :=
  if character = 'x' then some 2
  else if character = 'u' then some 4
  else if character = 'U' then some 8
  else none

def hexValue? (digits : List Char) : Option Nat :=
  digits.foldl (fun value? digit => do return 16 * (← value?) + (← hexDigit? digit)) (some 0)

/-- A code point escape at the given place, whose digits are the next ones of
the text. -/
def codePoint (start place : Mark) (length : Nat) (following : List Char) :
    Except Malformed Char :=
  let digits := following.take length
  match hexValue? digits with
  | none =>
      .error ⟨"did not find expected hexadecimal number", place, some (parsing, start)⟩
  | some value =>
      if digits.length < length then
        .error ⟨"did not find expected hexadecimal number", place, some (parsing, start)⟩
      else if (0xD800 ≤ value ∧ value ≤ 0xDFFF) ∨ 0x10FFFF < value then
        .error ⟨"found invalid Unicode character escape code", place, some (parsing, start)⟩
      else .ok (Char.ofNat value)

/-! ## Runs -/

/-- The characters up to the next gap, the closing quote or an escaped line
break; the last component says that such a break was read.  The first `skip`
characters were read by an escape before. -/
def readRun (quote : Quote) (start : Mark) :
    Nat → List Char → Mark → List Char → Except Malformed (List Char × Cursor × Bool)
  | _, [], mark, run => .ok (run.reverse, ⟨[], mark⟩, false)
  | skip + 1, character :: rest, mark, run =>
      readRun quote start skip rest (mark.next character) run
  | 0, character :: rest, mark, run =>
      if isBlankMark character || isBreak character then
        .ok (run.reverse, ⟨character :: rest, mark⟩, false)
      else if character = quote.mark then
        if quote = .single ∧ rest.head? = some quote.mark then
          readRun quote start 1 rest (mark.next character) (character :: run)
        else .ok (run.reverse, ⟨character :: rest, mark⟩, false)
      else if quote = .double ∧ character = '\\' then
        match rest with
        | [] => .error ⟨"found unknown escape character", mark, some (parsing, start)⟩
        | escape :: following =>
            if isBreak escape then
              .ok (run.reverse, (Cursor.mk rest (mark.next character)).skipBreak, true)
            else
              match simpleEscape? escape, codeLength? escape with
              | some meaning, _ =>
                  readRun quote start 1 rest (mark.next character) (meaning :: run)
              | none, some length =>
                  match codePoint start ((mark.next character).next escape) length following with
                  | .ok meaning =>
                      readRun quote start (length + 1) rest (mark.next character)
                        (meaning :: run)
                  | .error fault => .error fault
              | none, none =>
                  .error ⟨"found unknown escape character", mark, some (parsing, start)⟩
      else readRun quote start 0 rest (mark.next character) (character :: run)

/-- Runs and gaps in turn up to the closing quote; each round moves on, so the
length of the text bounds the rounds. -/
def readRuns (quote : Quote) (start : Mark) :
    Nat → Cursor → List Char → Except Malformed (List Char × Cursor)
  | 0, cursor, text => .ok (text, cursor)
  | fuel + 1, cursor, text =>
      if cursor.isDocumentBoundary then
        .error ⟨"found unexpected document indicator", cursor.mark, some (scanning, start)⟩
      else if cursor.isAtEnd then
        .error ⟨"found unexpected end of stream", cursor.mark, some (scanning, start)⟩
      else do
        let (run, afterRun, escapedBreak) ← readRun quote start 0 cursor.rest cursor.mark []
        if afterRun.isAt quote.mark then .ok (text ++ run, afterRun.advance)
        else
          let before := if escapedBreak then Gap.escapedBreak else Gap.empty
          let (gap, afterGap) ← readGap none scanning start afterRun.rest afterRun.mark before
          readRuns quote start fuel afterGap (text ++ run ++ gap.folded)

def scan (quote : Quote) (cursor : Cursor) : Except Malformed (Token × Cursor) := do
  let start := cursor.mark
  let (text, after) ← readRuns quote start (cursor.rest.length + 1) cursor.advance []
  return (⟨.scalar (String.ofList text) .quoted, start, after.mark⟩, after)

end Chronicle.Yaml.QuotedScalar
