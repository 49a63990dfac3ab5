import Chronicle.Mismatch

/-!
# Faults of a TOML text

A text cannot be read if it is malformed, if it defines something twice, or if
its data does not have the shape asked for.  Every fault has a span of the text,
counted in bytes, and is reported with the line in which the span starts and a
row of carets below it.
-/

namespace Chronicle.Toml

structure Span where
  start : Nat
  stop : Nat
  deriving DecidableEq, Repr

/-! ## Causes -/

/-- What was being read. -/
inductive Construct
  | key
  | tableHeader
  | string
  | basicString
  | multilineBasicString
  | literalString
  | multilineLiteralString
  | escapeSequence
  | shortCode
  | longCode
  | array
  | inlineTable
  | integer
  | hexadecimalInteger
  | octalInteger
  | binaryInteger
  | float
  | dateTime
  | time
  | timeOffset
  deriving DecidableEq, Repr

def Construct.name : Construct → String
  | key => "key"
  | tableHeader => "table header"
  | string => "string"
  | basicString => "basic string"
  | multilineBasicString => "multiline basic string"
  | literalString => "literal string"
  | multilineLiteralString => "multiline literal string"
  | escapeSequence => "escape sequence"
  | shortCode => "unicode 4-digit hex code"
  | longCode => "unicode 8-digit hex code"
  | array => "array"
  | inlineTable => "inline table"
  | integer => "integer"
  | hexadecimalInteger => "hexadecimal integer"
  | octalInteger => "octal integer"
  | binaryInteger => "binary integer"
  | float => "floating-point number"
  | dateTime => "date-time"
  | time => "time"
  | timeOffset => "time offset"

/-- What could have followed instead. -/
inductive Expected
  | mark (text : String)
  | newline
  | digit
  | leadingDigit
  deriving DecidableEq, Repr

def Expected.text : Expected → String
  | mark text => s!"`{text}`"
  | newline => "newline"
  | digit => "digit"
  | leadingDigit => "leading digit"

/-- A rule that the text breaks although it is well formed. -/
inductive Violation
  | repeatedKey (key : String) (table : Option (List String))
  | notTable (path : List String) (kind : String)
  | outOfRange
  | tooDeep
  | tooLarge
  | tooSmall
  deriving DecidableEq, Repr

def Violation.message : Violation → String
  | repeatedKey key none => s!"duplicate key `{key}`"
  | repeatedKey key (some []) => s!"duplicate key `{key}` in document root"
  | repeatedKey key (some table) => s!"duplicate key `{key}` in table `" ++ ".".intercalate table ++ "`"
  | notTable path kind =>
      "dotted key `" ++ ".".intercalate path ++ s!"` attempted to extend non-table type ({kind})"
  | outOfRange => "value is out of range"
  | tooDeep => "recursion limit exceeded"
  | tooLarge => "number too large to fit in target type"
  | tooSmall => "number too small to fit in target type"

inductive Cause
  | malformed (construct : Option Construct) (expected : List Expected)
      (violation : Option Violation)
  | mismatch (cause : Mismatch)
  deriving DecidableEq, Repr

/-- One line each for the construct, what was expected, and the rule. -/
def Cause.message : Cause → String
  | malformed construct expected violation =>
      let constructLine := construct.toList.map fun construct => s!"invalid {construct.name}"
      let expectedLine :=
        if expected.isEmpty then []
        else ["expected " ++ ", ".intercalate (expected.map Expected.text)]
      let violationLine := violation.toList.map Violation.message
      "\n".intercalate (constructLine ++ expectedLine ++ violationLine)
  | mismatch cause => cause.message

structure Fault where
  cause : Cause
  span : Span
  deriving DecidableEq, Repr

/-! ## Places in a text -/

def byteSize (characters : List Char) : Nat :=
  characters.foldr (fun character size => character.utf8Size + size) 0

/-- The characters before a byte offset and those from it on. -/
def splitBytes : Nat → List Char → List Char × List Char
  | _, [] => ([], [])
  | 0, rest => ([], rest)
  | offset, character :: rest =>
      let (before, after) := splitBytes (offset - character.utf8Size) rest
      (character :: before, after)

/-- The characters after the last line feed. -/
def lastLine (characters : List Char) : List Char :=
  (characters.reverse.takeWhile fun character => character != '\n').reverse

/-- Line and column, counted from zero.  Columns count characters, but bytes at
a character of several bytes; the end of the text is one column behind its last
character, also if that is a line feed. -/
def place (source : List Char) (offset : Nat) : Nat × Nat :=
  let (before, after) := splitBytes offset source
  match after with
  | [] =>
      let earlier := before.dropLast
      let column := if before.isEmpty then 0 else (lastLine earlier).length + 1
      (earlier.count '\n', column)
  | character :: _ =>
      let line := lastLine before
      (before.count '\n', if character.utf8Size = 1 then line.length else byteSize line)

def lines : List Char → List (List Char)
  | [] => [[]]
  | character :: rest =>
      match lines rest with
      | [] => [[character]]
      | line :: others =>
          if character = '\n' then [] :: line :: others else (character :: line) :: others

/-! ## Reports -/

/-- At least one caret, and no more than the line has bytes from the column
on. -/
def Span.carets (span : Span) (lineSize column : Nat) : Nat :=
  max 1 (min (span.stop - span.start) (lineSize - column))

/-- The fault with its line of the source. -/
def Fault.report (fault : Fault) (source : String) : String :=
  let characters := source.toList
  let (line, column) := place characters fault.span.start
  let content := (lines characters).getD line []
  let number := toString (line + 1)
  let margin := String.ofList (List.replicate (number.length + 1) ' ')
  let indent := String.ofList (List.replicate (column + 1) ' ')
  let carets := String.ofList (List.replicate (fault.span.carets (byteSize content) column) '^')
  s!"TOML parse error at line {number}, column {column + 1}\n" ++
    s!"{margin}|\n{number} | {String.ofList content}\n{margin}|{indent}{carets}\n" ++
    s!"{fault.cause.message}\n"

example :
    Fault.report ⟨.malformed (some .array) [.mark "]"] none, ⟨5, 5⟩⟩ "a = [" =
      "TOML parse error at line 1, column 6\n  |\n1 | a = [\n  |      ^\n" ++
        "invalid array\nexpected `]`\n" := by
  decide +kernel

end Chronicle.Toml
