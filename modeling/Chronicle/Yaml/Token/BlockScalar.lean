import Chronicle.Yaml.Fault
import Chronicle.Yaml.Cursor
import Chronicle.Yaml.Token

/-!
# Block scalars

A block scalar is a header, then lines indented alike.  A literal scalar keeps
its line breaks; a folded one joins lines that neither start with a blank nor
follow one that does.  The header says what happens to the breaks at the end.
-/

namespace Chronicle.Yaml.BlockScalar

def construct : String :=
  "while scanning a block scalar"

/-! ## Header -/

inductive Chomping
  | strip
  | clip
  | keep
  deriving DecidableEq, Repr

structure Header where
  chomping : Chomping
  indentation : Option Nat

def chomping? (cursor : Cursor) : Option Chomping :=
  match cursor.peek? with
  | some '+' => some .keep
  | some '-' => some .strip
  | _ => none

/-- A single digit other than zero. -/
def readIndentation (start : Mark) (cursor : Cursor) :
    Except Malformed (Option Nat × Cursor) :=
  match cursor.peek? with
  | some character =>
      if character = '0' then
        .error ⟨"found an indentation indicator equal to 0", cursor.mark, some (construct, start)⟩
      else if isDecimalMark character then
        .ok (some (character.toNat - '0'.toNat), cursor.advance)
      else .ok (none, cursor)
  | none => .ok (none, cursor)

/-- The two indicators may come in either order. -/
def readHeader (start : Mark) (cursor : Cursor) : Except Malformed (Header × Cursor) := do
  match chomping? cursor with
  | some chomping =>
      let (indentation, cursor) ← readIndentation start cursor.advance
      return (⟨chomping, indentation⟩, cursor)
  | none =>
      let (indentation, cursor) ← readIndentation start cursor
      match indentation, chomping? cursor with
      | some _, some chomping => return (⟨chomping, indentation⟩, cursor.advance)
      | _, _ => return (⟨.clip, indentation⟩, cursor)

/-! ## Lines -/

/-- Blank lines before a line of text: their breaks, the place after the last
break, and the largest column at which one of these lines ended. -/
structure BlankLines where
  breaks : List Char
  last : Mark
  widest : Nat
  cursor : Cursor

/-- Reads indentation and breaks; without a known indentation all spaces belong
to it.  A tab inside the indentation is refused. -/
def readBlankLines (indentation : Option Nat) (start : Mark) :
    Nat → BlankLines → Except Malformed BlankLines
  | 0, lines => .ok lines
  | fuel + 1, lines =>
      let room := match indentation with
        | some column => column - lines.cursor.mark.column
        | none => lines.cursor.rest.length
      let spaces := (lines.cursor.rest.take room).takeWhile (fun character => character = ' ')
      let cursor := lines.cursor.advanceBy spaces.length
      let widest := max lines.widest cursor.mark.column
      let isInside := indentation.all fun column => cursor.mark.column < column
      if isInside && cursor.isAt '\t' then
        .error
          ⟨"found a tab character where an indentation space is expected", cursor.mark,
            some (construct, start)⟩
      else if cursor.isAtBreak then
        let after := cursor.skipBreak
        readBlankLines indentation start fuel
          ⟨lines.breaks ++ cursor.breakHere, after.mark, widest, after⟩
      else .ok ⟨lines.breaks, lines.last, widest, cursor⟩

def blankLines (indentation : Option Nat) (start : Mark) (cursor : Cursor) :
    Except Malformed BlankLines :=
  readBlankLines indentation start (cursor.rest.length + 1) ⟨[], cursor.mark, 0, cursor⟩

/-- The text so far, the break after its last line, the breaks of the blank
lines after that, whether the last line started with a blank, and the place of
the end. -/
structure Body where
  text : List Char
  leading : List Char
  trailing : List Char
  startedBlank : Bool
  last : Mark
  cursor : Cursor

/-- What stands between the last line and the next one. -/
def joint (literal : Bool) (body : Body) (startsBlank : Bool) : List Char :=
  if !literal && body.leading.head? = some '\n' && !body.startedBlank && !startsBlank then
    (if body.trailing.isEmpty then [' '] else []) ++ body.trailing
  else body.leading ++ body.trailing

/-- Lines of text with the blank lines after each; every round reads a line. -/
def readLines (literal : Bool) (indentation : Nat) (start : Mark) :
    Nat → Body → Except Malformed Body
  | 0, body => .ok body
  | fuel + 1, body =>
      if body.cursor.mark.column = indentation ∧ !body.cursor.isAtEnd then do
        let startsBlank := body.cursor.isBlankAt 0
        let (line, atBreak) := body.cursor.takeWhile fun character => !isBreak character
        let lines ← blankLines (some indentation) start atBreak.skipBreak
        readLines literal indentation start fuel
          { text := body.text ++ joint literal body startsBlank ++ line
            leading := atBreak.breakHere
            trailing := lines.breaks
            startedBlank := startsBlank
            last := lines.last
            cursor := lines.cursor }
      else .ok body

/-- The breaks that stay at the end. -/
def tail (chomping : Chomping) (body : Body) : List Char :=
  match chomping with
  | .strip => []
  | .clip => body.leading
  | .keep => body.leading ++ body.trailing

/-- Without an indentation in the header, the widest blank line before the first
line of text decides, but the text is indented more than what surrounds it. -/
def scan (literal : Bool) (outerIndent : Int) (cursor : Cursor) :
    Except Malformed (Token × Cursor) := do
  let start := cursor.mark
  let (header, cursor) ← readHeader start cursor.advance
  let lineEnd := cursor.skipBlanks.skipComment
  if !lineEnd.isAtLineEnd then
    throw ⟨"did not find expected comment or line break", lineEnd.mark, some (construct, start)⟩
  let stated := header.indentation.map fun width => width + outerIndent.toNat
  let lines ← blankLines stated start lineEnd.skipBreak
  let indentation := stated.getD (max lines.widest (max (outerIndent + 1).toNat 1))
  let body ← readLines literal indentation start (cursor.rest.length + 1)
    ⟨[], [], lines.breaks, false, lines.last, lines.cursor⟩
  let text := String.ofList (body.text ++ tail header.chomping body)
  return (⟨.scalar text .block, start, body.last⟩, body.cursor)

end Chronicle.Yaml.BlockScalar
