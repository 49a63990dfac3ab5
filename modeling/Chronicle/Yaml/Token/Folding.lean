import Chronicle.Yaml.Cursor
import Chronicle.Yaml.Fault

/-!
# Gaps inside a flow scalar

A gap is made of the blanks of one line, or of line breaks with the indentation
after them.  A gap of one line keeps its blanks, a single line feed folds to a
space, and further breaks stay.
-/

namespace Chronicle.Yaml

structure Gap where
  blanks : List Char
  broken : Bool
  leading : List Char
  trailing : List Char
  deriving Repr

namespace Gap

def empty : Gap :=
  ⟨[], false, [], []⟩

/-- The gap after an escaped break: that break counts as seen, but adds
nothing. -/
def escapedBreak : Gap :=
  ⟨[], true, [], []⟩

/-- Blanks after a break are indentation. -/
def addBlank (gap : Gap) (character : Char) : Gap :=
  if gap.broken then gap else { gap with blanks := gap.blanks ++ [character] }

def addBreak (gap : Gap) (character : Char) : Gap :=
  if gap.broken then { gap with trailing := gap.trailing ++ [breakValue character] }
  else { blanks := [], broken := true, leading := [breakValue character], trailing := gap.trailing }

/-- What the gap adds to the scalar. -/
def folded (gap : Gap) : List Char :=
  if !gap.broken then gap.blanks
  else if gap.leading.head? = some '\n' then
    if gap.trailing.isEmpty then [' '] else gap.trailing
  else gap.leading ++ gap.trailing

example : (((empty.addBlank ' ').addBreak '\r').addBlank '\t').folded = [' '] ∧
    (((empty.addBreak '\n').addBreak '\n').addBreak '\u2028').folded = ['\n', '\u2028'] ∧
    escapedBreak.folded = [] := by
  decide

end Gap

/-- Reads a gap from the given state.  With a least column, a tab before that
column is an error once the line has been broken. -/
def readGap (leastColumn : Option Nat) (construct : String) (start : Mark) :
    List Char → Mark → Gap → Except Malformed (Gap × Cursor)
  | [], mark, gap => .ok (gap, ⟨[], mark⟩)
  | '\r' :: '\n' :: rest, mark, gap =>
      readGap leastColumn construct start rest (mark.nextLine 2) (gap.addBreak '\n')
  | character :: rest, mark, gap =>
      if isBlankMark character then
        if gap.broken ∧ character = '\t' ∧ leastColumn.any (fun least => mark.column < least) then
          .error ⟨"found a tab character that violates indentation", mark, some (construct, start)⟩
        else readGap leastColumn construct start rest (mark.next character) (gap.addBlank character)
      else if isBreak character then
        readGap leastColumn construct start rest (mark.nextLine character.utf8Size)
          (gap.addBreak character)
      else .ok (gap, ⟨character :: rest, mark⟩)

end Chronicle.Yaml
