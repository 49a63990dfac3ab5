import Chronicle.Yaml.Token
import Chronicle.Yaml.Token.Folding

/-!
# Plain scalars

A plain scalar is text without quotes.  It ends before a colon with a gap after
it, before a comment, at the boundary of a document, at a line that is not
indented enough, and inside a flow collection at a flow indicator.
-/

namespace Chronicle.Yaml.PlainScalar

def construct : String :=
  "while scanning a plain scalar"

def isFlowIndicator (character : Char) : Bool :=
  character = ',' || character = '[' || character = ']' || character = '{' || character = '}'

/-- A gap or the end of the text follows. -/
def startsGap : List Char → Bool
  | [] => true
  | character :: _ => isBlankMark character || isBreak character

/-- The characters up to the next gap or end of the scalar.  Inside a flow
collection a colon directly before an indicator is refused. -/
def readRun (inFlow : Bool) (start : Mark) :
    List Char → Mark → List Char → Except Malformed (List Char × Cursor)
  | [], mark, run => .ok (run.reverse, ⟨[], mark⟩)
  | character :: rest, mark, run =>
      if isBlankMark character || isBreak character then .ok (run.reverse, ⟨character :: rest, mark⟩)
      else if inFlow && character = ':' &&
          rest.head?.any (fun next => next = '?' || isFlowIndicator next) then
        .error ⟨"found unexpected ':'", mark, some (construct, start)⟩
      else if (character = ':' && startsGap rest) || (inFlow && isFlowIndicator character) then
        .ok (run.reverse, ⟨character :: rest, mark⟩)
      else readRun inFlow start rest (mark.next character) (character :: run)

/-- A scanned scalar; `endsLine` says that its last gap held a break, so that a
key may start next. -/
structure Result where
  token : Token
  cursor : Cursor
  endsLine : Bool

/-- Runs and gaps in turn.  Every run but the first is preceded by what its gap
folds to, and each round moves on, so the length of the text bounds the
rounds. -/
def readRuns (inFlow : Bool) (leastColumn : Nat) (start : Mark) :
    Nat → Cursor → List Char → Gap → Mark → Except Malformed (List Char × Mark × Cursor × Gap)
  | 0, cursor, text, gap, last => .ok (text, last, cursor, gap)
  | fuel + 1, cursor, text, gap, last =>
      if cursor.isDocumentBoundary || cursor.isAt '#' then .ok (text, last, cursor, gap)
      else do
        let (run, afterRun) ← readRun inFlow start cursor.rest cursor.mark []
        let (text, gap, last) :=
          if run.isEmpty then (text, gap, last)
          else (text ++ gap.folded ++ run, Gap.empty, afterRun.mark)
        if startsGap afterRun.rest && !afterRun.isAtEnd then
          let least := some leastColumn
          let (gap, afterGap) ← readGap least construct start afterRun.rest afterRun.mark gap
          if !inFlow && afterGap.mark.column < leastColumn then .ok (text, last, afterGap, gap)
          else readRuns inFlow leastColumn start fuel afterGap text gap last
        else .ok (text, last, afterRun, gap)

/-- The scalar must be indented to the least column on all its lines. -/
def scan (inFlow : Bool) (leastColumn : Nat) (cursor : Cursor) : Except Malformed Result := do
  let start := cursor.mark
  let (text, last, after, gap) ←
    readRuns inFlow leastColumn start (cursor.rest.length + 1) cursor [] Gap.empty start
  return ⟨⟨.scalar (String.ofList text) .plain, start, last⟩, after, gap.broken⟩

end Chronicle.Yaml.PlainScalar
