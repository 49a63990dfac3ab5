import Chronicle.Fault
import Chronicle.Text.Blank
import Chronicle.Text.Width

/-!
# Reports

A report shows a fault with the line of the source it was noticed in.  Lines and
columns count characters.  A label marks a span of characters: below its line if
the span lies within one line, and in the margin if it runs over several lines.
A span that the source does not hold is left out.
-/

namespace Chronicle.Report

/-! ## Lines of a source -/

/-- A line with its break, and the number of characters before it. -/
structure Line where
  offset : Nat
  text : List Char
  deriving Repr

def isSeparator (character : Char) : Bool :=
  ['\r', '\n', '\x0b', '\x0c', '\u0085', '\u2028', '\u2029'].contains character

/-- The texts of the lines, each with its break at its end; `line` is the
current one, reversed.  A carriage return and a line feed are one break. -/
def splitLines : List Char → List Char → List (List Char)
  | [], line => if line.isEmpty then [] else [line.reverse]
  | '\r' :: '\n' :: rest, line => ('\n' :: '\r' :: line).reverse :: splitLines rest []
  | character :: rest, line =>
      if isSeparator character then (character :: line).reverse :: splitLines rest []
      else splitLines rest (character :: line)

def placeLines : Nat → List (List Char) → List Line
  | _, [] => []
  | offset, text :: rest => ⟨offset, text⟩ :: placeLines (offset + text.length) rest

def lines (source : List Char) : List Line :=
  placeLines 0 (splitLines source [])

namespace Line

def size (line : Line) : Nat :=
  line.text.length

def stop (line : Line) : Nat :=
  line.offset + line.size

/-- The characters that are shown: blanks at the end are not. -/
def shown (line : Line) : List Char :=
  (line.text.reverse.dropWhile Text.isBlank).reverse

end Line

/-- The last line that starts at or before the offset, with its number counted
from zero.  The end of the source belongs to its last line. -/
def lineAt? (source : List Char) (offset : Nat) : Option (Nat × Line) :=
  if source.length < offset then none
  else
    let before := (lines source).takeWhile fun line => line.offset ≤ offset
    before.getLast?.map fun line => (before.length - 1, line)

/-- Line and column of an offset, counted from one. -/
def position? (source : List Char) (offset : Nat) : Option (Nat × Nat) :=
  (lineAt? source offset).map fun found => (found.1 + 1, offset - found.2.offset + 1)

/-! ## Spans -/

/-- A span of characters with its first and last line.  The end is not part of
the span. -/
structure Span where
  start : Nat
  stop : Nat
  firstLine : Nat
  lastLine : Nat
  deriving Repr

def Span.last (span : Span) : Nat :=
  max (span.stop - 1) span.start

def Span.of? (source : List Char) (start stop : Nat) : Option Span := do
  let (firstLine, _) ← lineAt? source start
  let (lastLine, _) ← if stop ≤ start then lineAt? source start else lineAt? source (stop - 1)
  return ⟨start, stop, firstLine, lastLine⟩

/-! ## Drawing -/

/-- The character to draw at a column and how many columns it takes; a tab
reaches to the next multiple of four. -/
def drawn (column : Nat) (character : Char) : Char × Nat :=
  if character = '\t' then (' ', (column / 4 + 1) * 4 - column)
  else if Text.isBlank character then (' ', 1)
  else (character, Text.columns character)

def drawnLine (line : Line) : List Char :=
  line.shown.zipIdx.flatMap fun (character, column) =>
    let (symbol, width) := drawn column character
    if symbol = ' ' then List.replicate width ' ' else [symbol]

/-- One symbol for each of the first columns of a line, drawn as wide as the
character above it; further columns of a wide character take the second
symbol. -/
def drawnBelow (line : Line) (count : Nat) (symbolsAt : Nat → Char × Char) : List Char :=
  (List.range count).flatMap fun column =>
    let width := (line.shown[column]?).elim 1 fun character => (drawn column character).2
    let (first, further) := symbolsAt column
    (List.replicate width further).set 0 first

/-- What the lines of a report share: the width of line numbers and the message
of the label. -/
structure Frame where
  numberWidth : Nat
  message : List Char

namespace Frame

def numbered (frame : Frame) (index : Nat) : List Char :=
  let number := (toString (index + 1)).toList
  ' ' :: List.replicate (frame.numberWidth - number.length) ' ' ++ number ++ [' ', '│', ' ']

def unnumbered (frame : Frame) (bar : Char) : List Char :=
  List.replicate (frame.numberWidth + 2) ' ' ++ [bar, ' ']

/-- The mark below a span of one line: the span is underlined, and a pointer at
its middle leads to the message. -/
def inlineRows (frame : Frame) (span : Span) (index : Nat) (line : Line) : List (List Char) :=
  let start := span.start - line.offset
  let stop := span.stop - line.offset
  let pointer := max ((span.start + span.stop) / 2) span.start - line.offset
  let underline := fun column : Nat =>
    let isUnder := start ≤ column ∧ column < stop
    if column = pointer then if isUnder then ('┬', '─') else ('│', ' ')
    else if isUnder then ('─', '─')
    else (' ', ' ')
  let arrow := fun column : Nat =>
    if column = pointer then ('╰', '─') else if pointer < column then ('─', '─') else (' ', ' ')
  [frame.numbered index ++ drawnLine line,
    frame.unnumbered '│' ++ drawnBelow line (stop + 2) underline,
    frame.unnumbered '│' ++ drawnBelow line (stop + 2) arrow ++ ' ' :: frame.message]

/-- The rows of a line that a span of several lines starts in, runs through or
ends in.  A last line whose end lies before the end of the span is one that it
runs through.  Of these only the first is drawn, as a gap. -/
def multilineRows (frame : Frame) (span : Span) (index : Nat) (line : Line) : List (List Char) :=
  let count := line.size + 2
  if index = span.firstLine then
    [frame.numbered index ++ ['╭', '─', '▶', ' '] ++ drawnLine line]
  else if index = span.lastLine ∧ span.last < line.stop then
    [frame.numbered index ++ ['├', '─', '▶', ' '] ++ drawnLine line,
      frame.unnumbered '│' ++ ['│', ' ', ' ', ' '] ++ drawnBelow line count (fun _ => (' ', ' ')),
      frame.unnumbered '│' ++ ['╰', '─', '─', '─'] ++
        drawnBelow line count (fun _ => ('─', '─')) ++ ' ' :: frame.message]
  else if index = span.firstLine + 1 then [frame.unnumbered '┆' ++ ['┆', ' ', ' ', ' ']]
  else []

/-- A span that does not end within its line has no mark. -/
def rows (frame : Frame) (span : Span) (index : Nat) (line : Line) : List (List Char) :=
  if span.firstLine < span.lastLine then frame.multilineRows span index line
  else if span.stop ≤ line.stop then frame.inlineRows span index line
  else [frame.unnumbered '│']

end Frame

/-- The report of one message at one span. -/
def rowsOf (source : List Char) (filename message : String) (start stop : Nat) :
    List (List Char) :=
  let header := ("Error: " ++ message).toList
  match Span.of? source start stop, position? source start with
  | some span, some (lineNumber, column) =>
      let frame : Frame := ⟨(toString (span.lastLine + 1)).length, message.toList⟩
      let indent := List.replicate (frame.numberWidth + 2) ' '
      let place := s!"[{filename}:{lineNumber}:{column}]"
      let covered := (lines source).zipIdx.filter fun (_, index) =>
        decide (span.firstLine ≤ index ∧ index ≤ span.lastLine)
      [header, indent ++ ['╭', '─'] ++ place.toList, indent ++ ['│']] ++
        covered.flatMap (fun (line, index) => frame.rows span index line) ++
        [List.replicate (frame.numberWidth + 2) '─' ++ ['╯']]
  | _, _ => [header]

end Chronicle.Report

namespace Chronicle.Fault

/-- How many bytes the character at a byte offset takes; none at the end and
between two bytes of one character. -/
def widthAt : List Char → Nat → Nat
  | [], _ => 0
  | character :: _, 0 => character.utf8Size
  | character :: rest, offset => if offset < character.utf8Size then 0
      else widthAt rest (offset - character.utf8Size)

/-- The fault with the source around its offset, or its text alone if the root
has no offset.  The label starts at the offset, within the source, and is as
wide as the character that the offset counts bytes to. -/
def report (fault : Fault) (source filename : String) : String :=
  match fault.root with
  | .load _ _ (some offset) =>
      let start := min offset source.utf8ByteSize
      let stop := start + widthAt source.toList start
      let rows := Report.rowsOf source.toList filename fault.root.message start stop
      String.ofList (rows.flatMap fun row => row ++ ['\n'])
  | _ => fault.message

end Chronicle.Fault
