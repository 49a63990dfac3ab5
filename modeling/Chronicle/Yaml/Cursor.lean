import Chronicle.Yaml.Mark

/-!
# Reading on in a YAML text

A cursor is the rest of a text with the place where it starts.  With the
character classes of YAML come the steps by which a reader moves on: one
character, a line break, or a run of characters of one class.
-/

namespace Chronicle.Yaml

/-! ## Character classes -/

def isBlankMark (character : Char) : Bool :=
  character = ' ' || character = '\t'

def isBreak (character : Char) : Bool :=
  character = '\n' || character = '\r' || character = '\u0085' || character = '\u2028' ||
    character = '\u2029'

/-- Letters and digits of ASCII, the hyphen and the underscore. -/
def isNameMark (character : Char) : Bool :=
  character.isAlphanum || character = '-' || character = '_'

def isDecimalMark (character : Char) : Bool :=
  character.isDigit

/-- A break in the value of a scalar: the two separators of Unicode stay, all
others are a line feed. -/
def breakValue (character : Char) : Char :=
  if character = '\u2028' || character = '\u2029' then character else '\n'

/-- The value of a hexadecimal digit. -/
def hexDigit? (character : Char) : Option Nat :=
  if '0' ≤ character ∧ character ≤ '9' then some (character.toNat - '0'.toNat)
  else if 'a' ≤ character ∧ character ≤ 'f' then some (character.toNat - 'a'.toNat + 10)
  else if 'A' ≤ character ∧ character ≤ 'F' then some (character.toNat - 'A'.toNat + 10)
  else none

/-! ## Cursors -/

structure Cursor where
  rest : List Char
  mark : Mark
  deriving Repr

namespace Cursor

def start (text : List Char) : Cursor :=
  ⟨text, Mark.start⟩

def peek? (cursor : Cursor) : Option Char :=
  cursor.rest.head?

def peekAt? (cursor : Cursor) (distance : Nat) : Option Char :=
  cursor.rest[distance]?

def isAt (cursor : Cursor) (character : Char) : Bool :=
  cursor.peek? == some character

def isAtEnd (cursor : Cursor) : Bool :=
  cursor.rest.isEmpty

/-- The character at a distance is a blank, a break, or missing. -/
def isGapAt (cursor : Cursor) (distance : Nat) : Bool :=
  match cursor.peekAt? distance with
  | none => true
  | some character => isBlankMark character || isBreak character

def isBlankAt (cursor : Cursor) (distance : Nat) : Bool :=
  (cursor.peekAt? distance).any isBlankMark

def isAtBreak (cursor : Cursor) : Bool :=
  cursor.peek?.any isBreak

/-- The line ends here: at a break or at the end of the text. -/
def isAtLineEnd (cursor : Cursor) : Bool :=
  cursor.peek?.all isBreak

/-- Three times the character at the start of a line, with a gap after it. -/
def isDocumentMark (cursor : Cursor) (character : Char) : Bool :=
  cursor.mark.column == 0 && cursor.rest.take 3 == List.replicate 3 character && cursor.isGapAt 3

def isDocumentBoundary (cursor : Cursor) : Bool :=
  cursor.isDocumentMark '-' || cursor.isDocumentMark '.'

/-! ## Steps -/

def advance (cursor : Cursor) : Cursor :=
  match cursor.rest with
  | [] => cursor
  | character :: rest => ⟨rest, cursor.mark.next character⟩

def advanceBy : Nat → Cursor → Cursor
  | 0, cursor => cursor
  | count + 1, cursor => advanceBy count cursor.advance

/-- Steps over one line break, if there is one here; a carriage return takes a
line feed with it. -/
def skipBreak (cursor : Cursor) : Cursor :=
  match cursor.rest with
  | '\r' :: '\n' :: rest => ⟨rest, cursor.mark.nextLine 2⟩
  | character :: rest =>
      if isBreak character then ⟨rest, cursor.mark.nextLine character.utf8Size⟩ else cursor
  | [] => cursor

/-- The value of the break that starts here. -/
def breakHere (cursor : Cursor) : List Char :=
  match cursor.peek? with
  | some character => if isBreak character then [breakValue character] else []
  | none => []

def skipRun (accepts : Char → Bool) : List Char → Mark → Cursor
  | [], mark => ⟨[], mark⟩
  | character :: rest, mark =>
      if accepts character then skipRun accepts rest (mark.next character) else ⟨character :: rest, mark⟩

/-- Steps over the longest run of accepted characters, none of which may be a
break. -/
def skipWhile (accepts : Char → Bool) (cursor : Cursor) : Cursor :=
  skipRun accepts cursor.rest cursor.mark

def takeWhile (accepts : Char → Bool) (cursor : Cursor) : List Char × Cursor :=
  (cursor.rest.takeWhile accepts, cursor.skipWhile accepts)

def skipBlanks : Cursor → Cursor :=
  skipWhile isBlankMark

/-- A byte order mark may start any line; it counts as one character of the
line. -/
def skipByteOrderMark (cursor : Cursor) : Cursor :=
  if cursor.mark.column = 0 ∧ cursor.isAt '\ufeff' then cursor.advance else cursor

/-- Steps to the end of the line if a comment starts here. -/
def skipComment (cursor : Cursor) : Cursor :=
  if cursor.isAt '#' then cursor.skipWhile fun character => !isBreak character else cursor

end Cursor

end Chronicle.Yaml
