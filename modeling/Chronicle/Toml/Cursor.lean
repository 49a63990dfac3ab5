import Chronicle.Toml.Fault

/-!
# Reading on in a TOML text

A cursor is the rest of a text with the number of bytes before it, and readers
step through it.  A reader that refuses the text names the place where it
stopped.
-/

namespace Chronicle.Toml

structure Cursor where
  rest : List Char
  offset : Nat
  deriving Repr

namespace Cursor

def ofText (text : String) : Cursor :=
  ⟨text.toList, 0⟩

def advance (cursor : Cursor) : Cursor :=
  match cursor.rest with
  | [] => cursor
  | character :: rest => ⟨rest, cursor.offset + character.utf8Size⟩

/-- The span of the next character, which is empty at the end. -/
def span (cursor : Cursor) : Span :=
  ⟨cursor.offset, cursor.advance.offset⟩

def startsWith (cursor : Cursor) (text : List Char) : Bool :=
  text.isPrefixOf cursor.rest

end Cursor

/-! ## Readers -/

abbrev Read := StateT Cursor (Except Fault)

/-- Refuses the text at a place. -/
def refuseAt {α : Type} (cursor : Cursor) (construct : Option Construct)
    (expected : List Expected := []) (violation : Option Violation := none) : Read α :=
  throw ⟨.malformed construct expected violation, cursor.span⟩

/-- Refuses the text here. -/
def refuse {α : Type} (construct : Option Construct) (expected : List Expected := [])
    (violation : Option Violation := none) : Read α := do
  refuseAt (← get) construct expected violation

def peek? : Read (Option Char) := do
  return (← get).rest.head?

def isAt (text : String) : Read Bool := do
  return (← get).startsWith text.toList

def advance : Read Unit :=
  modify Cursor.advance

def advanceBy : Nat → Read Unit
  | 0 => return ()
  | count + 1 => do
      advance
      advanceBy count

/-- The longest run of accepted characters. -/
def takeWhile (accepts : Char → Bool) : Read (List Char) := do
  let run := (← get).rest.takeWhile accepts
  advanceBy run.length
  return run

/-- The longest run of accepted characters, but no more of them than the
limit. -/
def takeRun (accepts : Char → Bool) (limit : Nat) : Read (List Char) := do
  let run := ((← get).rest.take limit).takeWhile accepts
  advanceBy run.length
  return run

/-- Steps over the text if it comes next. -/
def skip (text : String) : Read Bool := do
  if ← isAt text then
    advanceBy text.toList.length
    return true
  else return false

/-- Steps over the text, which must come next. -/
def require (text : String) (construct : Option Construct) (expected : List Expected := []) :
    Read Unit := do
  unless ← skip text do refuse construct expected

/-- Whether the reader accepts what comes next.  If it does not, nothing is
read. -/
def attempt (read : Read Unit) : Read Bool := fun cursor =>
  match read cursor with
  | .ok (_, after) => .ok (true, after)
  | .error _ => .ok (false, cursor)

/-- The items behind the first one, each behind a comma.  A comma without an
item behind it is not read. -/
def moreItems {α : Type} (item : Read (Option α)) : Nat → Read (List α)
  | 0 => return []
  | fuel + 1 => do
      let start ← get
      if ← skip "," then
        match ← item with
        | some found => return found :: (← moreItems item fuel)
        | none => set start
      return []

/-- Items with commas between them, up to where no further item can be read. -/
def separated {α : Type} (item : Read (Option α)) : Read (List α) := do
  match ← item with
  | some first => return first :: (← moreItems item (← get).rest.length)
  | none => return []

/-! ## Blanks and lines -/

def isBlank (character : Char) : Bool :=
  character = ' ' || character = '\t'

/-- No control characters but the tab. -/
def isVisible (character : Char) : Bool :=
  character = '\t' || (character != '\x7f' && ' '.toNat ≤ character.toNat)

def skipBlanks : Read Unit := do
  let _ ← takeWhile isBlank

/-- Steps over a line feed, or over a carriage return with a line feed. -/
def skipNewline : Read Bool := do
  if ← skip "\n" then return true else skip "\r\n"

/-- Steps over a comment, without the end of its line. -/
def skipComment : Read Unit := do
  if ← isAt "#" then
    let _ ← takeWhile isVisible

/-- The end of a line or of the text must come next. -/
def endLine (construct : Option Construct) (expected : List Expected) : Read Unit := do
  unless ← skipNewline do
    if (← peek?).isSome then refuse construct expected

/-- Blanks and a comment behind something, and the end of the line. -/
def finishLine (construct : Option Construct) : Read Unit := do
  skipBlanks
  skipComment
  endLine construct [.newline, .mark "#"]

end Chronicle.Toml
