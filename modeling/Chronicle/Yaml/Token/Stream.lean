import Chronicle.Yaml.Readable
import Chronicle.Yaml.Token.BlockScalar
import Chronicle.Yaml.Token.PlainScalar
import Chronicle.Yaml.Token.Property
import Chronicle.Yaml.Token.QuotedScalar

/-!
# The stream of tokens

Indentation opens and closes block collections.  A token that may turn out to be
a key without its indicator is remembered, and when its colon comes the missing
tokens are put in before it; until then the tokens from it on wait.  A fault
ends the stream, and the tokens that were waiting are lost.
-/

namespace Chronicle.Yaml

/-- A place where a key may have started: the number of its token, and whether a
key must stand there. -/
structure PossibleKey where
  number : Nat
  required : Bool
  mark : Mark
  deriving Repr

/-- The state between two tokens.  `refusal` lies behind the characters of the
cursor.  `released` tokens have left the queue `waiting`; there is one possible
key for the block level and one for every open flow collection, the innermost
first. -/
structure Scanner where
  cursor : Cursor
  refusal : Option Refusal
  indent : Int
  outerIndents : List Int
  key : Option PossibleKey
  outerKeys : List (Option PossibleKey)
  keyAllowed : Bool
  released : Nat
  waiting : List Token
  ended : Bool

namespace Scanner

def inFlow (scanner : Scanner) : Bool :=
  !scanner.outerKeys.isEmpty

def mark (scanner : Scanner) : Mark :=
  scanner.cursor.mark

/-- The stream starts with a token of its own, at which a key may start. -/
def start (text : Readable) : Scanner :=
  { cursor := Cursor.start text.characters
    refusal := text.refusal
    indent := -1
    outerIndents := []
    key := none
    outerKeys := []
    keyAllowed := true
    released := 0
    waiting := [⟨.streamStart, Mark.start, Mark.start⟩]
    ended := false }

/-! ## The queue -/

def enqueue (token : Token) (scanner : Scanner) : Scanner :=
  { scanner with waiting := scanner.waiting ++ [token] }

/-- Puts a token before the waiting token of the given number. -/
def insertBefore (number : Nat) (token : Token) (scanner : Scanner) : Scanner :=
  { scanner with waiting := scanner.waiting.insertIdx (number - scanner.released) token }

/-- Enqueues an indicator of the given width and steps over it. -/
def indicator (kind : TokenKind) (width : Nat) (scanner : Scanner) : Scanner :=
  let after := scanner.cursor.advanceBy width
  { scanner with cursor := after }.enqueue ⟨kind, scanner.mark, after.mark⟩

def take (result : Token × Cursor) (scanner : Scanner) : Scanner :=
  { scanner with cursor := result.2 }.enqueue result.1

def allowKey (allowed : Bool) (scanner : Scanner) : Scanner :=
  { scanner with keyAllowed := allowed }

/-! ## Indentation -/

/-- Opens a block collection if the column lies to the right of the indentation.
With a number the token goes before the waiting token of that number. -/
def rollIndent (column : Nat) (number : Option Nat) (kind : TokenKind) (place : Mark)
    (scanner : Scanner) : Scanner :=
  if scanner.inFlow then scanner
  else if scanner.indent < column then
    let opened :=
      { scanner with indent := column, outerIndents := scanner.indent :: scanner.outerIndents }
    let token : Token := ⟨kind, place, place⟩
    match number with
    | some number => opened.insertBefore number token
    | none => opened.enqueue token
  else scanner

/-- Closes the block collections that lie to the right of the column. -/
def closeIndents (column : Int) : List Int → Scanner → Scanner
  | [], scanner => scanner
  | outer :: rest, scanner =>
      if column < scanner.indent then
        closeIndents column rest
          ({ scanner with indent := outer, outerIndents := rest }.enqueue
            ⟨.blockEnd, scanner.mark, scanner.mark⟩)
      else scanner

def unrollIndent (column : Int) (scanner : Scanner) : Scanner :=
  if scanner.inFlow then scanner else closeIndents column scanner.outerIndents scanner

/-! ## Possible keys -/

def missingColon (scanner : Scanner) (key : PossibleKey) : Malformed :=
  ⟨"could not find expected ':'", scanner.mark, some ("while scanning a simple key", key.mark)⟩

/-- A key ends on its line and within 1024 bytes. -/
def isStale (scanner : Scanner) (key : PossibleKey) : Bool :=
  key.mark.line < scanner.mark.line || key.mark.index + 1024 < scanner.mark.index

def dropStaleKey (scanner : Scanner) (key : Option PossibleKey) :
    Except Malformed (Option PossibleKey) :=
  match key with
  | some possible =>
      if scanner.isStale possible then
        if possible.required then .error (scanner.missingColon possible) else .ok none
      else .ok key
  | none => .ok none

/-- Forgets the keys that can no longer come about, the outermost first. -/
def dropStaleKeys (scanner : Scanner) : Except Malformed Scanner := do
  let outerKeys ← scanner.outerKeys.reverse.mapM scanner.dropStaleKey
  let key ← scanner.dropStaleKey scanner.key
  return { scanner with key := key, outerKeys := outerKeys.reverse }

def removeKey (scanner : Scanner) : Except Malformed Scanner :=
  match scanner.key with
  | some key =>
      if key.required then .error (scanner.missingColon key)
      else .ok { scanner with key := none }
  | none => .ok scanner

/-- Remembers that a key may start with the next token.  In a block a key must
start at the indentation. -/
def saveKey (scanner : Scanner) : Except Malformed Scanner := do
  if scanner.keyAllowed then
    let required := !scanner.inFlow && scanner.indent == (scanner.mark.column : Int)
    let number := scanner.released + scanner.waiting.length
    return { ← scanner.removeKey with key := some ⟨number, required, scanner.mark⟩ }
  else return scanner

def isHeld (scanner : Scanner) : Bool :=
  (scanner.key :: scanner.outerKeys).any fun key =>
    key.any fun possible => possible.number == scanner.released

/-- Moves tokens out of the queue until it is empty or its first token may be a
key. -/
def release : List Token → Scanner → List Token → List Token × Scanner
  | [], scanner, out => (out, { scanner with waiting := [] })
  | token :: rest, scanner, out =>
      if scanner.isHeld then (out, { scanner with waiting := token :: rest })
      else release rest { scanner with released := scanner.released + 1 } (token :: out)

/-! ## Indicators -/

def openFlow (kind : TokenKind) (scanner : Scanner) : Except Malformed Scanner := do
  let saved ← scanner.saveKey
  return ({ saved with key := none, outerKeys := saved.key :: saved.outerKeys }.allowKey
    true).indicator kind 1

/-- A closing indicator outside of all flow collections is left to the
grammar. -/
def closeFlow (kind : TokenKind) (scanner : Scanner) : Except Malformed Scanner := do
  let removed ← scanner.removeKey
  let closed := match removed.outerKeys with
    | outer :: rest => { removed with key := outer, outerKeys := rest }
    | [] => removed
  return (closed.allowKey false).indicator kind 1

def flowEntry (scanner : Scanner) : Except Malformed Scanner := do
  return ((← scanner.removeKey).allowKey true).indicator .flowEntry 1

/-- Inside a flow collection the indicator is left to the grammar. -/
def blockEntry (scanner : Scanner) : Except Malformed Scanner := do
  if !scanner.inFlow && !scanner.keyAllowed then
    throw ⟨"block sequence entries are not allowed in this context", scanner.mark, none⟩
  let opened :=
    scanner.rollIndent scanner.mark.column none .blockSequenceStart scanner.mark
  return ((← opened.removeKey).allowKey true).indicator .blockEntry 1

def keyIndicator (scanner : Scanner) : Except Malformed Scanner := do
  if !scanner.inFlow && !scanner.keyAllowed then
    throw ⟨"mapping keys are not allowed in this context", scanner.mark, none⟩
  let opened := scanner.rollIndent scanner.mark.column none .blockMappingStart scanner.mark
  return ((← opened.removeKey).allowKey !scanner.inFlow).indicator .key 1

/-- The colon makes the remembered token a key; without one it belongs to a key
with an indicator. -/
def valueIndicator (scanner : Scanner) : Except Malformed Scanner := do
  match scanner.key with
  | some key =>
      let keyed := scanner.insertBefore key.number ⟨.key, key.mark, key.mark⟩
      let opened :=
        keyed.rollIndent key.mark.column (some key.number) .blockMappingStart key.mark
      return ({ opened with key := none }.allowKey false).indicator .value 1
  | none =>
      if !scanner.inFlow && !scanner.keyAllowed then
        throw ⟨"mapping values are not allowed in this context", scanner.mark, none⟩
      let opened := scanner.rollIndent scanner.mark.column none .blockMappingStart scanner.mark
      return (opened.allowKey !scanner.inFlow).indicator .value 1

/-! ## Larger tokens -/

/-- Nothing indented and no key goes on past a directive or a boundary of a
document. -/
def leaveDocument (scanner : Scanner) : Except Malformed Scanner := do
  return (← (scanner.unrollIndent (-1)).removeKey).allowKey false

def directive (scanner : Scanner) : Except Malformed Scanner := do
  let left ← scanner.leaveDocument
  return left.take (← Property.scanDirective left.cursor)

def documentBoundary (kind : TokenKind) (scanner : Scanner) : Except Malformed Scanner := do
  return (← scanner.leaveDocument).indicator kind 3

/-- The end counts as a line of its own. -/
def streamEnd (scanner : Scanner) : Except Malformed Scanner := do
  let mark := scanner.mark
  let lineStart : Mark := if mark.column = 0 then mark else ⟨mark.index, mark.line + 1, 0⟩
  let left ← { scanner with cursor := ⟨scanner.cursor.rest, lineStart⟩ }.leaveDocument
  return { left with ended := true }.enqueue ⟨.streamEnd, lineStart, lineStart⟩

/-- A token at which a key may start, and directly after which none may. -/
def keyed (scan : Cursor → Except Malformed (Token × Cursor)) (scanner : Scanner) :
    Except Malformed Scanner := do
  let saved := (← scanner.saveKey).allowKey false
  return saved.take (← scan saved.cursor)

def plainScalar (scanner : Scanner) : Except Malformed Scanner := do
  let saved := (← scanner.saveKey).allowKey false
  let result ← PlainScalar.scan saved.inFlow (saved.indent + 1).toNat saved.cursor
  let after := saved.take (result.token, result.cursor)
  return if result.endsLine then after.allowKey true else after

def blockScalar (literal : Bool) (scanner : Scanner) : Except Malformed Scanner := do
  let removed := (← scanner.removeKey).allowKey true
  return removed.take (← BlockScalar.scan literal removed.indent removed.cursor)

/-! ## Stepping -/

/-- Steps over blanks, comments and breaks, and over a byte order mark at the
start of a line.  In a block a tab may not stand where a key may start, and
after a break a key may start. -/
def skipToToken : Nat → Scanner → Scanner
  | 0, scanner => scanner
  | fuel + 1, scanner =>
      let tabsAllowed := scanner.inFlow || !scanner.keyAllowed
      let atText := (scanner.cursor.skipByteOrderMark.skipWhile fun character =>
        character = ' ' || (tabsAllowed && character = '\t')).skipComment
      if atText.isAtBreak then
        skipToToken fuel
          { scanner with
            cursor := atText.skipBreak
            keyAllowed := scanner.keyAllowed || !scanner.inFlow }
      else { scanner with cursor := atText }

def isIndicator (character : Char) : Bool :=
  ['-', '?', ':', ',', '[', ']', '{', '}', '#', '&', '*', '!', '|', '>', '\x27', '\x22', '%', '@',
    '\x60'].contains character

/-- A plain scalar may start with an indicator that is not one here. -/
def startsPlainScalar (inFlow : Bool) (cursor : Cursor) : Bool :=
  (!cursor.isGapAt 0 && !cursor.peek?.any isIndicator) ||
    (cursor.isAt '-' && !cursor.isBlankAt 1) ||
    (!inFlow && (cursor.isAt '?' || cursor.isAt ':') && !cursor.isGapAt 1)

/-- Reads the token that starts at the cursor. -/
def dispatch (scanner : Scanner) : Except Malformed Scanner :=
  let cursor := scanner.cursor
  let inFlow := scanner.inFlow
  match cursor.peek? with
  | none => scanner.streamEnd
  | some character =>
      if character = '%' ∧ cursor.mark.column = 0 then scanner.directive
      else if cursor.isDocumentMark '-' then scanner.documentBoundary .documentStart
      else if cursor.isDocumentMark '.' then scanner.documentBoundary .documentEnd
      else if character = '[' then scanner.openFlow .flowSequenceStart
      else if character = '{' then scanner.openFlow .flowMappingStart
      else if character = ']' then scanner.closeFlow .flowSequenceEnd
      else if character = '}' then scanner.closeFlow .flowMappingEnd
      else if character = ',' then scanner.flowEntry
      else if character = '-' ∧ cursor.isGapAt 1 then scanner.blockEntry
      else if character = '?' ∧ (inFlow ∨ cursor.isGapAt 1) then scanner.keyIndicator
      else if character = ':' ∧ (inFlow ∨ cursor.isGapAt 1) then scanner.valueIndicator
      else if character = '*' then scanner.keyed Property.scanAlias
      else if character = '&' then scanner.keyed Property.scanAnchor
      else if character = '!' then scanner.keyed (Property.scanTag inFlow)
      else if character = '|' ∧ !inFlow then scanner.blockScalar true
      else if character = '>' ∧ !inFlow then scanner.blockScalar false
      else if character = '\x27' then scanner.keyed (QuotedScalar.scan .single)
      else if character = '\x22' then scanner.keyed (QuotedScalar.scan .double)
      else if startsPlainScalar inFlow cursor then scanner.plainScalar
      else
        .error
          ⟨"found character that cannot start any token", cursor.mark,
            some ("while scanning for the next token", cursor.mark)⟩

/-- So many characters must be left if the text goes on where it cannot be
read. -/
def demand (count : Nat) (scanner : Scanner) : Except Malformed Unit :=
  match scanner.refusal with
  | some refusal =>
      if (scanner.cursor.rest.take count).length < count then .error refusal.fault else .ok ()
  | none => .ok ()

/-- A fault at the end of what can be read is the fault of what follows. -/
def behind (scanner : Scanner) (fault : Malformed) : Malformed :=
  match scanner.refusal with
  | some refusal => if refusal.offset ≤ fault.place.index then refusal.fault else fault
  | none => fault

/-- Adds the next token to the queue, behind the ends of collections that its
column closes.  Four characters tell every kind of token, and one behind a token
tells its end. -/
def step (scanner : Scanner) : Except Malformed Scanner := do
  let atToken := skipToToken (scanner.cursor.rest.length + 1) scanner
  atToken.demand 1
  let current ← atToken.dropStaleKeys
  let indented := current.unrollIndent current.mark.column
  indented.demand 4
  let next ← indented.dispatch.mapError indented.behind
  next.demand 1
  next.dropStaleKeys

/-- Steps until the end of the stream; every step but the last reads a
character, so the length of the text bounds the steps. -/
def run : Nat → Scanner → List Token → List Token × Option Malformed
  | 0, _, out => (out.reverse, none)
  | fuel + 1, scanner, out =>
      let (out, scanner) := release scanner.waiting scanner out
      if scanner.ended then (out.reverse, none)
      else
        match scanner.step with
        | .ok next => run fuel next out
        | .error fault => (out.reverse, some fault)

end Scanner

/-- The tokens that can be read, and the fault that ended them. -/
def tokens (text : List Char) : List Token × Option Malformed :=
  Scanner.run (text.length + 3) (Scanner.start (Readable.ofText text)) []

end Chronicle.Yaml
