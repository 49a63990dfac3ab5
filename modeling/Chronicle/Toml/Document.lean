import Chronicle.Toml.Node
import Chronicle.Toml.Number

/-!
# Whole TOML texts

A text is made of keys, values, and the lines that hold them.  The reader takes
one line after the other and enters it into the tables read so far; what breaks
a rule of the tables is refused at the start of its line.
-/

namespace Chronicle.Toml

/-! ## Keys -/

def isQuote (character : Char) : Bool :=
  character = '\x22' || character = '\x27'

def startsKey (rest : List Char) : Bool :=
  rest.head?.any fun character => isQuote character || isBareMark character

def bareName : Read String := do
  return String.ofList (← takeWhile isBareMark)

/-- One part of a dotted key. -/
def simpleKey : Read Key := do
  let start ← get
  let name ←
    if start.rest.head?.any isQuote then QuotedText.single
    else if startsKey start.rest then bareName
    else refuse (some .key)
  return ⟨name, ⟨start.offset, (← get).offset⟩⟩

/-- The parts of a dotted key behind its first one.  A dot without a part behind
it does not belong to the key. -/
def moreKeys : Nat → Read (List Key)
  | 0 => return []
  | fuel + 1 => do
      match (← get).rest with
      | '.' :: behind =>
          if startsKey (behind.dropWhile isBlank) then
            advance
            skipBlanks
            let key ← simpleKey
            skipBlanks
            return key :: (← moreKeys fuel)
          else return []
      | _ => return []

/-- A dotted key as its first parts and its last one. -/
def keyParts : Read (List Key × Key) := do
  skipBlanks
  let first ← simpleKey
  skipBlanks
  let rest ← moreKeys (← get).rest.length
  return ((first :: rest).dropLast, (first :: rest).getLast (List.cons_ne_nil first rest))

/-- How deep tables and arrays may be nested. -/
def depthLimit : Nat :=
  80

/-- A dotted key that leads no deeper than the limit. -/
def dottedKey : Read (List Key × Key) := do
  let start ← get
  let (path, key) ← keyParts
  if path.length + 1 < depthLimit then return (path, key)
  else refuseAt start none [] (some .tooDeep)

/-- The equals sign between a key and its value. -/
def equalsSign : Read Unit := do
  if !(← skip "=") then refuse none [.mark ".", .mark "="]

/-! ## Values -/

def startsNumber (character : Char) : Bool :=
  character.isDigit || Number.isSignMark character

/-- A value can start here.  A sign needs a digit, or the name of a value
without digits. -/
def startsValue (rest : List Char) : Bool :=
  match rest with
  | [] => false
  | character :: behind =>
      isQuote character || character.isDigit || character = '[' || character = '\x7b' ||
        character = 't' || character = 'f' || isSpecial rest ||
        (Number.isSignMark character && (behind.head?.any Char.isDigit || isSpecial behind))
where
  isSpecial (rest : List Char) : Bool :=
    "inf".toList.isPrefixOf rest || "nan".toList.isPrefixOf rest

/-- Texts are what is meant most often where no value starts. -/
def refuseValue {α : Type} (start : Cursor) : Read α :=
  refuseAt start (some .string) [.mark "\x22", .mark "\x27"]

/-- A word with a value of its own. -/
def word {α : Type} (text : String) (value : α) : Read α := do
  if ← skip text then return value else refuseValue (← get)

/-- Steps over a line break, which must come next.  Another character is stepped
over before it is refused. -/
def breakLine : Read Unit := do
  unless ← skipNewline do
    advance
    refuse none

/-- Blanks, comments and line breaks between the items of an array.  A comment
needs a break behind it. -/
def skipLines : Nat → Read Unit
  | 0 => return ()
  | fuel + 1 => do
      skipBlanks
      match ← peek? with
      | some character =>
          if character = '#' then
            skipComment
            breakLine
            skipLines fuel
          else if character = '\n' || character = '\r' then
            breakLine
            skipLines fuel
      | none => return ()

def skipAllLines : Read Unit := do
  skipLines ((← get).rest.length + 1)

/-- An item of an array with the lines around it.  Where no value starts, and
where the lines on either side are malformed, there is no item, and nothing is
read. -/
def arrayItem (item : Read Node) : Read (Option Node) := do
  let start ← get
  if ← attempt skipAllLines then
    if startsValue (← get).rest then
      let node ← item
      if ← attempt skipAllLines then return some node
  set start
  return none

/-- An array, behind its opening bracket.  One more comma may follow its
items. -/
def arrayBody (item : Read Node) : Read (List Node) := do
  let items ← separated (arrayItem item)
  unless items.isEmpty do
    let _ ← skip ","
  skipAllLines
  require "]" (some .array) [.mark "]"]
  return items

/-- A key with its value in braces. -/
structure Pair where
  path : List Key
  key : Key
  node : Node

/-- A pair in braces.  Where no key starts, and where the key leads deeper than
the limit, there is no pair, and nothing is read. -/
def bracedPair (item : Read Node) : Read (Option Pair) := do
  let start ← get
  if startsKey (start.rest.dropWhile isBlank) then
    let (path, key) ← keyParts
    if path.length + 1 < depthLimit then
      equalsSign
      skipBlanks
      let node ← item
      skipBlanks
      return some ⟨path, key, node⟩
  set start
  return none

def tableOfPairs (pairs : List Pair) : Except Violation Entries :=
  pairs.foldlM (fun entries pair =>
    Walk.bracedKey.add none pair.path pair.key pair.node .braces entries) []

/-- A table in braces, behind the opening one. -/
def bracedBody (item : Read Node) : Read Entries := do
  let start ← get
  let pairs ← separated (bracedPair item)
  skipBlanks
  match tableOfPairs pairs with
  | .error violation => refuseAt start none [] (some violation)
  | .ok entries =>
      require "\x7d" (some .inlineTable) [.mark "\x7d"]
      return entries

/-- A value that is neither an array nor a table. -/
def scalar (start : Cursor) (character : Char) : Read Node := do
  if isQuote character then
    let text ← QuotedText.read
    return .text ⟨start.offset, (← get).offset⟩ text
  else if startsNumber character then
    let numeral ← Number.read
    let span : Span := ⟨start.offset, (← get).offset⟩
    return match numeral with
      | .integer value => .integer span value
      | .float value => .float span value
      | .moment => .moment span
  else if character = '_' then refuseAt start (some .integer) [.leadingDigit]
  else if character = '.' then refuseAt start (some .float) [.leadingDigit]
  else
    let special : Decimal.Binary64 → Span → Node := fun value span => .float span value
    let node : Span → Node ←
      if character = 't' then word "true" fun span => .bool span true
      else if character = 'f' then word "false" fun span => .bool span false
      else if character = 'i' then word "inf" (special (Decimal.Binary64.infinity false))
      else if character = 'n' then word "nan" (special Decimal.Binary64.notANumber)
      else refuseValue start
    return node ⟨start.offset, (← get).offset⟩

/-- A value, nested no deeper than the given depth. -/
def value : Nat → Read Node
  | 0 => refuse none [] (some .tooDeep)
  | depth + 1 => do
      let start ← get
      match ← peek? with
      | none => refuse none
      | some character =>
          if character = '[' then
            if depth = 0 then refuse none [] (some .tooDeep)
            advance
            let items ← arrayBody (value depth)
            return .array ⟨start.offset, (← get).offset⟩ items
          else if character = '\x7b' then
            if depth = 0 then refuse none [] (some .tooDeep)
            advance
            let entries ← bracedBody (value depth)
            return .table .braces (some ⟨start.offset, (← get).offset⟩) entries
          else scalar start character

/-! ## Lines -/

/-- Enters a line into the tables; a broken rule is refused at the start of the
line. -/
def enter (start : Cursor) (construct : Option Construct) (outcome : Except Violation Draft) :
    Read Draft :=
  match outcome with
  | .ok draft => return draft
  | .error violation => refuseAt start construct [] (some violation)

/-- A key, an equals sign and a value. -/
def keyLine (draft : Draft) : Read Draft := do
  let start ← get
  let (path, key) ← dottedKey
  equalsSign
  skipBlanks
  let node ← value depthLimit
  finishLine none
  enter start none (draft.add path key node)

/-- Anything that is refused between the brackets of a header is refused as a
header, unless it has a name of its own. -/
def asHeader {α : Type} (read : Read α) : Read α := fun cursor =>
  match read cursor with
  | .ok result => .ok result
  | .error ⟨.malformed none expected violation, span⟩ =>
      .error ⟨.malformed (some .tableHeader) expected violation, span⟩
  | .error fault => .error fault

/-- A header in brackets, with the span from the first bracket to the last. -/
def header (opening closing : String) : Read ((List Key × Key) × Span) := do
  let start ← get
  advanceBy opening.length
  let keys ← dottedKey
  require closing none [.mark ".", .mark closing]
  let span : Span := ⟨start.offset, (← get).offset⟩
  finishLine none
  return (keys, span)

def headerLine (draft : Draft) : Read Draft := asHeader do
  let start ← get
  if start.rest.length < 2 then refuse none
  if ← isAt "[[" then
    let ((parents, key), span) ← header "[[" "]]"
    enter start none (draft.openElement parents key span)
  else
    let ((parents, key), span) ← header "[" "]"
    enter start none (draft.openTable parents key span)

/-- The lines up to the end of the text. -/
def documentLines : Nat → Draft → Read Draft
  | 0, draft => return draft
  | fuel + 1, draft => do
      skipBlanks
      match ← peek? with
      | none => return draft
      | some character =>
          if character = '#' then
            skipComment
            endLine none []
            documentLines fuel draft
          else if character = '\n' || character = '\r' then
            unless ← skipNewline do refuse none
            documentLines fuel draft
          else if character = '[' then documentLines fuel (← headerLine draft)
          else documentLines fuel (← keyLine draft)

/-- The entries of the root table.  A byte order mark at the start does not
count. -/
def document : Read Entries := do
  let start ← get
  let _ ← skip "\ufeff"
  let draft ← documentLines (start.rest.length + 1) Draft.empty
  match draft.finish with
  | .ok entries => return entries
  | .error violation => refuseAt start none [] (some violation)

def read (text : String) : Except Fault Entries :=
  document.run' (Cursor.ofText text)

end Chronicle.Toml
