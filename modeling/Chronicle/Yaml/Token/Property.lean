import Chronicle.Yaml.Fault
import Chronicle.Yaml.Cursor
import Chronicle.Yaml.Token

/-!
# Node properties and directives

These are anchors, aliases, tags, and the lines that start with a percent sign.
-/

namespace Chronicle.Yaml.Property

/-! ## Anchors and aliases -/

def endsName (cursor : Cursor) : Bool :=
  cursor.isGapAt 0 ||
    cursor.peek?.any fun character =>
      ['?', ':', ',', ']', '}', '%', '@', '\x60'].contains character

/-- A name behind its indicator, made a token by `build`. -/
def scanName (construct : String) (build : String → TokenKind) (cursor : Cursor) :
    Except Malformed (Token × Cursor) :=
  let start := cursor.mark
  let (name, after) := cursor.advance.takeWhile isNameMark
  if name.isEmpty || !endsName after then
    .error
      ⟨"did not find expected alphabetic or numeric character", after.mark,
        some (construct, start)⟩
  else .ok (⟨build (String.ofList name), start, after.mark⟩, after)

def scanAnchor : Cursor → Except Malformed (Token × Cursor) :=
  scanName "while scanning an anchor" .anchor

def scanAlias : Cursor → Except Malformed (Token × Cursor) :=
  scanName "while scanning an alias" .alias

/-! ## Tags -/

/-- Where a tag stands: in a node or in a directive, which decides the words of
its errors. -/
inductive TagPlace
  | node
  | directive
  deriving DecidableEq, Repr

def TagPlace.parsing : TagPlace → String
  | .node => "while parsing a tag"
  | .directive => "while parsing a %TAG directive"

def TagPlace.scanning : TagPlace → String
  | .node => "while scanning a tag"
  | .directive => "while scanning a tag directive"

/-- Letters, digits and the marks of a resource identifier. -/
def isUriMark (character : Char) : Bool :=
  isNameMark character ||
    [';', '/', '?', ':', '@', '&', '=', '+', '$', '.', '%', '!', '~', '*', '\x27', '(', ')'].contains
      character

def isVerbatimMark (character : Char) : Bool :=
  isUriMark character || character = ',' || character = '[' || character = ']'

/-- How many bytes a character has whose first byte is this one. -/
def widthOfFirstByte? (octet : Nat) : Option Nat :=
  if octet < 0x80 then some 1
  else if 0xC0 ≤ octet ∧ octet < 0xE0 then some 2
  else if 0xE0 ≤ octet ∧ octet < 0xF0 then some 3
  else if 0xF0 ≤ octet ∧ octet < 0xF8 then some 4
  else none

/-- One escaped byte: a percent sign and two hexadecimal digits. -/
def readOctet (place : TagPlace) (start : Mark) (cursor : Cursor) :
    Except Malformed (Nat × Cursor) :=
  match cursor.rest with
  | '%' :: high :: low :: _ =>
      match hexDigit? high, hexDigit? low with
      | some highValue, some lowValue => .ok (16 * highValue + lowValue, cursor.advanceBy 3)
      | _, _ =>
          .error ⟨"did not find URI escaped octet", cursor.mark, some (place.parsing, start)⟩
  | _ => .error ⟨"did not find URI escaped octet", cursor.mark, some (place.parsing, start)⟩

/-- The bytes of a character after its first one. -/
def readTrailingOctets (place : TagPlace) (start : Mark) :
    Nat → Cursor → List Nat → Except Malformed (List Nat × Cursor)
  | 0, cursor, octets => .ok (octets, cursor)
  | count + 1, cursor, octets => do
      let (octet, after) ← readOctet place start cursor
      if octet < 0x80 ∨ 0xC0 ≤ octet then
        throw
          ⟨"found an incorrect trailing UTF-8 octet", cursor.mark, some (place.parsing, start)⟩
      readTrailingOctets place start count after (octets ++ [octet])

/-- The character that a sequence of escaped bytes stands for, if there is
one. -/
def readEscape (place : TagPlace) (start : Mark) (cursor : Cursor) :
    Except Malformed (Option Char × Cursor) := do
  let (first, after) ← readOctet place start cursor
  match widthOfFirstByte? first with
  | none =>
      throw ⟨"found an incorrect leading UTF-8 octet", cursor.mark, some (place.parsing, start)⟩
  | some width =>
      let (trailing, after) ← readTrailingOctets place start (width - 1) after []
      let leading :=
        if width = 1 then first
        else if width = 2 then first - 0xC0
        else if width = 3 then first - 0xE0
        else first - 0xF0
      let codePoint := trailing.foldl (fun value octet => 64 * value + (octet - 0x80)) leading
      return (Tag.character? width codePoint, after)

/-- The identifier that starts here; every round reads a character, so the
length of the text bounds the rounds. -/
def readUri (place : TagPlace) (accepts : Char → Bool) (start : Mark) :
    Nat → Cursor → List (Option Char) → Except Malformed (List (Option Char) × Cursor)
  | 0, cursor, uri => .ok (uri, cursor)
  | fuel + 1, cursor, uri =>
      match cursor.peek? with
      | some character =>
          if character = '%' then do
            let (decoded, after) ← readEscape place start cursor
            readUri place accepts start fuel after (uri ++ [decoded])
          else if accepts character then
            readUri place accepts start fuel cursor.advance (uri ++ [some character])
          else .ok (uri, cursor)
      | none => .ok (uri, cursor)

/-- The identifier behind what was read of the tag before; both together may not
be empty. -/
def scanUri (place : TagPlace) (accepts : Char → Bool) (start : Mark) (head : List Char)
    (cursor : Cursor) : Except Malformed (Tag × Cursor) := do
  let (uri, after) ← readUri place accepts start (cursor.rest.length + 1) cursor []
  if head.isEmpty && after.mark.index = cursor.mark.index then
    throw ⟨"did not find expected tag URI", after.mark, some (place.parsing, start)⟩
  return (Tag.ofRead ((head.drop 1).map some ++ uri), after)

/-- A handle: an exclamation mark, a name, and a second exclamation mark if
there is one. -/
def scanHandle (place : TagPlace) (start : Mark) (cursor : Cursor) :
    Except Malformed (List Char × Cursor) := do
  if !cursor.isAt '!' then
    throw ⟨"did not find expected '!'", cursor.mark, some (place.scanning, start)⟩
  let (name, after) := cursor.advance.takeWhile isNameMark
  if after.isAt '!' then return ('!' :: name ++ ['!'], after.advance)
  if place = .directive ∧ !name.isEmpty then
    throw ⟨"did not find expected '!'", after.mark, some ("while parsing a tag directive", start)⟩
  return ('!' :: name, after)

/-- A tag in angle brackets, or a handle with a suffix.  What looked like a
handle without a second mark is the start of a suffix of the primary handle. -/
def scanTagName (start : Mark) (cursor : Cursor) : Except Malformed (TagName × Cursor) := do
  if cursor.peekAt? 1 = some '<' then
    let (suffix, after) ← scanUri .node isVerbatimMark start [] (cursor.advanceBy 2)
    if !after.isAt '>' then
      throw ⟨"did not find the expected '>'", after.mark, some ("while scanning a tag", start)⟩
    return (⟨"", suffix⟩, after.advance)
  else
    let (handle, after) ← scanHandle .node start cursor
    if 1 < handle.length ∧ handle.getLast? = some '!' then
      let (suffix, after) ← scanUri .node isUriMark start [] after
      return (⟨String.ofList handle, suffix⟩, after)
    else
      let (suffix, after) ← scanUri .node isUriMark start handle after
      return (if suffix.isEmpty then ⟨"", Tag.ofText "!"⟩ else ⟨"!", suffix⟩, after)

/-- A tag ends at a gap, or inside a flow collection at a comma. -/
def scanTag (inFlow : Bool) (cursor : Cursor) : Except Malformed (Token × Cursor) := do
  let start := cursor.mark
  let (name, after) ← scanTagName start cursor
  if !(inFlow && after.isAt ',') && !after.isGapAt 0 then
    throw
      ⟨"did not find expected whitespace or line break", after.mark,
        some ("while scanning a tag", start)⟩
  return (⟨.tag name, start, after.mark⟩, after)

/-! ## Directives -/

def directive : String :=
  "while scanning a directive"

def versionDirective : String :=
  "while scanning a %YAML directive"

def tagDirective : String :=
  "while scanning a %TAG directive"

/-- At most nine digits. -/
def scanVersionNumber (start : Mark) (cursor : Cursor) : Except Malformed (Nat × Cursor) := do
  let (digits, after) := cursor.takeWhile isDecimalMark
  if digits.isEmpty then
    throw ⟨"did not find expected version number", cursor.mark, some (versionDirective, start)⟩
  if 9 < digits.length then
    throw
      ⟨"found extremely long version number", (cursor.advanceBy 9).mark,
        some (versionDirective, start)⟩
  let number := digits.foldl (fun value digit => 10 * value + (digit.toNat - '0'.toNat)) 0
  return (number, after)

def scanVersion (start : Mark) (cursor : Cursor) : Except Malformed (TokenKind × Cursor) := do
  let (major, cursor) ← scanVersionNumber start cursor.skipBlanks
  if !cursor.isAt '.' then
    throw
      ⟨"did not find expected digit or '.' character", cursor.mark,
        some (versionDirective, start)⟩
  let (minor, cursor) ← scanVersionNumber start cursor.advance
  return (.versionDirective major minor, cursor)

def scanTagDirective (start : Mark) (cursor : Cursor) :
    Except Malformed (TokenKind × Cursor) := do
  let (handle, cursor) ← scanHandle .directive start cursor.skipBlanks
  if !cursor.isBlankAt 0 then
    throw ⟨"did not find expected whitespace", cursor.mark, some (tagDirective, start)⟩
  let (expansion, cursor) ← scanUri .directive isVerbatimMark start [] cursor.skipBlanks
  if !cursor.isGapAt 0 then
    throw
      ⟨"did not find expected whitespace or line break", cursor.mark, some (tagDirective, start)⟩
  return (.tagDirective (String.ofList handle) expansion, cursor)

def scanDirective (cursor : Cursor) : Except Malformed (Token × Cursor) := do
  let start := cursor.mark
  let (name, afterName) := cursor.advance.takeWhile isNameMark
  if name.isEmpty then
    throw ⟨"could not find expected directive name", afterName.mark, some (directive, start)⟩
  if !afterName.isGapAt 0 then
    throw ⟨"found unexpected non-alphabetical character", afterName.mark, some (directive, start)⟩
  let (kind, after) ←
    if name = "YAML".toList then scanVersion start afterName
    else if name = "TAG".toList then scanTagDirective start afterName
    else throw ⟨"found unknown directive name", afterName.mark, some (directive, start)⟩
  let lineEnd := after.skipBlanks.skipComment
  if !lineEnd.isAtLineEnd then
    throw ⟨"did not find expected comment or line break", lineEnd.mark, some (directive, start)⟩
  return (⟨kind, start, after.mark⟩, lineEnd.skipBreak)

end Chronicle.Yaml.Property
