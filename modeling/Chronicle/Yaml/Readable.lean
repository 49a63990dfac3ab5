import Chronicle.Yaml.Fault

/-!
# The readable part of a YAML text

A text is looked at in portions of 16384 bytes, cut between two characters.  A
portion that holds a character which no text may hold is refused as a whole, so
a text can be read up to the start of the first such portion.
-/

namespace Chronicle.Yaml

/-- Tabs, line breaks and all printable characters in the sense of YAML. -/
def isAllowed (character : Char) : Bool :=
  let code := character.toNat
  code == 0x9 || code == 0xa || code == 0xd || (0x20 ≤ code && code ≤ 0x7e) || code == 0x85 ||
    (0xa0 ≤ code && code ≤ 0xd7ff) || (0xe000 ≤ code && code ≤ 0xfffd) || 0x10000 ≤ code

/-- The number of bytes before a portion that is refused, and why it is. -/
structure Refusal where
  offset : Nat
  fault : Malformed
  deriving Repr

namespace Refusal

def portionSize : Nat :=
  16384

/-- The refusal of the first character that no text may hold.  `portion` bytes
lie before the current portion, and `offset` bytes before the characters that
are left. -/
def find? (portion offset : Nat) : List Char → Option Refusal
  | [] => none
  | character :: rest =>
      let after := offset + character.utf8Size
      let portion := if portion + portionSize < after then offset else portion
      if isAllowed character then find? portion after rest
      else some ⟨portion, Malformed.controlCharacter offset⟩

end Refusal

/-- The characters of a text that can be read, and the refusal behind them. -/
structure Readable where
  characters : List Char
  refusal : Option Refusal

namespace Readable

/-- The characters whose last byte lies within the given number of bytes. -/
def takeBytes : Nat → List Char → List Char → List Char
  | _, [], taken => taken.reverse
  | room, character :: rest, taken =>
      if character.utf8Size ≤ room then
        takeBytes (room - character.utf8Size) rest (character :: taken)
      else taken.reverse

def ofText (text : List Char) : Readable :=
  match Refusal.find? 0 0 text with
  | none => ⟨text, none⟩
  | some refusal => ⟨takeBytes refusal.offset text [], some refusal⟩

example : (ofText ['a', '\x01']).characters = [] ∧
    ((ofText ['a', '\x01']).refusal.map fun refusal => refusal.fault.message) =
      some "control characters are not allowed at position 1" := by
  decide +kernel

end Readable

end Chronicle.Yaml
