import Chronicle.Toml.QuotedText

/-!
# Parts of dotted keys

A part of letters and digits needs no quotes; the written form of any other part
is quoted so that it reads back as the same name.
-/

namespace Chronicle.Toml

structure Key where
  name : String
  span : Span
  deriving DecidableEq, Repr

/-- Letters and digits of ASCII, the hyphen and the underscore. -/
def isBareMark (character : Char) : Bool :=
  character.isAlphanum || character = '-' || character = '_'

namespace Key

/-- How a character is written between double quotes. -/
def escapeCharacter (character : Char) : List Char :=
  if character = '\x08' then ['\\', 'b']
  else if character = '\t' then ['\\', 't']
  else if character = '\n' then ['\\', 'n']
  else if character = '\x0c' then ['\\', 'f']
  else if character = '\r' then ['\\', 'r']
  else if character = '\x22' || character = '\\' then ['\\', character]
  else if isVisible character then [character]
  else
    let digits := (Nat.toDigits 16 character.toNat).map Char.toUpper
    '\\' :: 'u' :: List.replicate (4 - digits.length) '0' ++ digits

/-- The name without quotes if it can stand so, and else in double quotes.
Single quotes are taken where double ones would need a backslash before a quote
or a backslash, and single ones need none. -/
def written (key : Key) : String :=
  let characters := key.name.toList
  let needsBackslash := characters.any fun character => character = '\x22' || character = '\\'
  if !characters.isEmpty && characters.all isBareMark then key.name
  else if needsBackslash && characters.all QuotedText.isLiteral then
    String.ofList ('\x27' :: characters ++ ['\x27'])
  else String.ofList ('\x22' :: characters.flatMap escapeCharacter ++ ['\x22'])

example : (["a-1", "", "a.b", "\t", "a\x22b", "a\x27\x22", "\x01"].map fun name =>
      Key.written ⟨name, ⟨0, 0⟩⟩) =
    ["a-1", "\x22\x22", "\x22a.b\x22", "\x22\\t\x22", "\x27a\x22b\x27", "\x22a\x27\\\x22\x22",
      "\x22\\u0001\x22"] := by
  decide +kernel

end Key

end Chronicle.Toml
