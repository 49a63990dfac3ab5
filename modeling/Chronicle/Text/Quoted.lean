import Chronicle.Text.Printable

/-!
# Quoted text

Messages quote a text by double quotes around it, with a backslash before a
quote or a backslash, short escapes for tab, line feed, carriage return and the
null character, and a braced hexadecimal code point for every other character
that cannot be shown as it is.
-/

namespace Chronicle.Text

/-- A code point in lower-case hexadecimal, without leading zeros. -/
def hexadecimal (codePoint : Nat) : List Char :=
  Nat.toDigits 16 codePoint

/-- How one character is written between the quotes. -/
def escapeCharacter (character : Char) : List Char :=
  if character = '\x00' then ['\\', '0']
  else if character = '\t' then ['\\', 't']
  else if character = '\r' then ['\\', 'r']
  else if character = '\n' then ['\\', 'n']
  else if character = '\\' then ['\\', '\\']
  else if character = '\x22' then ['\\', '\x22']
  else if isPrintable character then [character]
  else ['\\', 'u', '{'] ++ hexadecimal character.toNat ++ ['}']

/-- The text in double quotes, escaped character by character. -/
def quoted (text : String) : String :=
  String.ofList ('\x22' :: text.toList.flatMap escapeCharacter ++ ['\x22'])

end Chronicle.Text
