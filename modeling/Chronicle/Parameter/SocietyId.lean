import Chronicle.Text.Blank
import Chronicle.Text.Digit

/-!
# Society IDs

A society ID is the number of a player, a hyphen, and the number of a character.
Digits of all scripts are accepted, with blanks around both numbers; the written
form has no blanks.
-/

namespace Chronicle.Parameter

structure SocietyId where
  player : String
  character : String
  deriving DecidableEq, Repr

namespace SocietyId

/-- A number with blanks around it: its digits, and what follows the blanks
behind it. -/
def readNumber (text : List Char) : Option (List Char × List Char) :=
  let unpadded := text.dropWhile Text.isBlank
  let digits := unpadded.takeWhile Text.isDigit
  if digits.isEmpty then none
  else some (digits, (unpadded.dropWhile Text.isDigit).dropWhile Text.isBlank)

def ofCharacters? (text : List Char) : Option (List Char × List Char) := do
  let (player, rest) ← readNumber text
  match rest with
  | '-' :: afterHyphen =>
      let (character, rest) ← readNumber afterHyphen
      if rest.isEmpty then some (player, character) else none
  | _ => none

def ofText? (text : String) : Option SocietyId :=
  (ofCharacters? text.toList).map fun (player, character) =>
    ⟨String.ofList player, String.ofList character⟩

/-- The written form. -/
def text (societyId : SocietyId) : String :=
  societyId.player ++ "-" ++ societyId.character

example : ofText? " 12 -\n٣4\t" = some ⟨"12", "٣4"⟩ ∧ ofText? "1-2-3" = none ∧
    ofText? "-2" = none := by
  decide +kernel

end SocietyId

end Chronicle.Parameter
