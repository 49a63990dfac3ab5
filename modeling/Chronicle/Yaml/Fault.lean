import Chronicle.Mismatch
import Chronicle.Yaml.Mark

/-!
# Faults of a YAML text

A text cannot be read if it is malformed or holds characters that no YAML text
may hold, if its aliases or its nesting go too far, or if its data does not have
the shape asked for.  Every fault has a text, and most have a place.
-/

namespace Chronicle.Yaml

/-- A fault of the grammar: the problem at its place, and the construct being
read with its start. -/
structure Malformed where
  problem : String
  place : Mark
  context : Option (String × Mark)
  deriving DecidableEq, Repr

/-- The construct is placed only if it starts elsewhere than the problem. -/
def Malformed.message (fault : Malformed) : String :=
  let problem := fault.problem ++ fault.place.suffix
  match fault.context with
  | none => problem
  | some (construct, start) =>
      let place := if start.sameSpot fault.place then "" else start.suffix
      s!"{problem}, {construct}{place}"

/-- A character that no text may hold is named by the number of bytes before it,
and placed at the start of the text. -/
def Malformed.controlCharacter (offset : Nat) : Malformed :=
  let position := if offset = 0 then "" else s!" at position {offset}"
  ⟨"control characters are not allowed" ++ position, Mark.start, none⟩

inductive Fault
  | malformed (fault : Malformed)
  | unknownAnchor (place : Mark)
  | endOfInput
  | tooDeep (place : Mark)
  | tooManyAliases
  | severalDocuments
  | mismatch (cause : Mismatch) (place : Option (Mark × String))
  deriving DecidableEq, Repr

namespace Fault

/-- The path of the root is a single point and is not shown. -/
def message : Fault → String
  | malformed fault => fault.message
  | unknownAnchor place => "unknown anchor" ++ place.suffix
  | endOfInput => "EOF while parsing a value"
  | tooDeep place => "recursion limit exceeded" ++ place.suffix
  | tooManyAliases => "repetition limit exceeded"
  | severalDocuments =>
      "deserializing from YAML containing more than one document is not supported"
  | mismatch cause none => cause.message
  | mismatch cause (some (place, path)) =>
      (if path = "." then "" else s!"{path}: ") ++ cause.message ++ place.suffix

/-- The number of bytes before the place where the fault was noticed, if it has
a place. -/
def offset : Fault → Option Nat
  | malformed fault => some fault.place.index
  | unknownAnchor place => some place.index
  | tooDeep place => some place.index
  | mismatch _ (some (place, _)) => some place.index
  | mismatch _ none => none
  | endOfInput => none
  | tooManyAliases => none
  | severalDocuments => none

/-- A mismatch without a place gets this one; the innermost place stays. -/
def placedAt (mark : Mark) (path : String) : Fault → Fault
  | mismatch cause none => mismatch cause (some (mark, path))
  | fault => fault

end Fault

end Chronicle.Yaml
