import Chronicle.Decimal.Style
import Chronicle.Text.Quoted

/-!
# Mismatches

Data can differ from the shape asked for by a value of another type, a value
outside its range, a field that the shape does not have, and a field given
twice.  Each mismatch has one sentence as its text.
-/

namespace Chronicle

/-! ## What was found -/

/-- A value as mismatches name it: scalars with their value, collections by
their kind alone. -/
inductive Found
  | unit
  | bool (value : Bool)
  | integer (value : Int)
  | wideInteger (value : Int)
  | float (value : Decimal.Binary64)
  | text (value : String)
  | sequence
  | map
  deriving DecidableEq, Repr

namespace Found

/-- Floating point numbers are always positional here, and of two equally near
decimals the greater one is written. -/
def floatStyle : Decimal.Style :=
  ⟨fun _ => true, .up, "NaN", "inf"⟩

/-- An integer past 64 bits is named together with the signed or unsigned type
that holds it. -/
def description : Found → String
  | unit => "unit value"
  | bool value => s!"boolean `{value}`"
  | integer value => s!"integer `{value}`"
  | wideInteger value =>
      let holder := if value < 0 then "i128" else "u128"
      s!"integer `{value}` as {holder}"
  | float value => s!"floating point `{floatStyle.text value}`"
  | text value => s!"string {Text.quoted value}"
  | sequence => "sequence"
  | map => "map"

end Found

/-! ## What was asked for -/

inductive Expectation
  | text
  | path
  | sequence
  | bool
  | float
  | natural
  | mapping
  | anyValue
  | fieldName
  | record
  | writtenBool
  | writtenInteger
  | writtenFloat
  | writtenNull
  deriving DecidableEq, Repr

def Expectation.description : Expectation → String
  | text => "a string"
  | path => "path string"
  | sequence => "a sequence"
  | bool => "a boolean"
  | float => "f64"
  | natural => "u32"
  | mapping => "a YAML mapping"
  | anyValue => "any YAML value"
  | fieldName => "field identifier"
  | record => "struct TemplateRecord"
  | writtenBool => "a boolean"
  | writtenInteger => "an integer"
  | writtenFloat => "a float"
  | writtenNull => "null"

/-! ## Mismatches -/

inductive Mismatch
  | wrongType (found : Found) (expected : Expectation)
  | wrongValue (found : Found) (expected : Expectation)
  | unknownField (name : String) (known : List String)
  | repeatedField (name : String)
  | other (message : String)
  deriving DecidableEq, Repr

/-- Names in backticks, as alternatives of a sentence. -/
def alternatives (names : List String) : String :=
  match names with
  | [] => "there are no fields"
  | [only] => s!"expected `{only}`"
  | [first, second] => s!"expected `{first}` or `{second}`"
  | many => "expected one of " ++ ", ".intercalate (many.map fun name => s!"`{name}`")

def Mismatch.message : Mismatch → String
  | wrongType found expected =>
      s!"invalid type: {found.description}, expected {expected.description}"
  | wrongValue found expected =>
      s!"invalid value: {found.description}, expected {expected.description}"
  | unknownField name known => s!"unknown field `{name}`, {alternatives known}"
  | repeatedField name => s!"duplicate field `{name}`"
  | other message => message

end Chronicle
