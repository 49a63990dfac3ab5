import Chronicle.Mismatch
import Chronicle.Yaml.Value

/-!
# Strict reading of values

Every reader accepts one shape, below any tags, and refuses all others with a
mismatch.  Nothing is converted but integers to floating point numbers.
-/

namespace Chronicle.Yaml.Shape

/-- How mismatches name a value. -/
def found : Value → Found
  | .null => .unit
  | .bool value => .bool value
  | .number (.integer value) => .integer value
  | .number (.float value) => .float value
  | .string text => .text text
  | .sequence _ => .sequence
  | .mapping _ => .map
  | .tagged _ value => found value

/-! ## Scalars -/

def text (value : Value) : Except Mismatch String :=
  match value.untagged with
  | .string text => .ok text
  | other => .error (.wrongType (found other) .text)

def float (value : Value) : Except Mismatch Decimal.Binary64 :=
  match value.untagged with
  | .number (.integer number) => .ok (Decimal.Binary64.ofInt number)
  | .number (.float number) => .ok number
  | other => .error (.wrongType (found other) .float)

/-- Natural numbers below `2 ^ 32`. -/
def natural (value : Value) : Except Mismatch Nat :=
  match value.untagged with
  | .number (.integer number) =>
      if 0 ≤ number ∧ number < Int.pow 2 32 then .ok number.toNat
      else .error (.wrongValue (.integer number) .natural)
  | other => .error (.wrongType (found other) .natural)

/-! ## Collections -/

/-- Null without a tag is nothing; a null below a tag is a value. -/
def optional {α : Type} (read : Value → Except Mismatch α) (value : Value) :
    Except Mismatch (Option α) :=
  match value with
  | .null => .ok none
  | value => (read value).map some

def textItems : List Value → Except Mismatch (List String)
  | [] => .ok []
  | item :: rest => do return (← text item) :: (← textItems rest)

/-- A sequence of texts; null is the empty one. -/
def texts (value : Value) : Except Mismatch (List String) :=
  match value.untagged with
  | .sequence items => textItems items
  | .null => .ok []
  | other => .error (.wrongType (found other) .sequence)

/-! ## Fields -/

def fieldName (key : Value) : Except Mismatch String :=
  match key.untagged with
  | .string name => .ok name
  | other => .error (.wrongType (found other) .fieldName)

/-- Reads the pairs in order into a draft.  Each key must be the name of a known
field that was not given before. -/
def fields {Field Draft : Type} [DecidableEq Field] (known : List Field) (name : Field → String)
    (read : Field → Value → Draft → Except Mismatch Draft) :
    List (Value × Value) → List Field → Draft → Except Mismatch Draft
  | [], _, draft => .ok draft
  | pair :: rest, seen, draft => do
      let given ← fieldName pair.1
      match known.find? fun field => name field == given with
      | none => throw (.unknownField given (known.map name))
      | some field =>
          if field ∈ seen then throw (.repeatedField given)
          fields known name read rest (field :: seen) (← read field pair.2 draft)

/-! ## Kinds -/

/-- What the type field of an entry holds. -/
inductive TypeField
  | missing
  | text (tag : String)
  | other (value : Value)

/-- Empty text and null count as missing. -/
def typeField (pairs : List (Value × Value)) : TypeField :=
  match Value.get? "type" pairs with
  | none => .missing
  | some .null => .missing
  | some (.string tag) => if tag.isEmpty then .missing else .text tag
  | some other => .other other

end Chronicle.Yaml.Shape
