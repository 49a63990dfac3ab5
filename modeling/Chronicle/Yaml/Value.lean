import Chronicle.Decimal.Style
import Chronicle.Text.Quoted

/-!
# Values of a YAML document

Values are null, booleans, numbers, texts, sequences, mappings in order, and
values under a tag of their own.  Two texts of a value are given: the plain text
of a number, which serves as an ID, and the detailed text that error messages
show.
-/

namespace Chronicle.Yaml

/-! ## Numbers -/

/-- Integers between `-2 ^ 63` and `2 ^ 64 - 1`, and binary floating point
numbers. -/
inductive Number
  | integer (value : Int)
  | float (value : Decimal.Binary64)
  deriving DecidableEq, Repr

namespace Number

/-- Floating point numbers are positional while the point stands after at most
four zeros or sixteen digits, and of two equally near decimals the one with an
even last digit is written. -/
def floatStyle : Decimal.Style :=
  ⟨fun point => decide (-5 < point ∧ point ≤ 16), .toEven, ".nan", ".inf"⟩

def text : Number → String
  | integer value => toString value
  | float value => floatStyle.text value

/-- Numbers are one key if they are equal integers or equal floating point
numbers. -/
def same : Number → Number → Bool
  | integer left, integer right => decide (left = right)
  | float left, float right => left.same right
  | _, _ => false

end Number

/-! ## Values -/

/-- The tag of a tagged value is kept without its leading mark. -/
inductive Value
  | null
  | bool (value : Bool)
  | number (value : Number)
  | string (text : String)
  | sequence (items : List Value)
  | mapping (pairs : List (Value × Value))
  | tagged (tag : String) (value : Value)
  deriving Repr

instance : Inhabited Value := ⟨.null⟩

namespace Value

/-- The value below all tags. -/
def untagged : Value → Value
  | tagged _ value => untagged value
  | value => value

/-! ## Equality of keys -/

mutual

/-- Equality of values, under which a mapping is the same whatever the order of
its pairs. -/
def same : Value → Value → Bool
  | null, null => true
  | bool left, bool right => left == right
  | number left, number right => left.same right
  | string left, string right => left == right
  | sequence left, sequence right => sameItems left right
  | mapping left, mapping right => left.length == right.length && samePairs left right
  | tagged leftTag left, tagged rightTag right => leftTag == rightTag && same left right
  | _, _ => false

def sameItems : List Value → List Value → Bool
  | [], [] => true
  | left :: leftRest, right :: rightRest => same left right && sameItems leftRest rightRest
  | _, _ => false

/-- Every pair on the left has its equal on the right. -/
def samePairs : List (Value × Value) → List (Value × Value) → Bool
  | [], _ => true
  | (key, value) :: rest, others =>
      others.any (fun other => same key other.1 && same value other.2) && samePairs rest others

end

/-! ## Detailed text -/

mutual

/-- The text of a value in messages: every value is named by its kind, and text
is quoted. -/
def detail : Value → String
  | null => "Null"
  | bool value => "Bool(" ++ toString value ++ ")"
  | number value => "Number(" ++ value.text ++ ")"
  | string text => "String(" ++ Text.quoted text ++ ")"
  | sequence items => "Sequence [" ++ ", ".intercalate (detailItems items) ++ "]"
  | mapping pairs => "Mapping \x7b" ++ ", ".intercalate (detailPairs pairs) ++ "\x7d"
  | tagged tag value =>
      "TaggedValue \x7b tag: !" ++ tag ++ ", value: " ++ detail value ++ " \x7d"

def detailItems : List Value → List String
  | [] => []
  | item :: rest => detail item :: detailItems rest

def detailPairs : List (Value × Value) → List String
  | [] => []
  | (key, value) :: rest => (detailKey key ++ ": " ++ detail value) :: detailPairs rest

/-- Keys that are text, booleans or numbers are shown bare. -/
def detailKey : Value → String
  | bool value => toString value
  | number value => value.text
  | string text => Text.quoted text
  | null => "Null"
  | sequence items => "Sequence [" ++ ", ".intercalate (detailItems items) ++ "]"
  | mapping pairs => "Mapping \x7b" ++ ", ".intercalate (detailPairs pairs) ++ "\x7d"
  | tagged tag value =>
      "TaggedValue \x7b tag: !" ++ tag ++ ", value: " ++ detail value ++ " \x7d"

end

/-! ## Pairs of a mapping -/

/-- The place of the first pair whose key is the given text. -/
def indexOfKey (name : String) (pairs : List (Value × Value)) : Option Nat :=
  pairs.findIdx? fun pair => pair.1.same (.string name)

def get? (name : String) (pairs : List (Value × Value)) : Option Value :=
  (pairs.find? fun pair => pair.1.same (.string name)).map Prod.snd

/-- Takes out one pair; the last pair moves into its place. -/
def swapRemove (index : Nat) (pairs : List (Value × Value)) : List (Value × Value) :=
  match pairs.getLast? with
  | some last => (pairs.set index last).dropLast
  | none => pairs

/-- The pairs without the one under the given text. -/
def erase (name : String) (pairs : List (Value × Value)) : List (Value × Value) :=
  match indexOfKey name pairs with
  | some index => swapRemove index pairs
  | none => pairs

example :
    (erase "b" [(.string "a", .null), (.string "b", .null), (.string "c", .bool true),
      (.string "d", .bool false)]).map (fun pair => pair.1.detail) =
      ["String(\"a\")", "String(\"d\")", "String(\"c\")"] := by
  decide +kernel

end Value

end Chronicle.Yaml
