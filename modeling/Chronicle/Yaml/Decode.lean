import Chronicle.Yaml.Document
import Chronicle.Yaml.Scalar

/-!
# Reading data from nodes

Values, texts, lists of texts and mappings are read from the nodes of a
document.  A mapping may not hold the same key twice, collections nest 128
levels at most, and every mismatch has the place and the route of the innermost
node that is read.
-/

namespace Chronicle.Yaml.Decode

def mismatch {α : Type} (cause : Mismatch) : Except Fault α :=
  .error (.mismatch cause none)

/-! ## Scalars -/

/-- A scalar with a standard tag must be of that kind; one with a tag of its
own, or without a tag, is what its text means if it is plain; all others are
text. -/
def found (tag : Option Tag) (text : String) (style : ScalarStyle) : Except Fault Found :=
  let plainOrText := if style = .plain then Scalar.meaning text else .text text
  match tag with
  | none => .ok plainOrText
  | some tag =>
      if tag = Tag.standard "bool" then
        match Scalar.bool? text with
        | some value => .ok (.bool value)
        | none => mismatch (.wrongValue (.text text) .writtenBool)
      else if tag = Tag.standard "int" then
        match Scalar.integer? text.toList with
        | some value => .ok value
        | none => mismatch (.wrongValue (.text text) .writtenInteger)
      else if tag = Tag.standard "float" then
        match Scalar.float? text with
        | some value => .ok (.float value)
        | none => mismatch (.wrongValue (.text text) .writtenFloat)
      else if tag = Tag.standard "null" then
        if Scalar.isNull text then .ok .unit
        else mismatch (.wrongValue (.text text) .writtenNull)
      else if tag.isOwn then .ok plainOrText
      else .ok (.text text)

/-- Integers past 64 bits are no values. -/
def valueOf : Found → Except Fault Value
  | .unit => .ok .null
  | .bool value => .ok (.bool value)
  | .integer value => .ok (.number (.integer value))
  | .float value => .ok (.number (.float value))
  | .text value => .ok (.string value)
  | other => mismatch (.wrongType other .anyValue)

/-- A node where something else was asked for. -/
def wrongNode {α : Type} (expected : Expectation) : Node → Except Fault α
  | .scalar tag text style => do mismatch (.wrongType (← found tag text style) expected)
  | .sequenceStart _ => mismatch (.wrongType .sequence expected)
  | .mappingStart _ => mismatch (.wrongType .map expected)
  | _ => .error .endOfInput

/-- A node that stands for an empty collection. -/
def isEmptyNode : Node → Bool
  | .void => true
  | .scalar _ text style => text.isEmpty && style == .plain
  | _ => false

/-! ## Values -/

/-- The mismatch of a key that the pairs hold already. -/
def repeatedKey (key : Value) : Mismatch :=
  .other <| "duplicate entry " ++ match key with
    | .null => "with null key"
    | .bool value => s!"with key `{value}`"
    | .number value => s!"with key {value.text}"
    | .string text => s!"with key {Text.quoted text}"
    | _ => "in YAML map"

/-- The route to the value under the key that comes next. -/
def routeBehind (route : Route) : Node → Route
  | .scalar _ text _ => route.field text
  | _ => route.unnamed

/-- Going into a collection takes one of the levels that are left. -/
def deeper (mark : Mark) : Nat → Except Fault Nat
  | 0 => .error (.tooDeep mark)
  | depth + 1 => .ok depth

mutual

/-- The value that starts with the next node.  Below its own tag a value is read
as if it had none, and a tag of its own without a text does not count. -/
def value (document : Document) : Nat → Nat → Route → Bool → Read Value
  | 0, _, _, _ => throw .endOfInput
  | fuel + 1, depth, route, isTagged => do
      let (node, mark) ← document.next
      let ownTag := fun (tag : Option Tag) => if isTagged then none else tag.bind Tag.ownName?
      let below := fun (tag : String) => do
        modify fun progress => { progress with next := progress.next - 1 }
        return Value.tagged tag (← value document fuel depth route true)
      Document.located mark route <| match node with
        | .alias anchor => document.follow anchor (value document fuel depth route false)
        | .scalar tag text style =>
            match ownTag tag with
            | some own => below own
            | none => do valueOf (← found (if isTagged then none else tag) text style)
        | .sequenceStart tag =>
            match ownTag tag with
            | some own => below own
            | none => do
                return .sequence (← items document fuel (← deeper mark depth) route 0 [])
        | .mappingStart tag =>
            match ownTag tag with
            | some own => below own
            | none => do return .mapping (← pairs document fuel (← deeper mark depth) route [])
        | _ => return .null

/-- The items up to the end of a sequence, behind those read before. -/
def items (document : Document) : Nat → Nat → Route → Nat → List Value → Read (List Value)
  | 0, _, _, _, _ => throw .endOfInput
  | fuel + 1, depth, route, index, before => do
      match ← document.peek with
      | (.sequenceEnd, _) =>
          Document.skip
          return before.reverse
      | _ =>
          let item ← value document fuel depth (route.index index) false
          items document fuel depth route (index + 1) (item :: before)

/-- The pairs up to the end of a mapping, behind those read before. -/
def pairs (document : Document) :
    Nat → Nat → Route → List (Value × Value) → Read (List (Value × Value))
  | 0, _, _, _ => throw .endOfInput
  | fuel + 1, depth, route, before => do
      match ← document.peek with
      | (.mappingEnd, _) =>
          Document.skip
          return before.reverse
      | (node, _) =>
          let key ← value document fuel depth route false
          match before.find? fun pair => pair.1.same key with
          | some earlier => (mismatch (repeatedKey earlier.1) : Except Fault _)
          | none =>
              let item ← value document fuel depth (routeBehind route node) false
              pairs document fuel depth route ((key, item) :: before)

end

/-! ## Texts -/

/-- The text of a scalar, whatever it means. -/
def text (document : Document) (expected : Expectation) : Nat → Route → Read String
  | 0, _ => throw .endOfInput
  | fuel + 1, route => do
      let (node, mark) ← document.next
      Document.located mark route <| match node with
        | .alias anchor => document.follow anchor (text document expected fuel route)
        | .scalar _ text _ => return text
        | other => wrongNode expected other

def textItems (document : Document) : Nat → Route → Nat → List String → Read (List String)
  | 0, _, _, _ => throw .endOfInput
  | fuel + 1, route, index, before => do
      match ← document.peek with
      | (.sequenceEnd, _) =>
          Document.skip
          return before.reverse
      | _ =>
          let item ← text document .text fuel (route.index index)
          textItems document fuel route (index + 1) (item :: before)

/-- A sequence of scalars. -/
def texts (document : Document) : Nat → Nat → Route → Read (List String)
  | 0, _, _ => throw .endOfInput
  | fuel + 1, depth, route => do
      let (node, mark) ← document.next
      Document.located mark route <| match node with
        | .alias anchor => document.follow anchor (texts document fuel depth route)
        | .sequenceStart _ => do
            let _ ← deeper mark depth
            textItems document fuel route 0 []
        | other => if isEmptyNode other then return [] else wrongNode .sequence other

/-- A mapping whose keys and values are read as values. -/
def mapping (document : Document) : Nat → Nat → Route → Read (List (Value × Value))
  | 0, _, _ => throw .endOfInput
  | fuel + 1, depth, route => do
      let (node, mark) ← document.next
      Document.located mark route <| match node with
        | .alias anchor => document.follow anchor (mapping document fuel depth route)
        | .mappingStart _ => do pairs document fuel (← deeper mark depth) route []
        | other => if isEmptyNode other then return [] else wrongNode .mapping other

/-! ## Optional values -/

/-- Nothing for a plain scalar that is null, and else what the reader finds. -/
def optional {α : Type} (document : Document) (read : Read α) : Nat → Read (Option α)
  | 0 => throw .endOfInput
  | fuel + 1 => do
      let absent : Read (Option α) := do
        Document.skip
        return none
      match (← document.peek).1 with
      | .alias anchor =>
          Document.skip
          document.follow anchor (optional document read fuel)
      | .scalar tag text .plain =>
          match tag with
          | none => if text.isEmpty || Scalar.isNull text then absent else some <$> read
          | some tag =>
              if tag = Tag.standard "null" then
                if Scalar.isNull text then absent
                else (mismatch (.wrongValue (.text text) .writtenNull) : Except Fault _)
              else some <$> read
      | .void => absent
      | _ => some <$> read

end Chronicle.Yaml.Decode
