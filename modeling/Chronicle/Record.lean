import Chronicle.Fault
import Chronicle.Text.Blank

/-!
# Template records

A record is the contents of one template file before its entries are decoded.
Every field may be left out.  A blank text and a null document are the empty
record; any other text must be a mapping with the seven known keys, each given
once.
-/

namespace Chronicle

structure Record where
  id : Option String
  description : Option String
  parent : Option String
  aliases : Option (List String)
  content : Option (List (Yaml.Value × Yaml.Value))
  presets : Option (List (Yaml.Value × Yaml.Value))
  parameters : Option (List (Yaml.Value × Yaml.Value))
  deriving Repr

namespace Record

def empty : Record :=
  ⟨none, none, none, none, none, none, none⟩

/-! ## Fields -/

inductive Field
  | id
  | description
  | parent
  | aliases
  | content
  | presets
  | parameters
  deriving DecidableEq, Repr

def Field.all : List Field :=
  [.id, .description, .parent, .aliases, .content, .presets, .parameters]

def Field.name : Field → String
  | .id => "id"
  | .description => "description"
  | .parent => "inherit"
  | .aliases => "aliases"
  | .content => "content"
  | .presets => "presets"
  | .parameters => "parameters"

def Field.ofName? (name : String) : Option Field :=
  Field.all.find? fun field => field.name == name

/-! ## Reading -/

open Yaml Yaml.Decode in
/-- Reads the value of one field into the record. -/
def readField (document : Document) (fuel depth : Nat) (route : Route) (record : Record) :
    Field → Read Record
  | .id => return { record with id := ← textField }
  | .description => return { record with description := ← textField }
  | .parent => return { record with parent := ← textField }
  | .aliases =>
      return { record with aliases := ← optional document (texts document fuel depth route) fuel }
  | .content => return { record with content := ← mappingField }
  | .presets => return { record with presets := ← mappingField }
  | .parameters => return { record with parameters := ← mappingField }
where
  textField : Read (Option String) :=
    optional document (text document .text fuel route) fuel
  mappingField : Read (Option (List (Value × Value))) :=
    optional document (mapping document fuel depth route) fuel

open Yaml Yaml.Decode in
/-- The name of a field; a name that is not known is refused at its place. -/
def readFieldName (document : Document) : Nat → Read Field
  | 0 => throw .endOfInput
  | fuel + 1 => do
      let (node, mark) ← document.next
      Document.located mark Route.root <| match node with
        | .alias anchor => document.follow anchor (readFieldName document fuel)
        | .scalar _ name _ =>
            match Field.ofName? name with
            | some field => return field
            | none =>
                (mismatch (.unknownField name (Field.all.map Field.name)) : Except Yaml.Fault _)
        | other => wrongNode .fieldName other

open Yaml Yaml.Decode in
/-- The fields up to the end of the mapping; `seen` are those read before. -/
def readFields (document : Document) (depth : Nat) : Nat → List Field → Record → Read Record
  | 0, _, _ => throw .endOfInput
  | fuel + 1, seen, record => do
      match ← document.peek with
      | (.mappingEnd, _) =>
          Document.skip
          return record
      | (node, _) =>
          let field ← readFieldName document fuel
          if seen.contains field then
            (mismatch (.repeatedField field.name) : Except Yaml.Fault Unit)
          let route := routeBehind Route.root node
          let record ← readField document document.fuel depth route record field
          readFields document depth fuel (field :: seen) record

open Yaml Yaml.Decode in
def read (document : Document) : Nat → Read Record
  | 0 => throw .endOfInput
  | fuel + 1 => do
      let (node, mark) ← document.next
      Document.located mark Route.root <| match node with
        | .alias anchor => document.follow anchor (read document fuel)
        | .mappingStart _ => do readFields document (← deeper mark 128) fuel [] empty
        | other => if isEmptyNode other then return empty else wrongNode .record other

/-! ## Texts -/

/-- Runs a reader on the only document of a text.  A fault behind the nodes that
were read counts before a second document does. -/
def decodeWith {α : Type} (reader : Yaml.Document → Yaml.Read α) (text : String) :
    Except Yaml.Fault α := do
  let document := Yaml.Document.ofText text
  let (result, _) ← (reader document).run ⟨0, 0⟩
  match document.fault with
  | some fault => throw fault
  | none => if document.goesOn then throw .severalDocuments else return result

/-- The record that a text states, which may be neither blank nor null. -/
def ofStatedYaml (text : String) : Except Fault Record :=
  (decodeWith (fun document => read document document.fuel) text).mapError Fault.ofYaml

def ofYaml (text : String) : Except Fault Record :=
  if Text.isAllBlank text then .ok empty
  else
    let reader := fun document : Yaml.Document =>
      Yaml.Decode.optional document (read document document.fuel) document.fuel
    match decodeWith reader text with
    | .ok record => .ok (record.getD empty)
    | .error fault => .error (Fault.ofYaml fault)

/-! ## Keys -/

/-- The ID that a key stands for: text as it is, numbers and booleans as their
text. -/
def idOfKey (key : Yaml.Value) : Except Fault String :=
  match key with
  | .string text => .ok text
  | .number number => .ok number.text
  | .bool value => .ok (toString value)
  | other => .error (.bare (.keyNotText other))

/-- A key as it was written, to tell keys with one ID apart. -/
def keyLabel (key : Yaml.Value) : String :=
  match key with
  | .string text => s!"key \x22{text}\x22"
  | .number number => s!"key {number.text}"
  | .bool value => s!"key {value}"
  | other => s!"key {other.detail}"

end Record

end Chronicle
