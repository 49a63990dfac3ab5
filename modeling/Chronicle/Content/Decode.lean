import Chronicle.Content.Entry
import Chronicle.Record
import Chronicle.Table
import Chronicle.Yaml.Shape

/-!
# Reading content entries

Entries are read from raw values.  The type field selects the kind; the other
fields must be fields of that kind, and the content of triggers and choices is
read as entries in turn.  Faults inside a nested entry are wrapped in the labels
of all entries and choices around it.
-/

namespace Chronicle.Content

open Yaml (Value)

/-! ## Fields -/

inductive Field
  | desc
  | presets
  | value
  | x
  | y
  | x2
  | y2
  | font
  | fontsize
  | align
  | color
  | lines
  | transparency
  | trigger
  | choices
  deriving DecidableEq, Repr

def Field.name : Field → String
  | desc => "desc"
  | presets => "presets"
  | value => "value"
  | x => "x"
  | y => "y"
  | x2 => "x2"
  | y2 => "y2"
  | font => "font"
  | fontsize => "fontsize"
  | align => "align"
  | color => "color"
  | lines => "lines"
  | transparency => "transparency"
  | trigger => "trigger"
  | choices => "choices"

/-- The fields of a kind, in the order in which messages list them. -/
def Kind.fields : Kind → List Field
  | text => [.desc, .presets, .value, .x, .y, .x2, .y2, .font, .fontsize, .align, .color]
  | rectangle => [.desc, .presets, .x, .y, .x2, .y2, .color, .transparency]
  | trigger => [.desc, .presets, .trigger]
  | choice => [.desc, .presets, .choices]
  | multiline => [.desc, .presets, .value, .x, .y, .x2, .y2, .font, .fontsize, .align, .color, .lines]

/-- The fields read so far. -/
structure Draft where
  fields : Fields
  presets : List String

def Draft.empty : Draft :=
  ⟨{}, []⟩

open Yaml in
def Draft.read (field : Field) (value : Value) (draft : Draft) : Except Mismatch Draft := do
  let fields := draft.fields
  match field with
  | .desc => return { draft with fields := { fields with desc := ← textField } }
  | .presets => return { draft with presets := ← Shape.texts value }
  | .value => return { draft with fields := { fields with value := ← textField } }
  | .x => return { draft with fields := { fields with x := ← floatField } }
  | .y => return { draft with fields := { fields with y := ← floatField } }
  | .x2 => return { draft with fields := { fields with x2 := ← floatField } }
  | .y2 => return { draft with fields := { fields with y2 := ← floatField } }
  | .font => return { draft with fields := { fields with font := ← textField } }
  | .fontsize => return { draft with fields := { fields with fontsize := ← floatField } }
  | .align => return { draft with fields := { fields with align := ← textField } }
  | .color => return { draft with fields := { fields with color := ← textField } }
  | .lines =>
      return { draft with fields := { fields with lines := ← Shape.optional Shape.natural value } }
  | .transparency => return { draft with fields := { fields with transparency := ← floatField } }
  | .trigger => return { draft with fields := { fields with trigger := ← textField } }
  | .choices => return { draft with fields := { fields with choices := ← textField } }
where
  textField : Except Mismatch (Option String) := Shape.optional Shape.text value
  floatField : Except Mismatch (Option Decimal.Binary64) := Shape.optional Shape.float value

/-- The entry of a kind without nested content. -/
def Draft.entry (draft : Draft) (kind : Kind) (id : String) : Entry :=
  let fields := draft.fields
  let heading : Heading := ⟨id, fields.desc, draft.presets⟩
  match kind with
  | .text => .text heading fields.area fields.lettering
  | .multiline => .multiline heading fields.area fields.lettering fields.lines
  | .rectangle => .rectangle heading fields.area fields.color fields.transparency
  | .trigger => .trigger heading fields.trigger []
  | .choice => .choice heading fields.choices []

/-! ## Entries -/

def itemLabel (id : String) : String :=
  label "content entry" id

def kindOf (id : String) (pairs : List (Value × Value)) : Except Fault Kind :=
  match Yaml.Shape.typeField pairs with
  | .missing => .error (.bare (.missingType (itemLabel id)))
  | .other value => .error (.bare (.typeNotText (itemLabel id) value))
  | .text tag =>
      match Kind.ofTag? tag with
      | some kind => .ok kind
      | none => .error (.unknownType .content tag)

/-- Triggers and choices may have content. -/
def Kind.nests : Kind → Bool
  | trigger => true
  | choice => true
  | _ => false

/-- The pairs that hold fields of the kind: all but the type and the nested
content. -/
def ownPairs (kind : Kind) (pairs : List (Value × Value)) : List (Value × Value) :=
  let untyped := Value.erase "type" pairs
  if kind.nests then Value.erase "content" untyped else untyped

/-- The entry without its nested content. -/
def ownEntry (kind : Kind) (id : String) (pairs : List (Value × Value)) : Except Fault Entry :=
  match Yaml.Shape.fields kind.fields Field.name Draft.read (ownPairs kind pairs) [] Draft.empty with
  | .ok draft => .ok (draft.entry kind id)
  | .error mismatch => .error (.context (itemLabel id) (.bare (.mismatch mismatch)))

/-- Nested content as it was read. -/
inductive Block
  | entries (content : List (String × Entry))
  | choices (content : List (String × List (String × Entry)))

def Entry.withBlock : Entry → Block → Entry
  | trigger heading parameter _, .entries content => trigger heading parameter content
  | choice heading parameter _, .choices content => choice heading parameter content
  | entry, _ => entry

/-- The label of the key that was first converted to the ID. -/
abbrev Labels := List (String × String)

def isContentKey : Value → Bool
  | .string name => name == "content"
  | _ => false

mutual

def decode (id : String) : Value → Except Fault Entry
  | .mapping pairs => do
      let kind ← kindOf id pairs
      let entry ← ownEntry kind id pairs
      match decodeContent kind pairs with
      | none => return entry
      | some block => return entry.withBlock (← within (itemLabel id) block)
  | _ => .error (.bare (.notMapping (itemLabel id)))
termination_by structural value => value

/-- The nested content of a trigger or a choice, if there is a pair for it. -/
def decodeContent (kind : Kind) : List (Value × Value) → Option (Except Fault Block)
  | [] => none
  | (key, value) :: rest =>
      if kind.nests && isContentKey key then some (decodeBlock kind value)
      else decodeContent kind rest
termination_by structural pairs => pairs

/-- Null is an empty block. -/
def decodeBlock (kind : Kind) : Value → Except Fault Block
  | .mapping pairs =>
      if kind = .choice then do return .choices (← decodeChoices pairs [] Table.empty).entries
      else do return .entries (← decodePairs pairs [] Table.empty).entries
  | .null => .ok (if kind = .choice then .choices [] else .entries [])
  | _ => .error (.bare (.notMapping "nested content"))
termination_by structural value => value

/-- The entries of a mapping under the IDs of their keys, added to those before.
Two keys with one ID are refused. -/
def decodePairs : List (Value × Value) → Labels → Table Entry → Except Fault (Table Entry)
  | [], _, entries => .ok entries
  | (key, value) :: rest, labels, entries => do
      let id ← Record.idOfKey key
      match Table.lookup id labels with
      | some first => throw (.duplicate .content id first (Record.keyLabel key))
      | none =>
          let entry ← decode id value
          decodePairs rest ((id, Record.keyLabel key) :: labels) (entries.insert id entry)
termination_by structural pairs => pairs

def decodeChoices :
    List (Value × Value) → Labels → Table (List (String × Entry)) →
      Except Fault (Table (List (String × Entry)))
  | [], _, blocks => .ok blocks
  | (key, value) :: rest, labels, blocks => do
      let choice ← Record.idOfKey key
      match Table.lookup choice labels with
      | some first => throw (.duplicate .choice choice first (Record.keyLabel key))
      | none =>
          let entries ← decodeChoice choice value
          decodeChoices rest ((choice, Record.keyLabel key) :: labels)
            (blocks.insert choice entries)
termination_by structural pairs => pairs

/-- The block under one choice; null is an empty one. -/
def decodeChoice (choice : String) : Value → Except Fault (List (String × Entry))
  | .mapping pairs => do
      return (← within (label "choice" choice) (decodePairs pairs [] Table.empty)).entries
  | .null => .ok []
  | _ => .error (.bare (.notMapping (label "content for choice" choice)))
termination_by structural value => value

end

/-- All entries of a mapping. -/
def decodeMap (pairs : List (Value × Value)) : Except Fault (Table Entry) :=
  decodePairs pairs [] Table.empty

end Chronicle.Content
