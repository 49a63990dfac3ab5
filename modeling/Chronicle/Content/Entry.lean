import Chronicle.Decimal.Binary64

/-!
# Content entries

Entries are texts, rectangles, and blocks of further entries that depend on an
argument.  Every entry has an ID, a description and the IDs of the presets that
apply to it.  The scalar fields of all kinds are gathered in one record, so that
an entry can take the fields that it leaves open from another entry of any kind.
-/

namespace Chronicle.Content

open Decimal (Binary64)

/-! ## Kinds -/

inductive Kind
  | text
  | rectangle
  | trigger
  | choice
  | multiline
  deriving DecidableEq, Repr

namespace Kind

def all : List Kind :=
  [text, rectangle, trigger, choice, multiline]

/-- The name of the kind in template files. -/
def tag : Kind → String
  | text => "text"
  | rectangle => "rectangle"
  | trigger => "trigger"
  | choice => "choice"
  | multiline => "multiline"

def ofTag? (name : String) : Option Kind :=
  all.find? fun kind => kind.tag == name

theorem ofTag?_tag (kind : Kind) : ofTag? kind.tag = some kind := by
  cases kind <;> decide

end Kind

/-! ## Entries -/

/-- What every entry has. -/
structure Heading where
  id : String
  desc : Option String
  presets : List String
  deriving DecidableEq, Repr

/-- Two corners of a box. -/
structure Area where
  x : Option Binary64
  y : Option Binary64
  x2 : Option Binary64
  y2 : Option Binary64
  deriving DecidableEq, Repr

/-- Text or a reference to a parameter, and how it is set. -/
structure Lettering where
  value : Option String
  font : Option String
  fontsize : Option Binary64
  align : Option String
  color : Option String
  deriving DecidableEq, Repr

/-- The content of a trigger is shown if its parameter has an argument, and a
choice shows the block under its argument.  Nested blocks are in key order. -/
inductive Entry
  | text (heading : Heading) (area : Area) (lettering : Lettering)
  | multiline (heading : Heading) (area : Area) (lettering : Lettering) (lines : Option Nat)
  | rectangle (heading : Heading) (area : Area) (color : Option String)
      (transparency : Option Binary64)
  | trigger (heading : Heading) (parameter : Option String) (content : List (String × Entry))
  | choice (heading : Heading) (parameter : Option String)
      (content : List (String × List (String × Entry)))
  deriving Repr

namespace Entry

def kind : Entry → Kind
  | text .. => .text
  | multiline .. => .multiline
  | rectangle .. => .rectangle
  | trigger .. => .trigger
  | choice .. => .choice

def heading : Entry → Heading
  | text heading _ _ => heading
  | multiline heading _ _ _ => heading
  | rectangle heading _ _ _ => heading
  | trigger heading _ _ => heading
  | choice heading _ _ => heading

def id (entry : Entry) : String :=
  entry.heading.id

/-- The IDs of the presets that a renderer applies to the entry. -/
def presets (entry : Entry) : List String :=
  entry.heading.presets

/-- The parameter that the entry depends on. -/
def parameter : Entry → Option String
  | trigger _ parameter _ => parameter
  | choice _ parameter _ => parameter
  | _ => none

/-- The entries directly below this one, in key order. -/
def nested : Entry → List Entry
  | trigger _ _ content => content.map Prod.snd
  | choice _ _ content => content.flatMap fun block => block.2.map Prod.snd
  | _ => []

/-! ## Scalar fields -/

end Entry

/-- The scalar fields of all kinds. -/
structure Fields where
  desc : Option String := none
  value : Option String := none
  x : Option Binary64 := none
  y : Option Binary64 := none
  x2 : Option Binary64 := none
  y2 : Option Binary64 := none
  font : Option String := none
  fontsize : Option Binary64 := none
  align : Option String := none
  color : Option String := none
  transparency : Option Binary64 := none
  lines : Option Nat := none
  trigger : Option String := none
  choices : Option String := none
  deriving DecidableEq, Repr

namespace Fields

def area (fields : Fields) : Area :=
  ⟨fields.x, fields.y, fields.x2, fields.y2⟩

def lettering (fields : Fields) : Lettering :=
  ⟨fields.value, fields.font, fields.fontsize, fields.align, fields.color⟩

def ofArea (area : Area) : Fields :=
  { x := area.x, y := area.y, x2 := area.x2, y2 := area.y2 }

/-- Field by field, the value of the first record that sets it. -/
def orElse (own fallback : Fields) : Fields where
  desc := own.desc.or fallback.desc
  value := own.value.or fallback.value
  x := own.x.or fallback.x
  y := own.y.or fallback.y
  x2 := own.x2.or fallback.x2
  y2 := own.y2.or fallback.y2
  font := own.font.or fallback.font
  fontsize := own.fontsize.or fallback.fontsize
  align := own.align.or fallback.align
  color := own.color.or fallback.color
  transparency := own.transparency.or fallback.transparency
  lines := own.lines.or fallback.lines
  trigger := own.trigger.or fallback.trigger
  choices := own.choices.or fallback.choices

end Fields

namespace Entry

/-- The fields that the entry has; fields of other kinds are not set. -/
def fields : Entry → Fields
  | text heading area lettering =>
      { Fields.ofArea area with
        desc := heading.desc
        value := lettering.value
        font := lettering.font
        fontsize := lettering.fontsize
        align := lettering.align
        color := lettering.color }
  | multiline heading area lettering lines =>
      { Fields.ofArea area with
        desc := heading.desc
        value := lettering.value
        font := lettering.font
        fontsize := lettering.fontsize
        align := lettering.align
        color := lettering.color
        lines := lines }
  | rectangle heading area color transparency =>
      { Fields.ofArea area with
        desc := heading.desc
        color := color
        transparency := transparency }
  | trigger heading parameter _ => { desc := heading.desc, trigger := parameter }
  | choice heading parameter _ => { desc := heading.desc, choices := parameter }

/-- The entry with the fields of its kind replaced; its ID, presets and nested
content stay. -/
def withFields (fields : Fields) : Entry → Entry
  | text heading _ _ => text { heading with desc := fields.desc } fields.area fields.lettering
  | multiline heading _ _ _ =>
      multiline { heading with desc := fields.desc } fields.area fields.lettering fields.lines
  | rectangle heading _ _ _ =>
      rectangle { heading with desc := fields.desc } fields.area fields.color fields.transparency
  | trigger heading _ content => trigger { heading with desc := fields.desc } fields.trigger content
  | choice heading _ content => choice { heading with desc := fields.desc } fields.choices content

/-- Takes every field that the entry leaves open from the preset, as far as the
preset sets it. -/
def fill (entry preset : Entry) : Entry :=
  entry.withFields (entry.fields.orElse preset.fields)

end Entry

end Chronicle.Content
