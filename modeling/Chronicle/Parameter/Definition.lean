import Chronicle.Arguments
import Chronicle.Parameter.SocietyId
import Chronicle.Record
import Chronicle.Yaml.Shape

/-!
# Parameter definitions

A definition says what arguments a template accepts.  A text parameter accepts
every value, a choice parameter the listed ones, and a society ID parameter
accepts society IDs, which it writes back in their normal form together with
their two numbers.
-/

namespace Chronicle.Parameter

open Yaml (Value)

/-! ## Kinds -/

inductive Kind
  | text
  | societyId
  | choice
  deriving DecidableEq, Repr

namespace Kind

def all : List Kind :=
  [text, societyId, choice]

/-- The name of the kind in template files. -/
def tag : Kind → String
  | text => "text"
  | societyId => "societyid"
  | choice => "choice"

def ofTag? (name : String) : Option Kind :=
  all.find? fun kind => kind.tag == name

theorem ofTag?_tag (kind : Kind) : ofTag? kind.tag = some kind := by
  cases kind <;> decide

end Kind

/-- What a parameter accepts. -/
inductive Form
  | text
  | societyId
  | choice (choices : List String)
  deriving DecidableEq, Repr

def Form.kind : Form → Kind
  | text => .text
  | societyId => .societyId
  | choice _ => .choice

/-- The group is the heading under which a parameter is listed. -/
structure Definition where
  id : String
  description : String
  sample : String
  group : Option String
  form : Form
  deriving DecidableEq, Repr

namespace Definition

/-- The allowed values of a choice parameter. -/
def choices? (definition : Definition) : Option (List String) :=
  match definition.form with
  | .choice choices => some choices
  | _ => none

def playerKey (id : String) : String :=
  id ++ ".player"

def characterKey (id : String) : String :=
  id ++ ".char"

/-- The keys that the parameter writes besides its own. -/
def derivedKeys (definition : Definition) : List String :=
  match definition.form with
  | .societyId => [playerKey definition.id, characterKey definition.id]
  | _ => []

/-! ## Checks of the definition -/

/-- An ID that can be written as the key of an argument. -/
def isWellFormedId (id : String) : Bool :=
  !id.isEmpty && Text.trim id == id && !id.toList.contains '='

/-- The first item that was listed before. -/
def firstRepeated : List String → List String → Option String
  | _, [] => none
  | before, item :: rest =>
      if before.contains item then some item else firstRepeated (item :: before) rest

def checkForm (definition : Definition) : Option ValidationCause :=
  match definition.form with
  | .text => none
  | .societyId =>
      if (SocietyId.ofText? definition.sample).isSome then none
      else some (.exampleNotSocietyId definition.sample)
  | .choice choices =>
      if choices.isEmpty then some .noChoices
      else
        match firstRepeated [] choices with
        | some choice => some (.repeatedChoice choice)
        | none =>
            if choices.contains definition.sample then none
            else some (.exampleNotChoice definition.sample)

/-- The first thing that is wrong with the definition itself. -/
def problem? (definition : Definition) : Option ValidationCause :=
  if !isWellFormedId definition.id then some .malformedId
  else if definition.description.isEmpty then some .noDescription
  else if definition.sample.isEmpty then some .noExample
  else definition.checkForm

def validate (definition : Definition) : Except Fault Unit :=
  match definition.problem? with
  | some cause => .error (.validation cause)
  | none => .ok ()

/-! ## Checks of arguments -/

/-- Checks the argument of the parameter, if there is one, and writes what
follows from it. -/
def process (definition : Definition) (arguments : Arguments) : Except Fault Arguments :=
  match arguments.get? definition.id with
  | none => .ok arguments
  | some value =>
      match definition.form with
      | .text => .ok arguments
      | .societyId =>
          match SocietyId.ofText? value with
          | none => .error (.validation (.argumentNotSocietyId value))
          | some societyId =>
              .ok (((arguments.set definition.id societyId.text).set (playerKey definition.id)
                societyId.player).set (characterKey definition.id) societyId.character)
      | .choice choices =>
          if choices.contains value then .ok arguments
          else .error (.validation (.argumentNotChoice value choices))

/-! ## Texts -/

/-- The example as an argument. -/
def sampleArgument (definition : Definition) : String :=
  Arguments.writePair (definition.id, definition.sample)

/-- One item of a listing. -/
def describe (definition : Definition) (verbose : Bool) : String :=
  let head :=
    if definition.description.isEmpty then s!"- {definition.id}"
    else s!"- {definition.id}: {definition.description}"
  if verbose then
    let choices := match definition.choices? with
      | some choices => "\n\tChoices: " ++ ", ".intercalate choices
      | none => ""
    s!"{head}\n\tType: {definition.form.kind.tag}\n\tExample: {definition.sample}{choices}"
  else head

/-! ## Reading -/

inductive Field
  | description
  | sample
  | group
  | choices
  deriving DecidableEq, Repr

def Field.name : Field → String
  | description => "description"
  | sample => "example"
  | group => "group"
  | choices => "choices"

/-- The fields of a kind, in the order in which messages list them. -/
def fieldsOf : Kind → List Field
  | .text => [.description, .sample, .group]
  | .societyId => [.description, .sample, .group]
  | .choice => [.description, .sample, .group, .choices]

def empty (form : Form) : Definition :=
  ⟨"", "", "", none, form⟩

open Yaml in
def readField (field : Field) (value : Value) (definition : Definition) :
    Except Mismatch Definition := do
  match field with
  | .description => return { definition with description := ← Shape.text value }
  | .sample => return { definition with sample := ← Shape.text value }
  | .group => return { definition with group := ← Shape.optional Shape.text value }
  | .choices => return { definition with form := .choice (← Shape.texts value) }

def itemLabel (id : String) : String :=
  label "parameter" id

def kindOf (id : String) (pairs : List (Value × Value)) : Except Fault Kind :=
  match Yaml.Shape.typeField pairs with
  | .missing => .error (.bare (.missingType (itemLabel id)))
  | .other value => .error (.bare (.typeNotText (itemLabel id) value))
  | .text tag =>
      match Kind.ofTag? tag with
      | some kind => .ok kind
      | none => .error (.unknownType .parameter tag)

def emptyForm : Kind → Form
  | .text => .text
  | .societyId => .societyId
  | .choice => .choice []

/-- Reads a definition.  It has no ID of its own yet; a store gives it one. -/
def decode (id : String) (value : Value) : Except Fault Definition := do
  match value with
  | .mapping pairs =>
      let kind ← kindOf id pairs
      let own := Value.erase "type" pairs
      match Yaml.Shape.fields (fieldsOf kind) Field.name readField own []
          (empty (emptyForm kind)) with
      | .ok definition => return definition
      | .error mismatch => throw (.context (itemLabel id) (.bare (.mismatch mismatch)))
  | _ => throw (.bare (.notMapping (itemLabel id)))

end Definition

end Chronicle.Parameter
