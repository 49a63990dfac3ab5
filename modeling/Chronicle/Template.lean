import Chronicle.Content.Decode
import Chronicle.Parameter.Store

/-!
# Chronicle templates

A template is a named bundle of content, presets and parameters.  It is made
from a record, may take over everything of an ancestor, and can be checked for
references that lead nowhere.
-/

namespace Chronicle

open Content (Entry)

structure Template where
  id : String
  description : String
  parent : Option String
  aliases : List String
  locator : String
  content : Table Entry
  presets : Table Entry
  parameters : Parameter.Store

namespace Template

def itemLabel (id : String) : String :=
  label "template" id

/-! ## Construction -/

/-- The preset that fills the content of its own template. -/
def defaultPreset : String :=
  "default"

/-- Fills the entries from the default preset, if the presets hold it. -/
def fillContent (presets content : Table Entry) : Table Entry :=
  match presets.get? defaultPreset with
  | some preset => content.mapValues fun entry => entry.fill preset
  | none => content

/-- A text that is there and not empty. -/
def present (text : Option String) : Option String :=
  text.filter fun text => !text.isEmpty

/-- The template of a record.  It needs an ID and a description; an empty parent
is none. -/
def ofRecord (locator : String) (record : Record) : Except Fault Template :=
  match present record.id with
  | none => .error ((Fault.bare .missingId).atLocator locator)
  | some id =>
      match present record.description with
      | none => .error ((Fault.bare (.missingDescription id)).atLocator locator)
      | some description => do
          let wrapped := fun {α : Type} (outcome : Except Fault α) =>
            (within (itemLabel id) outcome).mapError (Fault.atLocator locator)
          let content ← wrapped (Content.decodeMap (record.content.getD []))
          let presets ← wrapped (Content.decodeMap (record.presets.getD []))
          let parameters ← wrapped (Parameter.Store.ofPairs (record.parameters.getD []))
          return {
            id := id
            description := description
            parent := present record.parent
            aliases := record.aliases.getD []
            locator := locator
            content := fillContent presets content
            presets := presets
            parameters := parameters }

/-! ## Access -/

def entry (template : Template) (id : String) : Except Fault Entry :=
  match template.content.get? id with
  | some entry => .ok entry
  | none => .error (.context (itemLabel template.id) (.notFound .content id))

def preset (template : Template) (id : String) : Except Fault Entry :=
  match template.presets.get? id with
  | some entry => .ok entry
  | none => .error (.context (itemLabel template.id) (.notFound .preset id))

/-- The keys of the content.  Without aliases only those under which an entry
has its own ID. -/
def contentIds (template : Template) (withAliases : Bool) : List String :=
  (template.content.entries.filter fun entry => withAliases || entry.1 == entry.2.id).map Prod.fst

def presetIds (template : Template) : List String :=
  template.presets.keys

def describe (template : Template) (verbose : Bool) : String :=
  if verbose then
    s!"- {template.id}\n\tDesc: {template.description}\n\tFile: {template.locator}"
  else if template.description.isEmpty then s!"- {template.id}"
  else s!"- {template.id}: {template.description}"

/-! ## Inheritance -/

/-- The first content ID, in increasing order, that both templates have. -/
def firstSharedContent (template ancestor : Template) : Option String :=
  ancestor.content.keys.find? template.content.contains

/-- Takes over all content, parameters and presets of an ancestor.  Content and
parameters may not share an ID; of two presets under one ID the own one
stays. -/
def inherit (template ancestor : Template) : Except Fault Template := do
  match template.firstSharedContent ancestor with
  | some id =>
      throw (.inheritance (.sharedContent id ancestor.id template.id))
  | none =>
      match template.parameters.firstShared ancestor.parameters with
      | some id =>
          throw (.context s!"inheriting '{ancestor.id}' into '{template.id}'"
            (.duplicate .parameter id template.id ancestor.id))
      | none =>
          let parameters ← template.parameters.inherit ancestor.parameters
          return { template with
            content := template.content.union ancestor.content
            presets := template.presets.union ancestor.presets
            parameters := parameters }

/-- Takes over what an ancestor has step by step: the parameters first, then the
content and the presets.  A step that is refused leaves what the steps before it
did. -/
def inheritInPlace (template ancestor : Template) : Template × Except Fault Unit :=
  match template.firstSharedContent ancestor with
  | some id => (template, .error (.inheritance (.sharedContent id ancestor.id template.id)))
  | none =>
      match template.parameters.firstShared ancestor.parameters with
      | some id =>
          (template, .error (.context s!"inheriting '{ancestor.id}' into '{template.id}'"
            (.duplicate .parameter id template.id ancestor.id)))
      | none =>
          let (grown, outcome) := template.parameters.inheritInPlace ancestor.parameters
          let begun := { template with parameters := grown }
          match outcome with
          | .error fault => (begun, .error fault)
          | .ok () =>
              ({ begun with
                content := begun.content.overwrite ancestor.content.entries
                presets := begun.presets.supplement ancestor.presets.entries }, .ok ())

/-! ## Checks -/

/-- The first preset in the list that the template does not have. -/
def missingPreset (template : Template) (entry : Entry) : Option String :=
  entry.presets.find? fun id => !template.presets.contains id

/-- The first key of the content of a choice that its parameter does not
list. -/
def unknownChoice (definition : Parameter.Definition) : Entry → Option String
  | .choice _ _ content =>
      definition.choices?.bind fun choices =>
        (content.map Prod.fst).find? fun choice => !choices.contains choice
  | _ => none

/-- The references of one entry, without those of the entries nested in it. -/
def validateOwn (template : Template) (entry : Entry) : Except Fault Unit := do
  match template.missingPreset entry with
  | some id => throw (.notFound .preset id)
  | none =>
      match entry.parameter with
      | none => return ()
      | some id =>
          let definition ← template.parameters.require id
          match unknownChoice definition entry with
          | some choice => throw (.validation (.unknownChoice choice id))
          | none => return ()

def contentLabel (id : String) : String :=
  label "content" id

mutual

/-- The references of an entry and then, in order, of the entries nested in
it. -/
def validateEntry (template : Template) : Entry → Except Fault Unit
  | .trigger heading parameter content => do
      template.validateOwn (.trigger heading parameter content)
      validateEntries template content
  | .choice heading parameter content => do
      template.validateOwn (.choice heading parameter content)
      validateBlocks template content
  | .text heading area lettering => template.validateOwn (.text heading area lettering)
  | .multiline heading area lettering lines =>
      template.validateOwn (.multiline heading area lettering lines)
  | .rectangle heading area color transparency =>
      template.validateOwn (.rectangle heading area color transparency)
termination_by structural entry => entry

def validateEntries (template : Template) : List (String × Entry) → Except Fault Unit
  | [] => .ok ()
  | (_, entry) :: rest => do
      within (contentLabel entry.id) (validateEntry template entry)
      validateEntries template rest
termination_by structural entries => entries

def validateBlocks (template : Template) :
    List (String × List (String × Entry)) → Except Fault Unit
  | [] => .ok ()
  | (_, block) :: rest => do
      validateEntries template block
      validateBlocks template rest
termination_by structural blocks => blocks

end

/-- Checks the parameters, and then all references in the order of the content
IDs. -/
def validate (template : Template) : Except Fault Unit :=
  within (itemLabel template.id) do
    template.parameters.validate
    template.content.entries.forM fun entry =>
      within (contentLabel entry.1) (template.validateEntry entry.2)

/-! ## Arguments -/

/-- Reads arguments and checks them against the parameters of the template. -/
def prepare (template : Template) (written : List String) : Except Fault Arguments := do
  let arguments ← Arguments.parse written
  let (processed, outcome) := template.parameters.process arguments
  within (itemLabel template.id) outcome
  return processed

end Template

end Chronicle
