import Chronicle.Yaml.Decode

/-!
# Faults of a template library

A fault says what went wrong, wrapped in the names of the places where it
happened.  A fault that arose while a file was loaded keeps the locator of that
file.  Wrapping never changes the fault at the root, except that the first
locator given to a bare load fault becomes its own.
-/

namespace Chronicle

/-! ## Subjects and labels -/

/-- The kinds of things that have an ID. -/
inductive Subject
  | template
  | content
  | preset
  | parameter
  | choice
  deriving DecidableEq, Repr

def Subject.name : Subject → String
  | template => "template"
  | content => "content"
  | preset => "preset"
  | parameter => "parameter"
  | choice => "choice"

/-- How messages name one of many things of a kind. -/
def label (kind id : String) : String :=
  s!"{kind} '{id}'"

/-! ## Causes -/

/-- Why a record cannot be made into a template.  `item` names the part of the
record at fault. -/
inductive LoadCause
  | missingId
  | missingDescription (template : String)
  | notMapping (item : String)
  | missingType (item : String)
  | typeNotText (item : String) (found : Yaml.Value)
  | keyNotText (found : Yaml.Value)
  | mismatch (cause : Mismatch)
  | document (fault : Yaml.Fault)
  | stated (message : String)
  deriving Repr

def LoadCause.message : LoadCause → String
  | missingId => "template does not contain an ID"
  | missingDescription template => s!"template '{template}' does not contain a description"
  | notMapping item => s!"{item} is not a mapping"
  | missingType item => s!"{item}: missing or empty 'type' field"
  | typeNotText item found => s!"{item}: 'type' must be a string, found {found.detail}"
  | keyNotText found => s!"expected a string key, found {found.detail}"
  | mismatch cause => cause.message
  | document fault => fault.message
  | stated message => message

inductive InheritanceCause
  | unknownParent (template parent : String)
  | cycle (chain : List String) (again : String)
  | sharedContent (content parent child : String)
  | stated (message : String)
  deriving DecidableEq, Repr

def InheritanceCause.message : InheritanceCause → String
  | unknownParent template parent =>
      s!"template '{template}' inherits from unknown template '{parent}'"
  | cycle chain again =>
      "inheritance cycle: " ++ " -> ".intercalate chain ++ " -> " ++ again
  | sharedContent content parent child =>
      s!"content ID '{content}' cannot be inherited from '{parent}', " ++
        s!"because it already exists in '{child}'"
  | stated message => message

inductive ValidationCause
  | noSeparator (argument : String)
  | emptyKey (argument : String)
  | repeatedKey (key : String)
  | noParameter
  | malformedId
  | noDescription
  | noExample
  | exampleNotSocietyId (sample : String)
  | argumentNotSocietyId (argument : String)
  | noChoices
  | repeatedChoice (choice : String)
  | exampleNotChoice (sample : String)
  | argumentNotChoice (argument : String) (choices : List String)
  | takenDerivedKey (key : String)
  | unknownChoice (choice parameter : String)
  | stated (message : String)
  deriving DecidableEq, Repr

def ValidationCause.message : ValidationCause → String
  | noSeparator argument => s!"argument '{argument}' is not of the form <key>=<value>"
  | emptyKey argument => s!"argument '{argument}' has an empty key"
  | repeatedKey key => s!"argument '{key}' provided more than once"
  | noParameter => "no corresponding parameter registered for template"
  | malformedId => "ID must be non-empty, without surrounding whitespace and without '='"
  | noDescription => "missing description"
  | noExample => "missing example value"
  | exampleNotSocietyId sample =>
      s!"example '{sample}' is not a society ID of the form <player>-<character>"
  | argumentNotSocietyId text =>
      s!"'{text}' is not a society ID of the form <player>-<character>"
  | noChoices => "no choices defined"
  | repeatedChoice choice => s!"choice '{choice}' listed more than once"
  | exampleNotChoice sample => s!"example '{sample}' is not one of the choices"
  | argumentNotChoice text choices => s!"'{text}' is not one of: " ++ ", ".intercalate choices
  | takenDerivedKey key => s!"derived argument '{key}' is also defined as a parameter"
  | unknownChoice choice parameter =>
      s!"'{choice}' is not a choice of parameter '{parameter}'"
  | stated message => message

/-- A caller broke the contract of a parameter store, which is no fault of any
file. -/
inductive Refusal
  | conflictingId (key id : String)
  | addedTwice (key : String)
  deriving DecidableEq, Repr

def Refusal.message : Refusal → String
  | conflictingId key id => s!"parameter key '{key}' conflicts with entry ID '{id}'"
  | addedTwice key => s!"parameter '{key}' added twice"

/-! ## Faults -/

inductive Fault
  | load (cause : LoadCause) (locator : Option String) (offset : Option Nat)
  | duplicate (subject : Subject) (id first second : String)
  | unknownType (subject : Subject) (tag : String)
  | inheritance (cause : InheritanceCause)
  | validation (cause : ValidationCause)
  | notFound (subject : Subject) (id : String)
  | unreadable (path problem : String)
  | refused (refusal : Refusal)
  | context (text : String) (inner : Fault)
  deriving Repr

namespace Fault

/-! ## Construction -/

/-- A load fault without a place. -/
def bare (cause : LoadCause) : Fault :=
  .load cause none none

/-- A fault of a YAML text, with the place where it was noticed. -/
def ofYaml (fault : Yaml.Fault) : Fault :=
  .load (.document fault) none fault.offset

/-- Names the file: a load fault without a locator takes it, every other fault
is wrapped. -/
def atLocator (locator : String) : Fault → Fault
  | .load cause none offset => .load cause (some locator) offset
  | fault => .context s!"in '{locator}'" fault

/-! ## Views -/

/-- The fault below all contexts. -/
def root : Fault → Fault
  | .context _ inner => root inner
  | fault => fault

/-- The contexts, outermost first. -/
def contexts : Fault → List String
  | .context text inner => text :: contexts inner
  | _ => []

/-- The whole text: the contexts and the root, joined by colons. -/
def message : Fault → String
  | .load cause _ _ => "load error: " ++ cause.message
  | .duplicate subject id first second =>
      s!"duplicate {subject.name} ID '{id}' ({first} and {second})"
  | .unknownType subject tag => s!"unknown {subject.name} type '{tag}'"
  | .inheritance cause => "inheritance error: " ++ cause.message
  | .validation cause => "validation error: " ++ cause.message
  | .notFound subject id => s!"{subject.name} not found: '{id}'"
  | .unreadable path problem => s!"failed to read '{path}': {problem}"
  | .refused refusal => refusal.message
  | .context text inner => s!"{text}: {inner.message}"

end Fault

/-- Runs under a context that every fault is wrapped in. -/
def within {α : Type} (text : String) (outcome : Except Fault α) : Except Fault α :=
  outcome.mapError (.context text)

end Chronicle
