import Chronicle.Yaml.Event

/-!
# Nodes of a document

The first document of a YAML text is a sequence of nodes, with the targets of
its aliases.  A fault of the text is kept behind the nodes that could still be
read, so that a reader of the nodes meets it only when it gets that far.
-/

namespace Chronicle.Yaml

/-- Events as readers see them: an alias names the number of its anchor, and a
text without any document is one `void` node. -/
inductive Node
  | alias (anchor : Nat)
  | scalar (tag : Option Tag) (text : String) (style : ScalarStyle)
  | sequenceStart (tag : Option Tag)
  | sequenceEnd
  | mappingStart (tag : Option Tag)
  | mappingEnd
  | void
  deriving DecidableEq, Repr

structure Document where
  nodes : Array (Node × Mark)
  fault : Option Fault
  targets : List (Nat × Nat)
  goesOn : Bool

namespace Document

/-! ## Anchors -/

/-- The names and numbers of the anchors so far, and the node that each number
stands for; the latest entry counts. -/
structure Anchors where
  numbers : List (String × Nat)
  targets : List (Nat × Nat)

/-- A new anchor has as its number the count of names before it, also if its
name was there before. -/
def Anchors.define (anchors : Anchors) (name : Option String) (target : Nat) : Anchors :=
  match name with
  | none => anchors
  | some name =>
      let number := anchors.numbers.length
      let others := anchors.numbers.filter fun entry => entry.1 != name
      ⟨(name, number) :: others, (number, target) :: anchors.targets⟩

/-- Replaces names by numbers; an alias without an anchor before it ends the
document. -/
def resolve : List Event → Anchors → Array (Node × Mark) →
    Array (Node × Mark) × Anchors × Option Fault
  | [], anchors, nodes => (nodes, anchors, none)
  | event :: rest, anchors, nodes =>
      let define := fun (name : NodeName) => anchors.define name.anchor nodes.size
      match event.kind with
      | .alias name =>
          match anchors.numbers.find? fun entry => entry.1 == name with
          | some (_, number) => resolve rest anchors (nodes.push (.alias number, event.mark))
          | none => (nodes, anchors, some (.unknownAnchor event.mark))
      | .scalar name text style =>
          resolve rest (define name) (nodes.push (.scalar name.tag text style, event.mark))
      | .sequenceStart name =>
          resolve rest (define name) (nodes.push (.sequenceStart name.tag, event.mark))
      | .sequenceEnd => resolve rest anchors (nodes.push (.sequenceEnd, event.mark))
      | .mappingStart name =>
          resolve rest (define name) (nodes.push (.mappingStart name.tag, event.mark))
      | .mappingEnd => resolve rest anchors (nodes.push (.mappingEnd, event.mark))

def ofEvents : EventStream → Document
  | .empty mark => ⟨#[(.void, mark)], none, [], false⟩
  | .document events fault goesOn =>
      let (nodes, anchors, unknown) := resolve events ⟨[], []⟩ #[]
      match unknown with
      | some unknown => ⟨nodes, some unknown, anchors.targets, false⟩
      | none => ⟨nodes, fault.map .malformed, anchors.targets, goesOn⟩

def ofText (text : String) : Document :=
  ofEvents (EventStream.ofText text.toList)

end Document

/-! ## Reading -/

/-- How far a reader has come: the next node, and how many aliases it has
followed. -/
structure Progress where
  next : Nat
  jumps : Nat

abbrev Read (α : Type) := StateT Progress (Except Fault) α

/-- The names and numbers on the way from the root to a value. -/
abbrev Route := Option String

namespace Route

def root : Route :=
  none

def text (route : Route) : String :=
  route.getD "."

def field (route : Route) (name : String) : Route :=
  some <| match route with
    | none => name
    | some before => before ++ "." ++ name

def index (route : Route) (number : Nat) : Route :=
  some s!"{route.text}[{number}]"

/-- A value under a key that is not a scalar has no name. -/
def unnamed (route : Route) : Route :=
  route.field "?"

end Route

namespace Document

/-- Every alias may be followed about a hundred times, and between two aliases
every node is read once. -/
def fuel (document : Document) : Nat :=
  (100 * document.nodes.size + 2) * (document.nodes.size + 2)

def peek (document : Document) : Read (Node × Mark) := do
  match document.nodes[(← get).next]? with
  | some node => return node
  | none => throw (document.fault.getD .endOfInput)

def skip : Read Unit :=
  modify fun progress => { progress with next := progress.next + 1 }

def next (document : Document) : Read (Node × Mark) := do
  let node ← document.peek
  skip
  return node

/-- Mismatches that the reader meets get this place, unless they have one. -/
def located {α : Type} (mark : Mark) (route : Route) (read : Read α) : Read α :=
  fun progress => (read progress).mapError fun fault => fault.placedAt mark route.text

/-- Reads at the target of an alias and comes back. -/
def follow {α : Type} (document : Document) (anchor : Nat) (read : Read α) : Read α := do
  let progress ← get
  if document.nodes.size * 100 < progress.jumps + 1 then throw .tooManyAliases
  let target := (document.targets.find? fun entry => entry.1 == anchor).elim 0 Prod.snd
  set (Progress.mk target (progress.jumps + 1))
  let result ← read
  modify fun after => { after with next := progress.next }
  return result

end Document

end Chronicle.Yaml
