import Chronicle.Parameter.Definition

/-!
# Parameter stores

A store holds the definitions of one template under their IDs.  Definitions are
added one by one, from the mapping of a record or from the store of an ancestor,
and no ID is ever taken twice.
-/

namespace Chronicle.Parameter

open Yaml (Value)

structure Store where
  table : Table Definition

namespace Store

def empty : Store :=
  ⟨Table.empty⟩

instance : Inhabited Store := ⟨empty⟩

/-! ## Access -/

def get? (store : Store) (id : String) : Option Definition :=
  store.table.get? id

def require (store : Store) (id : String) : Except Fault Definition :=
  match store.get? id with
  | some definition => .ok definition
  | none => .error (.notFound .parameter id)

def contains (store : Store) (id : String) : Bool :=
  store.table.contains id

/-- The IDs in increasing order. -/
def keys (store : Store) : List String :=
  store.table.keys

def size (store : Store) : Nat :=
  store.table.size

/-! ## Additions -/

/-- Adds a definition under an ID, which becomes its own.  A definition that has
another ID, and an ID that is taken, break the contract of the store. -/
def add (store : Store) (id : String) (definition : Definition) : Except Refusal Store :=
  if !definition.id.isEmpty && definition.id != id then .error (.conflictingId id definition.id)
  else if store.contains id then .error (.addedTwice id)
  else .ok ⟨store.table.insert id { definition with id := id }⟩

/-- The definitions of a mapping under the IDs of their keys, added to those
before.  Two keys with one ID are refused. -/
def addPairs : List (Value × Value) → List (String × String) → Store → Except Fault Store
  | [], _, store => .ok store
  | (key, value) :: rest, labels, store => do
      let id ← Record.idOfKey key
      match Table.lookup id labels with
      | some first => throw (.duplicate .parameter id first (Record.keyLabel key))
      | none =>
          let definition ← Definition.decode id value
          let added ← (store.add id definition).mapError Fault.refused
          addPairs rest ((id, Record.keyLabel key) :: labels) added

def ofPairs (pairs : List (Value × Value)) : Except Fault Store :=
  addPairs pairs [] empty

/-- Adds definitions under their IDs, one by one. -/
def addEntries : List (String × Definition) → Store → Except Refusal Store
  | [], store => .ok store
  | (id, definition) :: rest, store => do addEntries rest (← store.add id definition)

/-- The first ID, in increasing order, that both stores have. -/
def firstShared (store other : Store) : Option String :=
  other.keys.find? store.contains

/-- Adds all definitions of another store, or none if they share an ID. -/
def inherit (store other : Store) : Except Fault Store :=
  match store.firstShared other with
  | some id => .error (.duplicate .parameter id "inheriting store" "inherited store")
  | none => (addEntries other.table.entries store).mapError Fault.refused

/-! ## Additions in place -/

/-- Adds definitions one by one.  The definitions before a refused one stay. -/
def addInPlace : List (String × Definition) → Store → Store × Except Refusal Unit
  | [], store => (store, .ok ())
  | (id, definition) :: rest, store =>
      match store.add id definition with
      | .ok added => addInPlace rest added
      | .error refusal => (store, .error refusal)

def inheritInPlace (store other : Store) : Store × Except Fault Unit :=
  match store.firstShared other with
  | some id => (store, .error (.duplicate .parameter id "inheriting store" "inherited store"))
  | none =>
      let (grown, outcome) := addInPlace other.table.entries store
      (grown, outcome.mapError Fault.refused)

/-! ## Checks -/

/-- The checks of one definition, and of the keys that it derives, which may not
be IDs of the store. -/
def validateEntry (store : Store) (definition : Definition) : Except Fault Unit := do
  definition.validate
  match definition.derivedKeys.find? store.contains with
  | some key => throw (.validation (.takenDerivedKey key))
  | none => return ()

/-- Checks the definitions in the order of their IDs. -/
def validate (store : Store) : Except Fault Unit :=
  store.table.entries.forM fun entry =>
    within (Definition.itemLabel entry.1) (store.validateEntry entry.2)

/-- Checks the arguments with the given keys in turn.  A fault comes with the
arguments as they were then. -/
def processKeys (store : Store) : List String → Arguments → Arguments × Except Fault Unit
  | [], arguments => (arguments, .ok ())
  | key :: rest, arguments =>
      let checked := within (label "argument" key) <|
        match store.get? key with
        | none => .error (.validation .noParameter)
        | some definition => definition.process arguments
      match checked with
      | .ok processed => processKeys store rest processed
      | .error fault => (arguments, .error fault)

/-- Checks every given argument, in order, and writes what follows from it.
Derived values are not checked themselves. -/
def process (store : Store) (arguments : Arguments) : Arguments × Except Fault Unit :=
  store.processKeys arguments.keys arguments

/-! ## Texts -/

/-- The examples of all parameters as arguments. -/
def sampleArguments (store : Store) : List String :=
  store.table.values.map Definition.sampleArgument

/-- A listing of all parameters. -/
def describe (store : Store) (verbose : Bool) : String :=
  "\n".intercalate (store.table.values.map fun definition => definition.describe verbose)

end Store

end Chronicle.Parameter
