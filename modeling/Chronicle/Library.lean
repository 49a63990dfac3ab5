import Chronicle.Path
import Chronicle.Template

/-!
# Libraries

A library holds all templates of one set of files under their IDs, with the
aliases under which they can be looked up as well.  Resolving a library gives
every template what its ancestors define.  This is done on a copy, step by step,
so a fault leaves the library as it was.
-/

namespace Chronicle

structure Library where
  templates : Table Template
  aliases : Table String
  root : Option Path
  resolved : Bool

namespace Library

def empty : Library :=
  ⟨Table.empty, Table.empty, none, false⟩

/-! ## Construction -/

def insert (library : Library) (template : Template) : Except Fault Library :=
  match library.templates.get? template.id with
  | some existing =>
      .error (.duplicate .template template.id existing.locator template.locator)
  | none => .ok { library with templates := library.templates.insert template.id template }

def insertAll : List (String × Record) → Library → Except Fault Library
  | [], library => .ok library
  | (locator, record) :: rest, library => do
      let template ← Template.ofRecord locator record
      insertAll rest (← library.insert template)

/-- The template that an alias belongs to already, as its ID or as one of its
aliases. -/
def owner? (library : Library) (alias_ : String) : Option Template :=
  match library.templates.get? alias_ with
  | some template => some template
  | none => (library.aliases.get? alias_).bind library.templates.get?

/-- Registers the aliases of one template. -/
def registerAliases (template : Template) : List String → Library → Except Fault Library
  | [], library => .ok library
  | alias_ :: rest, library =>
      match library.owner? alias_ with
      | some owner => .error (.duplicate .template alias_ owner.locator template.locator)
      | none =>
          registerAliases template rest
            { library with aliases := library.aliases.insert alias_ template.id }

/-- Registers the aliases of the templates, one after the other. -/
def registerAll : List (String × Template) → Library → Except Fault Library
  | [], library => .ok library
  | (_, template) :: rest, library => do
      registerAll rest (← registerAliases template template.aliases library)

/-- The library of decoded records.  Aliases come after all templates, so that
an alias also may not be the ID of a later template. -/
def build (records : List (String × Record)) : Except Fault Library := do
  let library ← insertAll records empty
  registerAll library.templates.entries library

/-! ## Access -/

def size (library : Library) : Nat :=
  library.templates.size

/-- The template ID that an ID or an alias stands for. -/
def canonicalId (library : Library) (reference : String) : Option String :=
  if library.templates.contains reference then some reference
  else library.aliases.get? reference

/-- The template under an ID or an alias. -/
def get (library : Library) (reference : String) : Except Fault Template :=
  match (library.canonicalId reference).bind library.templates.get? with
  | some template => .ok template
  | none => .error (.notFound .template reference)

/-- Removes repetitions that stand side by side. -/
def dropRepeats : List String → List String
  | [] => []
  | [id] => [id]
  | first :: second :: rest =>
      if first = second then dropRepeats (second :: rest)
      else first :: dropRepeats (second :: rest)

/-- All template IDs in increasing order, with or without aliases. -/
def ids (library : Library) (withAliases : Bool) : List String :=
  if withAliases then
    dropRepeats ((library.templates.keys ++ library.aliases.keys).mergeSort fun left right =>
      decide (left ≤ right))
  else library.templates.keys

/-- A listing of all templates. -/
def describe (library : Library) (verbose : Bool) : String :=
  "\n".intercalate (library.templates.values.map fun template => template.describe verbose)

/-! ## Inheritance -/

/-- The templates while ancestors are being merged, and the IDs of those that
are finished. -/
structure Merge where
  templates : Table Template
  finished : List String

/-- How many templates are not on the chain. -/
def untouched (templates : Table Template) (chain : List String) : Nat :=
  (templates.keys.filter fun id => !chain.contains id).length

theorem untouched_lt
    {templates : Table Template} {chain : List String} {id : String}
    (known : id ∈ templates.keys)
    (isNew : chain.contains id = false) :
    untouched templates (chain ++ [id]) < untouched templates chain := by
  have absent : id ∉ chain := by simpa using isNew
  unfold untouched
  generalize templates.keys = keys at known
  have shrinks :
      (keys.filter fun key => !(chain ++ [id]).contains key) =
        (keys.filter fun key => !chain.contains key).filter fun key => key != id := by
    rw [List.filter_filter]
    apply List.filter_congr
    intro key _
    rw [Bool.eq_iff_iff]
    simp only [List.contains_eq_mem, List.mem_append, List.mem_singleton, Bool.not_eq_true',
      decide_eq_false_iff_not, not_or, bne_iff_ne, Bool.and_eq_true]
    exact ⟨fun both => ⟨both.2, both.1⟩, fun both => ⟨both.2, both.1⟩⟩
  rw [shrinks, List.length_filter_lt_length_iff_exists]
  exact ⟨id, by simp [known, absent], by simp⟩

theorem mem_keys_of_get?
    {templates : Table Template} {id : String} {template : Template}
    (found : templates.get? id = some template) :
    id ∈ templates.keys := by
  unfold Table.get? at found
  unfold Table.keys
  generalize templates.entries = entries at found
  induction entries with
  | nil => simp [Table.lookup] at found
  | cons head rest inductionHypothesis =>
      rw [Table.lookup] at found
      split at found
      · rename_i same
        simp [same]
      · exact List.mem_cons_of_mem _ (inductionHypothesis found)

/-- Merges the parent of a template into it, after the ancestors of the
parent. -/
def mergeParent (merge : Merge) (id parentId : String) : Except Fault Merge :=
  match merge.templates.get? parentId with
  | none => .error (.notFound .template parentId)
  | some parent =>
      match merge.templates.get? id with
      | none => .error (.notFound .template id)
      | some child => do
          let merged ← (child.inherit parent).mapError (Fault.atLocator child.locator)
          return ⟨merge.templates.insert id merged, id :: merge.finished⟩

/-- Merges the ancestors of a template into it, the farthest first.  The chain
holds the templates from which the walk came here; a template on it closes a
cycle.  Parents are those that the library names, as merging changes none. -/
def mergeAncestors (library : Library) (chain : List String) (id : String) (merge : Merge) :
    Except Fault Merge :=
  if merge.finished.contains id then .ok merge
  else if isOnChain : chain.contains id then .error (.inheritance (.cycle chain id))
  else
    match found : library.templates.get? id with
    | none => .error (.notFound .template id)
    | some template =>
        match template.parent with
        | none => .ok { merge with finished := id :: merge.finished }
        | some reference =>
            match library.canonicalId reference with
            | none => .error (.inheritance (.unknownParent id reference))
            | some parentId => do
                have _fewer := untouched_lt (mem_keys_of_get? found) (by simpa using isOnChain)
                let merged ← mergeAncestors library (chain ++ [id]) parentId merge
                mergeParent merged id parentId
termination_by untouched library.templates chain

def mergeAll (library : Library) : List String → Merge → Except Fault Merge
  | [], merge => .ok merge
  | id :: rest, merge => do mergeAll library rest (← library.mergeAncestors [] id merge)

/-- Gives every template what its ancestors define, in the order of the IDs.  A
library that is resolved stays as it is. -/
def resolve (library : Library) : Except Fault Library :=
  if library.resolved then .ok library
  else do
    let merge ← library.mergeAll library.templates.keys ⟨library.templates, []⟩
    return { library with templates := merge.templates, resolved := true }

end Library

/-! ## Inheritance in place -/

/-- A library that is being resolved, and the copy of its templates that is
worked on. -/
structure Resolving where
  library : Library
  copy : Library.Merge

namespace Resolving

/-- Merges the parent of a template into it where the copy holds it.  What a
refused merge leaves is kept in the copy. -/
def mergeParent (id parentId : String) (state : Resolving) : Resolving × Except Fault Unit :=
  match state.copy.templates.get? parentId with
  | none => (state, .error (.notFound .template parentId))
  | some parent =>
      match state.copy.templates.get? id with
      | none => (state, .error (.notFound .template id))
      | some child =>
          let (changed, outcome) := child.inheritInPlace parent
          let templates := state.copy.templates.insert id changed
          match outcome with
          | .ok () => (⟨state.library, templates, id :: state.copy.finished⟩, .ok ())
          | .error fault =>
              (⟨state.library, templates, state.copy.finished⟩,
                .error (fault.atLocator changed.locator))

/-- Merges the ancestors of a template into it in the copy.  Parents are those
that the copy names; the library is asked only which template a reference stands
for. -/
def mergeAncestors (chain : List String) (id : String) (state : Resolving) :
    Resolving × Except Fault Unit :=
  if state.copy.finished.contains id then (state, .ok ())
  else if isOnChain : chain.contains id then (state, .error (.inheritance (.cycle chain id)))
  else
    match found : state.copy.templates.get? id with
    | none => (state, .error (.notFound .template id))
    | some template =>
        match template.parent with
        | none => (⟨state.library, state.copy.templates, id :: state.copy.finished⟩, .ok ())
        | some reference =>
            match state.library.canonicalId reference with
            | none => (state, .error (.inheritance (.unknownParent id reference)))
            | some parentId =>
                have _fewer := Library.untouched_lt (Library.mem_keys_of_get? found)
                  (by simpa using isOnChain)
                match mergeAncestors (chain ++ [id]) parentId state with
                | (merged, .ok ()) => mergeParent id parentId merged
                | (left, .error fault) => (left, .error fault)
termination_by Library.untouched state.copy.templates chain

def mergeAll : List String → Resolving → Resolving × Except Fault Unit
  | [], state => (state, .ok ())
  | id :: rest, state =>
      match state.mergeAncestors [] id with
      | (merged, .ok ()) => mergeAll rest merged
      | (left, .error fault) => (left, .error fault)

end Resolving

namespace Library

/-- Resolves a library in its place: its templates are copied, the copy is
worked on, and the templates are replaced by the copy once all are finished. -/
def resolveInPlace (library : Library) : Library × Except Fault Unit :=
  if library.resolved then (library, .ok ())
  else
    match Resolving.mergeAll library.templates.keys ⟨library, library.templates, []⟩ with
    | (done, .ok ()) =>
        ({ done.library with templates := done.copy.templates, resolved := true }, .ok ())
    | (left, .error fault) => (left.library, .error fault)

/-! ## Checks -/

def validateIds (library : Library) : List String → Except Fault Unit
  | [] => .ok ()
  | id :: rest => do
      let template ← library.get id
      template.validate.mapError (Fault.atLocator template.locator)
      validateIds library rest

/-- Checks all templates in the order of their IDs. -/
def validate (library : Library) : Except Fault Unit :=
  library.validateIds (library.ids false)

/-- Builds, resolves and checks a library. -/
def load (records : List (String × Record)) : Except Fault Library := do
  let library ← (← build records).resolve
  library.validate
  return library

end Library

end Chronicle
