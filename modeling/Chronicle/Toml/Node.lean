import Chronicle.Decimal.Binary64
import Chronicle.Toml.Key

/-!
# The data of a TOML text

Values and tables are kept with their spans.  Tables grow key by key and header
by header; a path of keys leads through the tables that are there and makes
those that are not.  What was written as a whole, and what a header defined, is
not extended by dotted keys.
-/

namespace Chronicle.Toml

open Decimal (Binary64)

/-- How a table came to be: written in braces, under a header of its own, on the
way of a header, or on the way of a dotted key. -/
inductive Origin
  | braces
  | header
  | wayside
  | dotted
  deriving DecidableEq, Repr

/-- Tables made on the way have no span.  A list of tables, each under a header
of its own, holds its last table apart from the earlier ones. -/
inductive Node
  | text (span : Span) (value : String)
  | integer (span : Span) (value : Int)
  | float (span : Span) (value : Binary64)
  | bool (span : Span) (value : Bool)
  | moment (span : Span)
  | array (span : Span) (items : List Node)
  | table (origin : Origin) (span : Option Span) (entries : List (Key × Node))
  | tables (earlier : List Node) (span : Option Span) (entries : List (Key × Node))
  deriving Repr

abbrev Entries := List (Key × Node)

/-- From the start of the first span to the end of the last. -/
def hull (first last : Option Span) : Option Span := do
  return ⟨(← first).start, (← last).stop⟩

namespace Node

/-- What a fault calls a value that is not a table. -/
def kind : Node → String
  | text .. => "string"
  | integer .. => "integer"
  | float .. => "float"
  | bool .. => "boolean"
  | moment .. => "datetime"
  | array .. => "array"
  | table .. => "inline table"
  | tables .. => "array of tables"

def span? : Node → Option Span
  | text span _ => some span
  | integer span _ => some span
  | float span _ => some span
  | bool span _ => some span
  | moment span => some span
  | array span _ => some span
  | table _ span _ => span
  | tables [] span _ => span
  | tables (first :: _) span _ => hull (span? first) span

/-- How mismatches name a value. -/
def found : Node → Found
  | text _ value => .text value
  | integer _ value => .integer value
  | float _ value => .float value
  | bool _ value => .bool value
  | moment _ => .map
  | array .. => .sequence
  | table .. => .map
  | tables .. => .sequence

end Node

/-! ## Entries -/

namespace Entries

def get? (name : String) : Entries → Option Node
  | [] => none
  | entry :: rest => if entry.1.name = name then some entry.2 else get? name rest

def contains (name : String) (entries : Entries) : Bool :=
  entries.any fun entry => entry.1.name == name

/-- Replaces the value under a key; the key stays where it is. -/
def replace (name : String) (node : Node) (entries : Entries) : Entries :=
  entries.map fun entry => if entry.1.name = name then (entry.1, node) else entry

def erase (name : String) (entries : Entries) : Entries :=
  entries.filter fun entry => entry.1.name != name

/-- Replaces the value under a key, or adds the key at the end. -/
def put (key : Key) (node : Node) (entries : Entries) : Entries :=
  if entries.contains key.name then entries.replace key.name node else entries ++ [(key, node)]

end Entries

/-! ## Walks -/

/-- Who follows a path of keys. -/
inductive Walk
  | header
  | dottedKey
  | bracedKey
  deriving DecidableEq, Repr

namespace Walk

/-- The origin of the tables that the walk makes. -/
def origin : Walk → Origin
  | header => .wayside
  | dottedKey => .dotted
  | bracedKey => .dotted

/-- Why the walk may not go on into a table; `path` leads there. -/
def obstacle? (walk : Walk) (path : List Key) (key : Key) : Origin → Option Violation
  | .braces =>
      if walk = .bracedKey then some (.repeatedKey key.name none)
      else some (.notTable (path.map Key.name) "inline table")
  | .header => if walk = .dottedKey then some (.repeatedKey key.name none) else none
  | .wayside => none
  | .dotted => none

/-- Acts on the table that a path leads to, and gives the result and the changed
entries.  `passed` are the keys followed so far, and a list of tables stands for
its last one. -/
def follow {α : Type} (walk : Walk)
    (action : Origin → Entries → Except Violation (α × Entries)) (passed : List Key) :
    List Key → Origin → Entries → Except Violation (α × Entries)
  | [], origin, entries => action origin entries
  | key :: rest, _, entries => do
      let path := passed ++ [key]
      match Entries.get? key.name entries with
      | none =>
          let (result, made) ← follow walk action path rest walk.origin []
          return (result, entries ++ [(key, .table walk.origin none made)])
      | some (.table origin span inner) =>
          match walk.obstacle? path key origin with
          | some violation => throw violation
          | none =>
              let (result, changed) ← follow walk action path rest origin inner
              return (result, Entries.replace key.name (.table origin span changed) entries)
      | some (.tables earlier span inner) =>
          let (result, changed) ← follow walk action path rest .header inner
          return (result, Entries.replace key.name (.tables earlier span changed) entries)
      | some other => throw (.notTable (path.map Key.name) other.kind)

/-- Adds a value under a dotted key, whose last part is given on its own.
`table` names the table that the key was written in. -/
def add (walk : Walk) (table : Option (List String)) (path : List Key) (key : Key) (node : Node)
    (origin : Origin) (entries : Entries) : Except Violation Entries := do
  let (_, changed) ← walk.follow (fun found inner =>
    if (found == .dotted) == path.isEmpty then .error (.repeatedKey key.name none)
    else if Entries.contains key.name inner then .error (.repeatedKey key.name table)
    else .ok ((), inner ++ [(key, node)])) [] path origin entries
  return changed

end Walk

/-! ## Tables under headers -/

/-- A text while it is being read: the tables that are complete, and the one
that is being filled.  The first one has no path and is the root. -/
structure Draft where
  root : Entries
  path : List Key
  isElement : Bool
  span : Option Span
  entries : Entries

namespace Draft

def empty : Draft :=
  ⟨[], [], false, none, []⟩

/-- Adds a value to the table that is being filled, which then reaches to the
end of the value. -/
def add (draft : Draft) (path : List Key) (key : Key) (node : Node) : Except Violation Draft := do
  let entries ← Walk.dottedKey.add (some (draft.path.map Key.name)) path key node .header
    draft.entries
  return { draft with entries := entries, span := (hull draft.span node.span?).or draft.span }

/-- Puts the table that was being filled under the last key of its path. -/
def place (draft : Draft) (key : Key) (entries : Entries) : Entries :=
  if draft.isElement then
    match Entries.get? key.name entries with
    | some (.tables earlier first last) =>
        let passed := Node.table .header first last
        Entries.replace key.name (.tables (earlier ++ [passed]) draft.span draft.entries) entries
    | _ => entries.put key (.tables [] draft.span draft.entries)
  else entries.put key (.table .header draft.span draft.entries)

/-- The tables with the one that was being filled. -/
def finish (draft : Draft) : Except Violation Entries :=
  match draft.path.getLast? with
  | none => .ok draft.entries
  | some key => do
      let (_, root) ← Walk.header.follow (fun _ entries => .ok ((), draft.place key entries)) []
        draft.path.dropLast .header draft.root
      return root

/-- What a header finds under its last key: nothing, or a table that was only
passed so far, whose entries it takes over.  The key is taken out until the
table is finished. -/
def reopen (parents : List Key) (key : Key) (entries : Entries) :
    Except Violation (Entries × Entries) :=
  match Entries.get? key.name entries with
  | none => .ok ([], entries)
  | some (.table .wayside _ inner) => .ok (inner, entries.erase key.name)
  | some _ => .error (.repeatedKey key.written (some (parents.map Key.name)))

/-- The header of a list needs nothing under its last key, or a list to go on
with. -/
def checkElement (parents : List Key) (key : Key) (entries : Entries) :
    Except Violation (Unit × Entries) :=
  match Entries.get? key.name entries with
  | none => .ok ((), entries)
  | some (.tables ..) => .ok ((), entries)
  | some _ => .error (.repeatedKey key.written (some (parents.map Key.name)))

/-- Starts the table of a header. -/
def openTable (draft : Draft) (parents : List Key) (key : Key) (span : Span) :
    Except Violation Draft := do
  let (inherited, root) ← Walk.header.follow (fun _ => reopen parents key) [] parents .header
    (← draft.finish)
  return ⟨root, parents ++ [key], false, some span, inherited⟩

/-- Starts another table in the list of a header. -/
def openElement (draft : Draft) (parents : List Key) (key : Key) (span : Span) :
    Except Violation Draft := do
  let (_, root) ← Walk.header.follow (fun _ => checkElement parents key) [] parents .header
    (← draft.finish)
  return ⟨root, parents ++ [key], true, some span, []⟩

end Draft

end Chronicle.Toml
