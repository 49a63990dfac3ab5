import Chronicle.Library

/-!
# Commands on a library

Each command answers with lines of text, or with the fault that stopped it;
nothing of an answer is shown unless all of it is.
-/

namespace Chronicle

/-- Templates are named by their ID or by an alias. -/
inductive Command
  | list (withAliases verbose : Bool)
  | describe (reference : String)
  | parameters (reference : String) (verbose : Bool)
  | sample (reference : String)
  | check (reference : String) (written : List String)
  deriving DecidableEq, Repr

namespace Command

/-- An alias is shown with the ID that it stands for. -/
def listLine (library : Library) (verbose : Bool) (id : String) : Except Fault String := do
  let template ← library.get id
  return if template.id = id then template.describe verbose
    else s!"- {id} (alias of {template.id})"

def detail (name : String) (items : List String) : String :=
  s!"\t{name}: " ++ ", ".intercalate items

def details (template : Template) : List String :=
  [template.describe true] ++ template.parent.toList.map (fun parent => detail "Inherits" [parent]) ++
    [detail "Content" (template.contentIds false), detail "Presets" template.presetIds,
      detail "Parameters" template.parameters.keys]

/-- The lines that a command shows. -/
def lines (library : Library) : Command → Except Fault (List String)
  | list withAliases verbose => (library.ids withAliases).mapM (listLine library verbose)
  | describe reference => do return details (← library.get reference)
  | parameters reference verbose => do
      return [(← library.get reference).parameters.describe verbose]
  | sample reference => do
      return [" ".intercalate (← library.get reference).parameters.sampleArguments]
  | check reference written => do
      let template ← library.get reference
      return (← template.prepare written).write

end Command

end Chronicle
