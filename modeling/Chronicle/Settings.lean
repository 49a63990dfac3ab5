import Chronicle.FileTree
import Chronicle.Toml.Document

/-!
# Settings of a search

A search for template files is set by where it starts, whether it goes deeper,
and which extensions it looks for.  The settings come from a TOML text or a file
with one; what it does not mention keeps its default.
-/

namespace Chronicle

/-- Extensions are given without their dot. -/
structure Settings where
  root : Path
  recursive : Bool
  extensions : List String
  deriving DecidableEq, Repr

inductive SettingsFault
  | unreadable (problem : FileProblem)
  | malformed (source : String) (fault : Toml.Fault)
  deriving DecidableEq, Repr

def SettingsFault.message : SettingsFault → String
  | unreadable problem => s!"Failed to read config file: {problem.message}"
  | malformed source fault => s!"Failed to parse config TOML: {fault.report source}"

namespace Settings

def default : Settings :=
  ⟨⟨"templates"⟩, true, ["yml", "yaml"]⟩

instance : Inhabited Settings := ⟨default⟩

/-! ## Matching -/

/-- Equality of texts but for the case of ASCII letters. -/
def sameIgnoringCase (left right : String) : Bool :=
  left.toList.map Char.toLower == right.toList.map Char.toLower

/-- The path has one of the extensions. -/
def accepts (settings : Settings) (path : Path) : Bool :=
  path.extension?.any fun extension => settings.extensions.any (sameIgnoringCase extension)

/-! ## Reading -/

def fieldNames : List String :=
  ["templates_dir", "recursive", "extensions"]

/-- A mismatch at a node, or at its key if the node has no span. -/
def mismatchAt {α : Type} (key : Toml.Key) (node : Toml.Node) (cause : Mismatch) :
    Except Toml.Fault α :=
  .error ⟨.mismatch cause, node.span?.getD key.span⟩

def readText (expected : Expectation) (key : Toml.Key) :
    Toml.Node → Except Toml.Fault String
  | .text _ value => .ok value
  | other => mismatchAt key other (.wrongType other.found expected)

def readBool (key : Toml.Key) : Toml.Node → Except Toml.Fault Bool
  | .bool _ value => .ok value
  | other => mismatchAt key other (.wrongType other.found .bool)

/-- A list of tables is a sequence as well, but none of its items is a text. -/
def readTexts (key : Toml.Key) : Toml.Node → Except Toml.Fault (List String)
  | .array _ items => items.mapM (readText .text key)
  | .tables earlier span entries =>
      (earlier ++ [Toml.Node.table .header span entries]).mapM (readText .text key)
  | other => mismatchAt key other (.wrongType other.found .sequence)

def readEntry (settings : Settings) (entry : Toml.Key × Toml.Node) :
    Except Toml.Fault Settings := do
  let (key, node) := entry
  if key.name = "templates_dir" then
    return { settings with root := ⟨← readText .path key node⟩ }
  else if key.name = "recursive" then return { settings with recursive := ← readBool key node }
  else if key.name = "extensions" then return { settings with extensions := ← readTexts key node }
  else throw ⟨.mismatch (.unknownField key.name fieldNames), key.span⟩

def readEntries (entries : Toml.Entries) : Except Toml.Fault Settings :=
  entries.foldlM readEntry default

def ofToml (source : String) : Except SettingsFault Settings :=
  match (Toml.read source).bind readEntries with
  | .ok settings => .ok settings
  | .error fault => .error (.malformed source fault)

/-- A root that is not absolute starts in the directory of the file. -/
def startingAt (file : Path) (settings : Settings) : Settings :=
  match file.parent? with
  | some directory => { settings with root := directory.join settings.root }
  | none => settings

def ofFile (files : Files) (path : Path) : Except SettingsFault Settings :=
  match (files path).bind FileTree.read with
  | .error problem => .error (.unreadable problem)
  | .ok source => (ofToml source).map (startingAt path)

end Settings

end Chronicle
