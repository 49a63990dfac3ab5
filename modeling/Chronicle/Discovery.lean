import Chronicle.Library
import Chronicle.Settings

/-!
# Discovery of template files

Template files are the files below a root with one of the extensions, in the
order of the components of their paths.  A file is known by its locator, which
is its path as seen from the root.
-/

namespace Chronicle

namespace Discovery

mutual

/-- The paths of the accepted files of a directory, at any depth or only
directly in it. -/
def collectEntries (settings : Settings) (directory : Path) : List (String × FileTree) → List Path
  | [] => []
  | (name, entry) :: rest =>
      collectEntry settings (directory.join ⟨name⟩) entry ++ collectEntries settings directory rest
termination_by structural entries => entries

def collectEntry (settings : Settings) (path : Path) : FileTree → List Path
  | .file _ => if settings.accepts path then [path] else []
  | .directory entries => if settings.recursive then collectEntries settings path entries else []
termination_by structural entry => entry

end

/-- The paths of the accepted files below the root, in their order. -/
def templateFiles (settings : Settings) (entries : List (String × FileTree)) : List Path :=
  (collectEntries settings settings.root entries).mergeSort fun left right => !right.precedes left

/-- The path as seen from the root, with slashes between its parts. -/
def locator (root path : Path) : String :=
  "/".intercalate (root.behind path)

/-- The record of one file under its locator. -/
def readRecord (files : Files) (root path : Path) : Except Fault (String × Record) := do
  let text ← ((files path).bind FileTree.read).mapError fun problem =>
    .unreadable path.text problem.message
  let record ← (Record.ofYaml text).mapError (Fault.atLocator (locator root path))
  return (locator root path, record)

/-- The records of all template files.  A root that does not exist has none. -/
def records (files : Files) (settings : Settings) : Except Fault (List (String × Record)) :=
  match files settings.root with
  | .error _ => .ok []
  | .ok (.file _) =>
      .error (.unreadable settings.root.text FileProblem.notDirectory.message)
  | .ok (.directory entries) =>
      (templateFiles settings entries).mapM (readRecord files settings.root)

end Discovery

/-- The library of all template files. -/
def Library.ofFiles (files : Files) (settings : Settings) : Except Fault Library := do
  let library ← Library.load (← Discovery.records files settings)
  return { library with root := some settings.root }

end Chronicle
