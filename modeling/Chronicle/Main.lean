import Chronicle.Answer

/-!
# The program

The program reads the files that an invocation asks for, and shows the answer.
All decisions are made on the files as they were read.
-/

namespace Chronicle

namespace Main

def problemOf : IO.Error → FileProblem
  | .noFileOrDirectory .. => .missing
  | .inappropriateType .. => .notDirectory
  | problem => .other (toString problem)

/-- An entry as it is on the disk, with everything below it. -/
partial def readTree (entry : IO.FS.DirEntry) : IO FileTree := do
  if ← entry.path.isDir then
    let mut entries := []
    for inner in ← entry.path.readDir do
      entries := (inner.fileName, ← readTree inner) :: entries
    return .directory entries
  else return .file (String.fromUTF8? (← IO.FS.readBinFile entry.path))

/-- What a path leads to from the working directory. -/
def readPath (path : Path) : IO (Path × Except FileProblem FileTree) := do
  try
    if path.text.isEmpty then return (path, .error .missing)
    return (path, .ok (← readTree ⟨".", path.text⟩))
  catch problem => return (path, .error (problemOf problem))

/-- A tree under a path, and all its files under theirs. -/
def withFiles (path : Path) (found : Except FileProblem FileTree) :
    List (Path × Except FileProblem FileTree) :=
  match found with
  | .error _ => [(path, found)]
  | .ok tree =>
      (path, found) :: (tree.filesBelow).map fun file =>
        (path.join ⟨"/".intercalate file.1⟩, .ok (.file file.2))

def filesOf (known : List (Path × Except FileProblem FileTree)) : Files := fun path =>
  match known.find? fun entry => entry.1 == path with
  | some entry => entry.2
  | none => .error .missing

/-- The files that the words of a command line ask for: the settings, and all
files below the root. -/
def filesFor (words : List String) : IO Files := do
  match Invocation.parse words with
  | .ok (.run invocation) =>
      let first ← match invocation.settingsFile with
        | some path => do pure [← readPath path]
        | none => pure []
      match Answer.settings (filesOf first) invocation with
      | .error _ => return filesOf first
      | .ok settings =>
          let (root, found) ← readPath settings.root
          return filesOf (first ++ withFiles root found)
  | _ => return filesOf []

end Main

end Chronicle

open Chronicle in
def main (words : List String) : IO UInt32 := do
  let answer := Answer.ofWords (← Main.filesFor words) words
  (← IO.getStdout).putStr answer.output
  (← IO.getStderr).putStr answer.complaint
  return answer.code.toUInt32
