import Chronicle.Path
import Chronicle.Table

/-!
# File trees

A tree holds files and directories as a program sees them, with the entries of a
directory in any order.  A path is followed part by part from a directory; it
fails as soon as a part is missing or leads on from a file.
-/

namespace Chronicle

/-! ## Problems -/

/-- Why a file cannot be read. -/
inductive FileProblem
  | missing
  | notDirectory
  | isDirectory
  | notText
  | nameTooLong
  | nullInName
  | other (message : String)
  deriving DecidableEq, Repr

def FileProblem.message : FileProblem → String
  | missing => "No such file or directory (os error 2)"
  | notDirectory => "Not a directory (os error 20)"
  | isDirectory => "Is a directory (os error 21)"
  | notText => "stream did not contain valid UTF-8"
  | nameTooLong => "File name too long (os error 36)"
  | nullInName => "file name contained an unexpected NUL byte"
  | other message => message

/-! ## Trees -/

/-- A file holds a text, or bytes that are not one. -/
inductive FileTree
  | file (text : Option String)
  | directory (entries : List (String × FileTree))
  deriving Repr

/-- What paths lead to. -/
abbrev Files := Path → Except FileProblem FileTree

namespace FileTree

instance : Inhabited FileTree := ⟨.directory []⟩

def read : FileTree → Except FileProblem String
  | file (some text) => .ok text
  | file none => .error .notText
  | directory _ => .error .isDirectory

/-- How many bytes a name and a whole path may have. -/
def nameLimit : Nat :=
  255

def pathLimit : Nat :=
  4095

/-- Follows the parts of a path.  The directories above are known as far as the
walk came down from them; above the first one there is only itself. -/
def walk : List FileTree → FileTree → List String → Except FileProblem FileTree
  | _, here, [] => .ok here
  | _, file _, _ :: _ => .error .notDirectory
  | above, here@(directory entries), part :: rest =>
      if Path.isFiller part then walk above here rest
      else if part = ".." then
        match above with
        | [] => walk [] here rest
        | parent :: higher => walk higher parent rest
      else if nameLimit < part.utf8ByteSize then .error .nameTooLong
      else
        match Table.lookup part entries with
        | none => .error .missing
        | some next => walk (here :: above) next rest

/-- The paths that start in a directory.  Absolute paths do not, and the empty
path leads nowhere. -/
def files (tree : FileTree) : Files := fun path =>
  if path.text.toList.contains '\x00' then .error .nullInName
  else if pathLimit < path.text.utf8ByteSize then .error .nameTooLong
  else if path.text.isEmpty || path.isAbsolute then .error .missing
  else walk [] tree path.parts

/-! ## Files of a tree -/

mutual

def filesOfEntries : List (String × FileTree) → List (List String × Option String)
  | [] => []
  | (name, entry) :: rest => filesOfEntry name entry ++ filesOfEntries rest
termination_by structural entries => entries

def filesOfEntry (name : String) : FileTree → List (List String × Option String)
  | file text => [([name], text)]
  | directory entries =>
      (filesOfEntries entries).map fun found => (name :: found.1, found.2)
termination_by structural entry => entry

end

/-- The texts of the files below a directory under the names that lead to
them. -/
def filesBelow : FileTree → List (List String × Option String)
  | file _ => []
  | directory entries => filesOfEntries entries

/-! ## Writing -/

/-- What a directory lists.  A file lists nothing. -/
def listed : FileTree → List (String × FileTree)
  | directory entries => entries
  | file _ => []

/-- What a name leads to, or an empty directory if there is nothing. -/
def next (name : String) (tree : FileTree) : FileTree :=
  (Table.lookup name tree.listed).getD (directory [])

/-- Changes what the names lead to, which is an empty directory if it is not
there yet.  A file on the way gives way to a directory. -/
def alter (change : FileTree → FileTree) : List String → FileTree → FileTree
  | [], tree => change tree
  | name :: rest, tree =>
      directory (Table.setEntry name (alter change rest (tree.next name)) tree.listed)

/-- Makes the directories that the names lead through. -/
def makeDirectories (names : List String) (tree : FileTree) : FileTree :=
  alter (fun here => here) names tree

/-- Writes a file, with the directories on the way to it. -/
def write (text : Option String) (names : List String) (tree : FileTree) : FileTree :=
  alter (fun _ => file text) names tree

end FileTree

end Chronicle
