/-!
# Paths

A path is a text in parts between slashes.  Empty parts and single dots do not
count, except for a dot at the very start, and two dots lead one directory up.
The extension of a file name is what follows its last dot, unless that dot is
its first character.
-/

namespace Chronicle

structure Path where
  text : String
  deriving DecidableEq, Repr

namespace Path

/-! ## Parts -/

/-- The texts between the slashes. -/
def splitSlashes : List Char → List (List Char)
  | [] => [[]]
  | character :: rest =>
      match splitSlashes rest with
      | [] => [[character]]
      | part :: others =>
          if character = '/' then [] :: part :: others else (character :: part) :: others

def parts (path : Path) : List String :=
  (splitSlashes path.text.toList).map String.ofList

def isFiller (part : String) : Bool :=
  part = "" || part = "."

def isAbsolute (path : Path) : Bool :=
  path.text.toList.head? == some '/'

/-- The mark that a path starts with, if it is absolute or starts with a dot,
and the parts behind it. -/
def lead (path : Path) : String × List String :=
  match path.parts with
  | "" :: body@(_ :: _) => ("/", body)
  | "." :: body => (".", body)
  | body => ("", body)

/-- The mark, if there is one, and the parts that count. -/
def components (path : Path) : List String :=
  (if path.lead.1 = "" then [] else [path.lead.1]) ++ path.parts.filter fun part => !isFiller part

/-- Paths below one directory are ordered by their components, one by one. -/
def precedes (first second : Path) : Bool :=
  List.lex first.components second.components fun name other => decide (name < other)

/-! ## Names -/

/-- The last part that counts, unless it leads upwards. -/
def fileName? (path : Path) : Option String :=
  match path.lead.2.reverse.dropWhile isFiller with
  | [] => none
  | name :: _ => if name = ".." then none else some name

def extensionOf? (name : List Char) : Option (List Char) :=
  match name.reverse.dropWhile fun character => character != '.' with
  | [] => none
  | [_] => none
  | _ => some (name.reverse.takeWhile fun character => character != '.').reverse

def extension? (path : Path) : Option String :=
  path.fileName?.bind fun name => (extensionOf? name.toList).map String.ofList

example :
    ["a/b.yml", ".yml", "a.", "...yml", "a.yml/.", "a/..", "x.tar.gz"].map
        (fun text => extension? ⟨text⟩) =
      [some "yml", none, some "", some "yml", some "yml", none, some "gz"] := by
  decide +kernel

/-! ## Walks -/

/-- The path without its last part that counts.  The root and the empty path
have no parent. -/
def parent? (path : Path) : Option Path :=
  let (mark, body) := path.lead
  match body.reverse.dropWhile isFiller with
  | [] => if mark = "." then some ⟨""⟩ else none
  | _ :: before =>
      let kept := "/".intercalate (before.dropWhile isFiller).reverse
      some ⟨if mark = "." ∧ kept ≠ "" then "./" ++ kept else mark ++ kept⟩

/-- The second path as seen from the first; an absolute path stays as it is. -/
def join (base child : Path) : Path :=
  if child.isAbsolute then child
  else if base.text.isEmpty || base.text.toList.getLast? == some '/' then
    ⟨base.text ++ child.text⟩
  else ⟨base.text ++ "/" ++ child.text⟩

example :
    ["c.toml", "conf//c.toml", "./c.toml", "/c.toml", "../c.toml", "a/./c.toml"].map
        (fun text => (parent? ⟨text⟩).map fun parent => (parent.join ⟨"t"⟩).text) =
      [some "t", some "conf/t", some "./t", some "/t", some "../t", some "a/t"] := by
  decide +kernel

/-- The components behind those of the base, or all of them if the path does not
start with the base. -/
def behind (base path : Path) : List String :=
  if base.components.isPrefixOf path.components then path.components.drop base.components.length
  else path.components

example :
    [("t", "t/a/b.yml"), ("./t/.", "./t/./a.yml"), ("/", "/a.yml"), ("u", "./t/a.yml")].map
        (fun (base, path) => behind ⟨base⟩ ⟨path⟩) =
      [["a", "b.yml"], ["a.yml"], ["a.yml"], [".", "t", "a.yml"]] := by
  decide +kernel

end Path

end Chronicle
