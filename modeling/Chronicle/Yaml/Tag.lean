/-!
# Tags of nodes

A tag is written with escapes for single bytes, so it may hold bytes that are no
character; such a tag has no text.  It ends at its first null character, which
only an escape can stand for.
-/

namespace Chronicle.Yaml

/-- The characters of a tag, with nothing in the place of bytes that are no
character. -/
structure Tag where
  characters : List (Option Char)
  deriving DecidableEq, Repr

namespace Tag

/-! ## Construction -/

/-- The tag up to the first null character of what was read. -/
def ofRead (characters : List (Option Char)) : Tag :=
  ⟨characters.takeWhile fun character => character != some '\x00'⟩

def ofText (text : String) : Tag :=
  ofRead (text.toList.map some)

instance : Append Tag :=
  ⟨fun left right => ⟨left.characters ++ right.characters⟩⟩

/-- The tag that stands for a kind of value of YAML itself. -/
def standard (name : String) : Tag :=
  ofText ("tag:yaml.org,2002:" ++ name)

/-- The character that bytes stand for, if it takes exactly that many of
them. -/
def character? (width codePoint : Nat) : Option Char :=
  let character := Char.ofNat codePoint
  if character.toNat = codePoint ∧ character.utf8Size = width then some character else none

/-! ## Meaning -/

def isEmpty (tag : Tag) : Bool :=
  tag.characters.isEmpty

/-- A tag of the document's own starts with an exclamation mark. -/
def isOwn (tag : Tag) : Bool :=
  tag.characters.head? == some (some '!')

def text? (tag : Tag) : Option String :=
  (tag.characters.mapM id).map String.ofList

/-- One exclamation mark less, unless nothing would be left. -/
def dropMark : List Char → List Char
  | '!' :: first :: rest => first :: rest
  | text => text

/-- The name of a tag of the document's own: its text without up to two marks.
The single mark stays. -/
def ownName? (tag : Tag) : Option String :=
  if tag.isOwn then tag.text?.map fun text => String.ofList (dropMark (dropMark text.toList))
  else none

example : (ofText "!a").ownName? = some "a" ∧ (ofText "!").ownName? = some "!" ∧
    (ofText "!!").ownName? = some "!" ∧ (ofText "a").ownName? = none ∧
    (ofText "!a" ++ ⟨[none]⟩).ownName? = none ∧ ofRead [some 'a', some '\x00', none] = ofText "a" ∧
    character? 2 0xe9 = some 'é' ∧ character? 2 0x41 = none ∧ character? 3 0xd800 = none := by
  decide +kernel

end Tag

end Chronicle.Yaml
