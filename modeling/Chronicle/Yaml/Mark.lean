/-!
# Places in a text

Places are counted in bytes from the start, and in lines and columns of
characters.  Lines and columns are shown counted from one.
-/

namespace Chronicle.Yaml

structure Mark where
  index : Nat
  line : Nat
  column : Nat
  deriving DecidableEq, Repr

namespace Mark

def start : Mark :=
  ⟨0, 0, 0⟩

instance : Inhabited Mark := ⟨start⟩

/-- The place after one more character of the same line. -/
def next (mark : Mark) (character : Char) : Mark :=
  { mark with index := mark.index + character.utf8Size, column := mark.column + 1 }

/-- The place after a line break of the given number of bytes. -/
def nextLine (mark : Mark) (width : Nat) : Mark :=
  ⟨mark.index + width, mark.line + 1, 0⟩

/-- The first character of a text has no place worth naming. -/
def isOrigin (mark : Mark) : Bool :=
  mark.line == 0 && mark.column == 0

def sameSpot (left right : Mark) : Bool :=
  left.line == right.line && left.column == right.column

def text (mark : Mark) : String :=
  s!"line {mark.line + 1} column {mark.column + 1}"

/-- The place as the end of a sentence, empty at the first character. -/
def suffix (mark : Mark) : String :=
  if mark.isOrigin then "" else s!" at {mark.text}"

end Mark

end Chronicle.Yaml
