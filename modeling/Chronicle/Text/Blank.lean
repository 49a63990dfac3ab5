import Chronicle.Text.CodeRange

/-!
# Blanks

Blank characters are those with the Unicode property `White_Space`.  They are
trimmed from both ends of a text; a trimmed text neither starts nor ends with a
blank.
-/

namespace Chronicle.Text

/-! ## The property -/

/-- The characters with the property `White_Space`. -/
def blankRanges : CodeRanges :=
  [(0x9, 0xd), (0x20, 0x20), (0x85, 0x85), (0xa0, 0xa0), (0x1680, 0x1680), (0x2000, 0x200a),
    (0x2028, 0x2029), (0x202f, 0x202f), (0x205f, 0x205f), (0x3000, 0x3000)]

def isBlank (character : Char) : Bool :=
  blankRanges.holds character

example : ("\t \u00a0\u3000".toList.all isBlank, "\u200b\ufeffa".toList.any isBlank) =
    (true, false) := by
  decide

/-! ## Trimming -/

/-- The characters from the first to the last one that is not blank. -/
def trimBlanks (characters : List Char) : List Char :=
  ((characters.dropWhile isBlank).reverse.dropWhile isBlank).reverse

/-- The text without the blanks at its two ends. -/
def trim (text : String) : String :=
  String.ofList (trimBlanks text.toList)

/-- The text holds blanks only, or nothing. -/
def isAllBlank (text : String) : Bool :=
  text.toList.all isBlank

end Chronicle.Text
