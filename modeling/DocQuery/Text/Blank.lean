/-
Module: DocQuery.Text.Blank
Purpose: White space, and texts with the white space at their ends removed.
Main exports: blankRanges, isBlank, dropBlank, trimBlank, trimText
-/
import DocQuery.Text.Ranges

namespace DocQuery.Text

/-- White space of every script: the ASCII blanks, the four ASCII separators, the next-line
character and the space, line and paragraph separators. -/
def blankRanges : List (Nat × Nat) :=
  [ (0x9, 0xd), (0x1c, 0x20), (0x85, 0x85), (0xa0, 0xa0), (0x1680, 0x1680), (0x2000, 0x200a),
    (0x2028, 0x2029), (0x202f, 0x202f), (0x205f, 0x205f), (0x3000, 0x3000) ]

/-- A white-space character. -/
def isBlank (c : Char) : Bool :=
  inRanges blankRanges c.toNat

/-- What is left of a text after its leading white space. -/
def dropBlank (cs : List Char) : List Char :=
  cs.dropWhile isBlank

/-- A text without the characters of a class at its end. -/
def dropEnd (p : Char → Bool) (cs : List Char) : List Char :=
  (cs.reverse.dropWhile p).reverse

/-- A text without white space at either end. -/
def trimBlank (cs : List Char) : List Char :=
  dropEnd isBlank (dropBlank cs)

/-- A text without white space at either end. -/
def trimText (s : String) : String :=
  String.ofList (trimBlank s.toList)

end DocQuery.Text
