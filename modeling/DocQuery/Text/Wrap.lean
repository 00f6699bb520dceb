/-
Module: DocQuery.Text.Wrap
Purpose: The lines of a text: where they end, how tabs fill them, and how they are broken to fit
  into a width.
Main exports: isLineEnd, blockWidth, expandTabs, wrapLine, wrapText
-/
import DocQuery.Text.Blank
import DocQuery.Text.Split
import DocQuery.Text.Width

namespace DocQuery.Text

/-! ### Line ends -/

/-- Characters that end a line in one script or another. -/
def lineEndRanges : List (Nat × Nat) :=
  [(0xa, 0xd), (0x1c, 0x1e), (0x85, 0x85), (0x2028, 0x2029)]

/-- A character that ends a line. -/
def isLineEnd (c : Char) : Bool :=
  inRanges lineEndRanges c.toNat

/-- Columns taken by the widest line of a text. -/
def blockWidth (s : String) : Nat :=
  ((partsWhere isLineEnd s.toList).map (widthBehind none)).foldl max 0

/-! ### Tab stops -/

/-- Columns from one tab stop to the next. -/
def tabSize : Nat := 8

/-- The blanks that a tab stands for behind a text that starts at a tab stop: at least one, and as
many as it takes to the next stop. -/
def tabBlanks (cs : List Char) : List Char :=
  let column := widthBehind none (cs ++ [' '])
  List.replicate (1 + (tabSize - column % tabSize) % tabSize) ' '

/-- Parts of a line joined by the blanks of the tabs between them. -/
def joinTabs : List (List Char) → List Char
  | [] => []
  | [part] => part
  | part :: parts => part ++ tabBlanks part ++ joinTabs parts

/-- A line with blanks in the place of its tabs. -/
def expandTabs (cs : List Char) : List Char :=
  joinTabs (partsAt '\t' cs)

/-! ### Words -/

/-- A word of a line with the white space before and behind it, and the rest of the line.  Where
there is no word, there is only white space. -/
def splitWord (cs : List Char) : List Char × List Char :=
  let word := dropBlank cs
  let behind := word.dropWhile (!isBlank ·)
  (cs.takeWhile isBlank ++ word.takeWhile (!isBlank ·) ++ behind.takeWhile isBlank,
    dropBlank behind)

theorem length_splitWord_lt {c : Char} {cs : List Char} :
    (splitWord (c :: cs)).2.length < (c :: cs).length := by
  simp only [splitWord, dropBlank]
  have hblank := (List.dropWhile_sublist isBlank (l := c :: cs)).length_le
  have hword := (List.dropWhile_sublist (!isBlank ·)
    (l := (c :: cs).dropWhile isBlank)).length_le
  have hbehind := (List.dropWhile_sublist isBlank
    (l := ((c :: cs).dropWhile isBlank).dropWhile (!isBlank ·))).length_le
  by_cases hc : isBlank c
  · have htail := (List.dropWhile_sublist isBlank (l := cs)).length_le
    simp only [List.dropWhile_cons, hc, if_true] at hblank hword hbehind ⊢
    simp only [List.length_cons]
    omega
  · have htail := (List.dropWhile_sublist (!isBlank ·) (l := cs)).length_le
    simp only [List.dropWhile_cons, hc, Bool.false_eq_true, if_false, Bool.not_false,
      if_true] at hbehind ⊢
    simp only [List.length_cons]
    omega

/-- The words of a line, with all of its white space. -/
def lineWords (cs : List Char) : List (List Char) :=
  match cs with
  | [] => []
  | c :: rest => (splitWord (c :: rest)).1 :: lineWords (splitWord (c :: rest)).2
termination_by cs.length
decreasing_by exact length_splitWord_lt

/-! ### Wrapping -/

/-- Lines of words, the first of which has begun and is `column` wide.  A word goes to a new line
if it would not fit into the width, where the white space behind it does not count. -/
def fillLines (width : Nat) (line : List Char) (column : Nat) :
    List (List Char) → List (List Char)
  | [] => [line]
  | word :: rest =>
      if width < column + widthBehind none (dropEnd isBlank word) then
        line :: fillLines width word (widthBehind none word) rest
      else fillLines width (line ++ word) (column + widthBehind none word) rest

/-- A line without the white space at its end that makes it longer than a width. -/
def dropExcessBlank (width : Nat) (cs : List Char) : List Char :=
  let blanks := (cs.reverse.takeWhile isBlank).length
  cs.take (cs.length - min blanks (cs.length - width))

/-- A line broken between its words so that every part fits into a width, unless it is a single
word. -/
def wrapLine (width : Nat) (cs : List Char) : List (List Char) :=
  match lineWords cs with
  | [] => [[]]
  | word :: rest =>
      (fillLines width word (widthBehind none word) rest).map (dropExcessBlank width)

/-- A text of one line broken to fit into a width. -/
def wrapText (width : Nat) (s : String) : List String :=
  (wrapLine width s.toList).map String.ofList

end DocQuery.Text
