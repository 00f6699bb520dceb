/-
Module: DocQuery.Text.Split
Purpose: Texts cut at characters.
Main exports: cutAt, partsWhere, partsAt, cutText, partsText
-/

namespace DocQuery.Text

/-- A text up to the first occurrence of a character, and what stands behind it. -/
def cutAt (mark : Char) (cs : List Char) : List Char × Option (List Char) :=
  match cs.dropWhile (· ≠ mark) with
  | [] => (cs, none)
  | _ :: rest => (cs.takeWhile (· ≠ mark), some rest)

/-- The parts of a text between the characters that satisfy a test. -/
def partsWhere (isMark : Char → Bool) (cs : List Char) : List (List Char) :=
  let addFront (c : Char) : List (List Char) → List (List Char)
    | part :: parts => if isMark c then [] :: part :: parts else (c :: part) :: parts
    | [] => [[c]]
  cs.foldr addFront [[]]

/-- The parts of a text between the occurrences of a character. -/
def partsAt (mark : Char) (cs : List Char) : List (List Char) :=
  partsWhere (· = mark) cs

/-- A text up to the first occurrence of a character, and what stands behind it. -/
def cutText (mark : Char) (s : String) : String × Option String :=
  let (front, back) := cutAt mark s.toList
  (String.ofList front, back.map String.ofList)

/-- The parts of a text between the occurrences of a character. -/
def partsText (mark : Char) (s : String) : List String :=
  (partsAt mark s.toList).map String.ofList

end DocQuery.Text
