/-
Module: DocQuery.Condition.Like
Purpose: Patterns with wildcards.
Main exports: likeMatches, likeRegex
-/
import DocQuery.Text.Case

namespace DocQuery

/-- Some end of a text, the text itself included, has the property. -/
def anySuffix (p : List Char → Bool) : List Char → Bool
  | [] => p []
  | c :: cs => p (c :: cs) || anySuffix p cs

/-- A pattern matches a whole text: `%` stands for any characters, `_` for any one, and every other
character for those that `same` relates to it. -/
def likeMatches (same : Char → Char → Bool) : List Char → List Char → Bool
  | [], cs => cs.isEmpty
  | p :: ps, cs =>
      if p = '%' then anySuffix (likeMatches same ps) cs
      else
        match cs with
        | [] => false
        | c :: cs => (p = '_' || same p c) && likeMatches same ps cs

/-- When a character of a pattern stands for a character of a text. -/
def likeLetter (ignoreCase : Bool) : Char → Char → Bool :=
  if ignoreCase then Text.sameLetter else (· == ·)

/-- The characters that have a meaning of their own in a regular expression. -/
def regexSpecials : List Char :=
  "()[]".toList ++ ['{', '}'] ++ "?*+-|^$\\.&~# \t\n\r".toList ++ [Char.ofNat 11, Char.ofNat 12]

/-- The regular expression of a pattern. -/
def likeRegex (pattern : String) : String :=
  String.ofList <| pattern.toList.flatMap fun c =>
    if c = '%' then ['.', '*']
    else if c = '_' then ['.']
    else if regexSpecials.contains c then ['\\', c]
    else [c]

end DocQuery
