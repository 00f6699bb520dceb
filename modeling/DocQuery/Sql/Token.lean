/-
Module: DocQuery.Sql.Token
Purpose: The tokens of query text and their keywords.
Main exports: Quote, Sign, Keyword, Token, Token.text, Token.keyword?, Token.isIdentifier
-/
import DocQuery.Sql.PlanText
import DocQuery.Text.Case

namespace DocQuery.Sql

/-- The two marks that enclose a string. -/
inductive Quote where
  | single
  | double
deriving DecidableEq, Repr, Inhabited

/-- The character of a mark. -/
def Quote.char : Quote → Char
  | .single => '\''
  | .double => '"'

/-- Operators and punctuation. -/
inductive Sign where
  | comma
  | openParen
  | closeParen
  | eq
  | ne
  | lessGreater
  | ge
  | le
  | gt
  | lt
deriving DecidableEq, Repr, Inhabited

namespace Sign

/-- A sign as it is written. -/
def text : Sign → String
  | .comma => ","
  | .openParen => "("
  | .closeParen => ")"
  | .eq => "="
  | .ne => "!="
  | .lessGreater => "<>"
  | .ge => ">="
  | .le => "<="
  | .gt => ">"
  | .lt => "<"

/-- The comparison of a sign; "not equal" has two spellings. -/
def comparator? : Sign → Option Comparator
  | .eq => some .eq
  | .ne | .lessGreater => some .ne
  | .ge => some .ge
  | .le => some .le
  | .gt => some .gt
  | .lt => some .lt
  | _ => none

end Sign

/-- The reserved words. -/
inductive Keyword where
  | select | top | from | as | join | inner | left | outer | on
  | where | and | or | not | is | null | in | like | ilike
  | true | false | order | by | asc | desc | limit | unnest
deriving DecidableEq, Repr, Inhabited

namespace Keyword

/-- A reserved word in capitals. -/
def text : Keyword → String
  | .select => "SELECT" | .top => "TOP" | .from => "FROM" | .as => "AS" | .join => "JOIN"
  | .inner => "INNER" | .left => "LEFT" | .outer => "OUTER" | .on => "ON" | .where => "WHERE"
  | .and => "AND" | .or => "OR" | .not => "NOT" | .is => "IS" | .null => "NULL" | .in => "IN"
  | .like => "LIKE" | .ilike => "ILIKE" | .true => "TRUE" | .false => "FALSE"
  | .order => "ORDER" | .by => "BY" | .asc => "ASC" | .desc => "DESC" | .limit => "LIMIT"
  | .unnest => "UNNEST"

/-- All reserved words. -/
def all : List Keyword :=
  [.select, .top, .from, .as, .join, .inner, .left, .outer, .on, .where, .and, .or, .not, .is,
    .null, .in, .like, .ilike, .true, .false, .order, .by, .asc, .desc, .limit, .unnest]

/-- The reserved word that a word spells, in capitals or not. -/
def ofWord? (word : String) : Option Keyword :=
  all.find? fun k => k.text = Text.capitals word

end Keyword

/-- A token of query text.  The content of a string is kept without its marks, a doubled mark being
one character of it. -/
inductive Token where
  | quoted (mark : Quote) (content : String)
  | sign (s : Sign)
  | word (text : String)
deriving DecidableEq, Repr, Inhabited

namespace Token

/-- A token as it is written. -/
def text : Token → String
  | .quoted mark content =>
      String.ofList (mark.char :: doubled mark.char content.toList ++ [mark.char])
  | .sign s => s.text
  | .word text => text

/-- The reserved word that a token is. -/
def keyword? : Token → Option Keyword
  | .word text => Keyword.ofWord? text
  | _ => none

/-- A word that is not reserved. -/
def isIdentifier : Token → Bool
  | .word text => (Keyword.ofWord? text).isNone
  | _ => false

end Token

end DocQuery.Sql
