/-
Module: DocQuery.Mapping
Purpose: Where a table comes from: a document and the path of the records in it, written as one
  text.
Main exports: TableMapping, TableMapping.parse, TableMapping.text, isUrl
-/
import DocQuery.Text.Blank
import DocQuery.Text.Case

namespace DocQuery

/-- A document and the path of the records in it.  Without a source the document is the file named
after the table. -/
structure TableMapping where
  source : Option String
  path : String
deriving DecidableEq, Repr, Inhabited

namespace TableMapping

/-- The path of a whole document. -/
def rootPath : String := "$"

/-- A text split at the last place where a colon stands before a dollar sign: what is before the
colon, and what follows the dollar sign. -/
def splitLast : List Char → Option (List Char × List Char)
  | [] => none
  | c :: cs =>
      match splitLast cs with
      | some (front, back) => some (c :: front, back)
      | none =>
          match c, cs with
          | ':', '$' :: back => some ([], back)
          | _, _ => none

/-- Reads a mapping: a path alone, a source alone, or both with a colon between them. -/
def parse (text : String) : TableMapping :=
  match Text.trimBlank text.toList with
  | '$' :: cs => ⟨none, String.ofList ('$' :: cs)⟩
  | cs =>
      match splitLast cs with
      | some (front, back) => ⟨some (String.ofList front), String.ofList ('$' :: back)⟩
      | none => ⟨some (String.ofList cs), rootPath⟩

/-- A mapping as text. -/
def text (m : TableMapping) : String :=
  match m.source with
  | none => m.path
  | some source => source ++ ":" ++ m.path

end TableMapping

/-- A source on the network, whatever the case of its scheme. -/
def isUrl (source : String) : Bool :=
  let lower := (Text.lowerText source).toList
  "http://".toList.isPrefixOf lower || "https://".toList.isPrefixOf lower

end DocQuery
