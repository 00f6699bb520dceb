/-
Module: DocQuery.Sql.PlanText
Purpose: Queries and their parts as text.
Main exports: Operand.text, Condition.text, Join.text, Unnest.text, SelectItem.text, OrderKey.text,
  Plan.text
-/
import DocQuery.Sql.Plan
import DocQuery.Value.Inspect

namespace DocQuery

/-- A text with every occurrence of a character written twice. -/
def doubled (mark : Char) (cs : List Char) : List Char :=
  cs.flatMap fun c => if c = mark then [c, c] else [c]

/-- A value as a literal of a query. -/
def Value.literalText : Value → String
  | .null => "NULL"
  | .bool true => "TRUE"
  | .bool false => "FALSE"
  | .string s => String.ofList ('\'' :: doubled '\'' s.toList ++ ['\''])
  | v => v.inspect

/-- An operand as text. -/
def Operand.text : Operand → String
  | .field name => name
  | .literal value => value.literalText

/-- The word of a negated condition. -/
def negation (negated : Bool) : String :=
  if negated then "NOT " else ""

namespace Condition

mutual

/-- A condition as text, every chain in parentheses. -/
def text : Condition → String
  | .compare left comparator right => left.text ++ " " ++ comparator.text ++ " " ++ right.text
  | .and children => "(" ++ " AND ".intercalate (texts children) ++ ")"
  | .or children => "(" ++ " OR ".intercalate (texts children) ++ ")"
  | .not child => "NOT " ++ text child
  | .isNull operand negated => operand.text ++ " IS " ++ negation negated ++ "NULL"
  | .inList operand values negated =>
      operand.text ++ " " ++ negation negated ++ "IN ("
        ++ ", ".intercalate (values.map Value.literalText) ++ ")"
  | .like operand pattern ignoreCase negated =>
      operand.text ++ " " ++ negation negated ++ (if ignoreCase then "ILIKE " else "LIKE ")
        ++ (Value.string pattern).literalText
  | .other name => name

/-- The texts of several conditions. -/
def texts : List Condition → List String
  | [] => []
  | c :: cs => text c :: texts cs

end

end Condition

/-- A table and its alias. -/
def TableRef.text (t : TableRef) : String :=
  match givenAlias? t.aliasName with
  | some aliasName => t.name ++ " " ++ aliasName
  | none => t.name

/-- The word of a kind of join. -/
def JoinKind.text : JoinKind → String
  | .inner => "INNER"
  | .left => "LEFT"

/-- A join clause. -/
def Join.text (j : Join) : String :=
  j.kind.text ++ " JOIN " ++ j.table.text ++ " ON " ++ j.on.text

/-- An unnested array. -/
def Unnest.text (u : Unnest) : String :=
  "UNNEST(" ++ u.arrayField ++ ") AS " ++ u.aliasName ++ "(" ++ u.column ++ ")"

/-- An entry of the select list. -/
def SelectItem.text (item : SelectItem) : String :=
  match givenAlias? item.aliasName with
  | some aliasName => item.source ++ " AS " ++ aliasName
  | none => item.source

/-- The word of a direction. -/
def Direction.text : Direction → String
  | .ascending => "ASC"
  | .descending => "DESC"

/-- A sort key. -/
def OrderKey.text (key : OrderKey) : String :=
  key.field ++ " " ++ key.direction.text

/-- A query as text. -/
def Plan.text (p : Plan) : String :=
  let sources := p.table.text :: p.unnests.map Unnest.text
  let order :=
    if p.orderBy.isEmpty then []
    else ["ORDER BY " ++ ", ".intercalate (p.orderBy.map OrderKey.text)]
  " ".intercalate <|
    ["SELECT " ++ ", ".intercalate (p.select.map SelectItem.text),
      "FROM " ++ ", ".intercalate sources]
    ++ p.joins.map Join.text
    ++ (p.condition.map fun c => "WHERE " ++ c.text).toList
    ++ order
    ++ (p.limit.map fun v => "LIMIT " ++ v.plain).toList

end DocQuery
