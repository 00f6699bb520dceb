/-
Module: DocQuery.Sql.Plan
Purpose: What a query asks for: its tables, joins, conditions, columns, order and row limit.
Main exports: Comparator, Operand, Condition, TableRef, Unnest, Join, SelectItem, OrderKey, Plan
-/
import DocQuery.Value.Basic

namespace DocQuery

/-! ### Conditions -/

/-- The comparisons of two operands.  A plan that was not read from text may name another one. -/
inductive Comparator where
  | eq
  | ne
  | gt
  | lt
  | ge
  | le
  | unsupported (text : String)
deriving DecidableEq, Repr, Inhabited

namespace Comparator

/-- A comparison as it is written. -/
def text : Comparator → String
  | .eq => "="
  | .ne => "!="
  | .gt => ">"
  | .lt => "<"
  | .ge => ">="
  | .le => "<="
  | .unsupported text => text

/-- The comparison of a text. -/
def ofText : String → Comparator
  | "=" => .eq
  | "!=" => .ne
  | ">" => .gt
  | "<" => .lt
  | ">=" => .ge
  | "<=" => .le
  | text => .unsupported text

/-- One of the six comparisons that can be carried out. -/
def isSupported : Comparator → Bool
  | .unsupported _ => false
  | _ => true

end Comparator

/-- One side of a comparison: a field of the record, or a value. -/
inductive Operand where
  | field (name : String)
  | literal (value : Value)
deriving Repr, Inhabited

/-- A condition on a record.  `other` stands for a kind of condition that cannot be carried out. -/
inductive Condition where
  | compare (left : Operand) (comparator : Comparator) (right : Operand)
  | and (children : List Condition)
  | or (children : List Condition)
  | not (child : Condition)
  | isNull (operand : Operand) (negated : Bool)
  | inList (operand : Operand) (values : List Value) (negated : Bool)
  | like (operand : Operand) (pattern : String) (ignoreCase : Bool) (negated : Bool)
  | other (name : String)
deriving Repr, Inhabited

/-! ### Clauses -/

/-- A table, perhaps under another name. -/
structure TableRef where
  name : String
  aliasName : Option String
deriving DecidableEq, Repr, Inhabited

/-- An alias counts only if it is not empty. -/
def givenAlias? (aliasName : Option String) : Option String :=
  aliasName.filter fun a => a ≠ ""

/-- The name under which the rest of the query refers to a table. -/
def TableRef.effectiveAlias (t : TableRef) : String :=
  (givenAlias? t.aliasName).getD t.name

/-- What becomes of a left record without a partner. -/
inductive JoinKind where
  | inner
  | left
deriving DecidableEq, Repr, Inhabited

/-- A joined table with its condition. -/
structure Join where
  table : TableRef
  kind : JoinKind
  on : Condition
deriving Repr, Inhabited

/-- The name under which the rest of the query refers to the joined table. -/
def Join.aliasName (j : Join) : String :=
  j.table.effectiveAlias

/-- An array field whose elements become rows of one column. -/
structure Unnest where
  arrayField : String
  aliasName : String
  column : String
deriving DecidableEq, Repr, Inhabited

/-- The name of the column of an unnested array, unless the query gives it another one. -/
def Unnest.defaultColumn : String := "value"

/-- An entry of the select list. -/
structure SelectItem where
  source : String
  aliasName : Option String
deriving DecidableEq, Repr, Inhabited

/-- The part of a name behind its last point. -/
def lastComponent (name : String) : String :=
  String.ofList (name.toList.reverse.takeWhile (· ≠ '.')).reverse

namespace SelectItem

/-- The table whose fields `t.*` selects. -/
def wildcardAlias? (item : SelectItem) : Option String :=
  match item.source.toList.reverse with
  | '*' :: '.' :: rest => some (String.ofList rest.reverse)
  | _ => none

/-- An item that selects all fields, of the record or of one table. -/
def isWildcard (item : SelectItem) : Bool :=
  item.source = "*" || item.wildcardAlias?.isSome

/-- The name given in the query, else the last component of the field's name. -/
def outputName (item : SelectItem) : String :=
  (givenAlias? item.aliasName).getD (lastComponent item.source)

end SelectItem

/-- The direction of a sort key. -/
inductive Direction where
  | ascending
  | descending
deriving DecidableEq, Repr, Inhabited

/-- A sort key. -/
structure OrderKey where
  field : String
  direction : Direction
deriving DecidableEq, Repr, Inhabited

/-- A complete query.  The limit is any value here; only a non-negative integer can be applied. -/
structure Plan where
  table : TableRef
  unnests : List Unnest
  joins : List Join
  condition : Option Condition
  select : List SelectItem
  orderBy : List OrderKey
  limit : Option Value
deriving Repr, Inhabited

/-- All tables in clause order: the first one, then that of each join. -/
def Plan.tables (p : Plan) : List TableRef :=
  p.table :: p.joins.map Join.table

end DocQuery
