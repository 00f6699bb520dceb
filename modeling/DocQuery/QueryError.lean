/-
Module: DocQuery.QueryError
Purpose: Why a query cannot be run on its tables.
Main exports: QueryError, OrderFault.message, maxQuoted, QueryError.message
-/
import DocQuery.Sql.PlanText
import DocQuery.Value.Order

namespace DocQuery

/-- Why a query cannot be run on its tables, or why one of its steps failed. -/
inductive QueryError where
  /-- A clause refers to a table that the query does not have. -/
  | unboundAlias (aliasName clause : String)
  /-- A field without a table name that several tables have. -/
  | ambiguousField (field : String) (owners : List String)
  /-- A field where there is no table at all. -/
  | noTable
  /-- An array index with digits that are not decimal. -/
  | arrayIndex (part : String)
  /-- Two tables of one name. -/
  | duplicateAlias (aliasName : String)
  /-- A join condition that is no equality of two fields. -/
  | joinCondition (aliasName : String) (on : Condition)
  /-- A join condition that does not relate the joined table to an earlier one. -/
  | joinSides (aliasName : String) (on : Condition)
  /-- Two sort keys without an order. -/
  | sortKey (field : String) (fault : OrderFault)
  /-- A row limit that is no integer. -/
  | limitNotInteger (limit : Value)
  /-- A row limit below zero. -/
  | limitNegative (limit : Int)
  /-- A row limit past the largest count of rows. -/
  | limitTooLarge
  /-- A comparison that cannot be carried out; the clause is known when a plan is checked. -/
  | comparator (text : String) (clause : Option String)
  /-- A condition of an unknown kind. -/
  | conditionKind (name : String) (clause : Option String)
  /-- The rows of a query that has none, because it is in another state. -/
  | notCompleted (state : String)
deriving Repr, Inhabited

/-- Why two values have no order, in words. -/
def OrderFault.message : OrderFault → String
  | .differentTypes left right =>
      "Cannot compare " ++ left.type.name ++ " value " ++ left.inspect ++ " with "
        ++ right.type.name ++ " value " ++ right.inspect
  | .unordered type => type.name ++ " values cannot be ordered"

/-- The words that name a clause. -/
def inClause (clause : Option String) : String :=
  match clause with
  | some clause => " in " ++ clause
  | none => ""

/-- The most characters of a quoted array index that a message shows. -/
def maxQuoted : Nat := 200

/-- An error in words. -/
def QueryError.message : QueryError → String
  | .unboundAlias table clause =>
      "Unknown table alias '" ++ table ++ "' referenced in " ++ clause
  | .ambiguousField field owners =>
      "Field '" ++ field ++ "' is ambiguous: present in " ++ ", ".intercalate owners
        ++ ". Qualify it with a table alias (e.g. " ++ owners.headD "" ++ "." ++ field ++ ")"
  | .noTable => "list index out of range"
  | .arrayIndex part =>
      "invalid literal for int() with base 10: "
        ++ String.ofList ((quoted part).toList.take maxQuoted)
  | .duplicateAlias table => "Table alias '" ++ table ++ "' is used more than once"
  | .joinCondition table on =>
      "JOIN " ++ table ++ " ON " ++ on.text
        ++ ": only a single field equality (left.field = right.field) is supported"
  | .joinSides table on =>
      "JOIN " ++ table ++ " ON " ++ on.text ++ ": the condition must compare a field of '" ++ table
        ++ "' with a field of a table joined before it"
  | .sortKey field fault => "ORDER BY " ++ field ++ ": " ++ fault.message
  | .limitNotInteger limit => "LIMIT must be an integer, got " ++ limit.inspect
  | .limitNegative limit => "LIMIT must be non-negative, got " ++ (Value.int limit).inspect
  | .limitTooLarge =>
      "Stop argument for islice() must be None or an integer: 0 <= x <= sys.maxsize."
  | .comparator text clause =>
      "Unsupported comparison operator" ++ inClause clause ++ ": " ++ text
  | .conditionKind name clause => "Unsupported condition" ++ inClause clause ++ ": " ++ name
  | .notCompleted state => "Query has not completed (state: " ++ state ++ ")"

end DocQuery
