/-
Module: DocQuery.Proofs.Environment
Purpose: What a query means, told with the rows that are in scope under their own field names.
Main exports: Env, Env.read, Condition.holds, Unnest.expand, Join.expand, expandAll,
  Plan.environments, Env.emit, Plan.reference
-/
import DocQuery.Proofs.Scopes

namespace DocQuery

/-! ### Rows in scope

The meaning of a query is told without records that are merged: a row of each table keeps its own
field names, and a reference is read from the row that it names. -/

/-- The rows that are in scope, each under the alias of its table. -/
abbrev Env := Keyed Row

/-- The value at the end of a path, null if the path leads nowhere. -/
def Value.follow (path : List String) (v : Value) : Value :=
  (v.descend path).toOption.getD .null

namespace Env

/-- The row of a table. -/
def row (e : Env) (aliasName : String) : Row :=
  (Keyed.get? aliasName e).getD []

/-- The value of a field of a table, null if its row has none. -/
def field (e : Env) (aliasName name : String) : Value :=
  (Keyed.get? name (e.row aliasName)).getD .null

/-- The value that a location points at. -/
def valueAt (e : Env) (l : Location) : Value :=
  match l.aliasName with
  | none => .null
  | some aliasName => (e.field aliasName l.name).follow l.path

/-- The value of a reference, null if it is missing. -/
def read (scope : Scope) (e : Env) (ref : String) : Value :=
  match scope.locate Scope.anyClause ref with
  | .ok l => e.valueAt l
  | .error _ => .null

end Env

namespace Scope

/-- The value of a reference in a record, null if it is missing. -/
def read (scope : Scope) (r : Record) (ref : String) : Value :=
  (scope.resolve r ref).toOption.getD .null

theorem read_of_resolve {scope : Scope} {r : Record} {ref : String} {v : Value}
    (h : scope.resolve r ref = .ok v) : v = scope.read r ref := by
  rw [read, h]
  rfl

end Scope

/-! ### Conditions -/

/-- The value of an operand, with a way to read references. -/
def Operand.value (read : String → Value) : Operand → Value
  | .field name => read name
  | .literal v => v

namespace Condition

mutual

/-- Whether a condition holds, with a way to read references.  What cannot be compared does not
hold. -/
def holds (read : String → Value) : Condition → Bool
  | .compare left comparator right =>
      (comparator.holds (left.value read) (right.value read)).toOption.getD false
  | .and children => allHold read children
  | .or children => anyHolds read children
  | .not child => !holds read child
  | .isNull operand negated => (operand.value read).isNull != negated
  | .inList operand values negated =>
      !(operand.value read).isNull && values.any (operand.value read).equal != negated
  | .like operand pattern ignoreCase negated =>
      match operand.value read with
      | .string s => likeMatches (likeLetter ignoreCase) pattern.toList s.toList != negated
      | _ => false
  | .other _ => false

/-- Several conditions hold. -/
def allHold (read : String → Value) : List Condition → Bool
  | [] => true
  | c :: cs => holds read c && allHold read cs

/-- One of several conditions holds. -/
def anyHolds (read : String → Value) : List Condition → Bool
  | [] => false
  | c :: cs => holds read c || anyHolds read cs

end

end Condition

/-! ### Tables, arrays and joins, row by row

Every clause takes the rows in scope before it, one combination at a time, and makes any number of
combinations with one more row of it.  The order of the results is that of nested loops. -/

/-- The elements of an array, each bound to the column of the array. -/
def Unnest.expand (u : Unnest) (scope : Scope) (e : Env) : List Env :=
  match e.read scope u.arrayField with
  | .array items => items.map fun element => e ++ [(u.aliasName, [(u.column, element)])]
  | _ => []

/-- Two values with equal join keys. -/
def Value.joins (x y : Value) : Bool :=
  match x.joinKey?, y.joinKey? with
  | some k, some l => l.same k
  | _, _ => false

/-- The rows of a table that a join relates to the rows in scope, in their order. -/
def Join.partners (j : Join) (scope : Scope) (t : Table) (e : Env) : List Row :=
  match joinFields scope j.aliasName j.on with
  | .ok (left, right) =>
      t.rows.filter fun row =>
        (e.read scope left).joins (Env.read scope [(t.aliasName, row)] right)
  | .error _ => []

/-- A row of a table in which every field is null. -/
def Table.nullRow (t : Table) : Row :=
  t.fieldNames.map fun name => (name, .null)

/-- The partners of the rows in scope, each bound to the alias of its table.  In a left join a row
of nulls stands in for missing partners. -/
def Join.expand (j : Join) (scope : Scope) (t : Table) (e : Env) : List Env :=
  match j.partners scope t e, j.kind with
  | [], .inner => []
  | [], .left => [e ++ [(t.aliasName, t.nullRow)]]
  | rows, _ => rows.map fun row => e ++ [(t.aliasName, row)]

/-- A clause that brings more rows into scope: what references can name there, and what the clause
makes of the rows that are in scope before it. -/
structure Clause where
  entry : String × List String
  expand : Scope → Env → List Env

/-- An unnested array brings its elements into scope. -/
def Unnest.clause (u : Unnest) : Clause :=
  ⟨u.entry, u.expand⟩

/-- A join brings the rows of its table into scope; its condition can refer to these. -/
def Join.clause (j : Join) (t : Table) : Clause :=
  ⟨t.entry, fun scope e => j.expand (scope.extended t) t e⟩

/-- What several clauses make of the rows in scope, one after the other. -/
def expandAll : Scope → List Clause → Env → List Env
  | _, [], e => [e]
  | scope, c :: clauses, e =>
      (c.expand scope e).flatMap (expandAll ⟨scope.tables ++ [c.entry]⟩ clauses)

namespace Plan

/-- The table under an alias, without rows if there is none. -/
def tableOf (tables : Tables) (aliasName : String) : Table :=
  (Keyed.get? aliasName tables).getD ⟨aliasName, [], none⟩

/-- The first table of a plan. -/
def firstTable (p : Plan) (tables : Tables) : Table :=
  tableOf tables p.table.effectiveAlias

/-- The clauses of a plan that bring rows into scope behind those of the first table. -/
def clauses (p : Plan) (tables : Tables) : List Clause :=
  p.unnests.map Unnest.clause ++ p.joins.map fun j => j.clause (tableOf tables j.aliasName)

/-- What the references of a plan can name. -/
def fullScope (p : Plan) (tables : Tables) : Scope :=
  ⟨(p.firstTable tables).entry :: (p.clauses tables).map Clause.entry⟩

/-- All ways to have a row of each table in scope: for each row of the first table the elements of
its arrays, and for each of these the rows that joins relate to them. -/
def environments (p : Plan) (tables : Tables) : List Env :=
  let first := p.firstTable tables
  first.rows.flatMap fun row =>
    expandAll ⟨[first.entry]⟩ (p.clauses tables) [(first.aliasName, row)]

end Plan

/-! ### Output

What is put out for one combination of rows, and in which order.  What a wildcard takes is a
parameter of the answer, so that the meanings it might have can be compared. -/

namespace Env

/-- The fields of a row under the names `alias.field`. -/
def qualifiedRow (aliasName : String) (row : Row) : Row :=
  row.map fun (name, v) => (Record.qualifiedName aliasName name, v)

/-- The fields of all rows under the names `alias.field`. -/
def qualifiedFields (e : Env) : Row :=
  e.flatMap fun (aliasName, row) => qualifiedRow aliasName row

/-- The fields that a wildcard takes from the rows in scope: under their own names if there is only
one row, else under the names `alias.field`. -/
def wildcard (e : Env) (table : Option String) : Row :=
  let rows := e.filter fun entry => table.all (· = entry.1)
  match e with
  | [_] => rows.flatMap Prod.snd
  | _ => qualifiedFields rows

/-- The fields that a wildcard takes, always under their own names. -/
def bareWildcard (e : Env) (table : Option String) : Row :=
  (e.filter fun entry => table.all (· = entry.1)).flatMap Prod.snd

/-- The table of a single row in scope. -/
def only? : Env → Option String
  | [(aliasName, _)] => some aliasName
  | _ => none

/-- Adds the fields that one item of a select list takes from the rows in scope to those of the
items before it. -/
def emitItem (wildcard : Env → Option String → Row) (scope : Scope) (e : Env) (fields : Row)
    (item : SelectItem × Option String) : Row :=
  match item.2 with
  | none => Keyed.update fields (wildcard e item.1.wildcardAlias?)
  | some name => Keyed.put name (e.read scope item.1.source) fields

/-- The output record of a select list.  It stays a row of its table if only `*` was selected. -/
def emit (wildcard : Env → Option String → Row) (scope : Scope) (items : List SelectItem)
    (e : Env) : Record :=
  let keepsTable := items.all fun item => item.isWildcard && item.wildcardAlias?.isNone
  ⟨(items.zip (outputNames items)).foldl (emitItem wildcard scope e) [],
    if keepsTable then e.only? else none⟩

end Env

namespace Plan

instance (scope : Scope) (ref : String) : Decidable (scope.Qualifies ref) :=
  inferInstanceAs (Decidable (_ ∧ _))

/-- The value of a sort key.  An output name that does not name its table, and that is not a field
of exactly one table, is read from the output. -/
def sortValue (p : Plan) (wildcard : Env → Option String → Row) (scope : Scope) (e : Env)
    (key : OrderKey) : Value :=
  if some key.field ∈ outputNames p.select ∧ ¬ scope.Qualifies key.field ∧
      (scope.owners (Scope.refHead key.field)).length ≠ 1 then
    (e.emit wildcard scope p.select).valueOf key.field
  else e.read scope key.field

/-- Rows in scope with their sort keys, in order.  Rows with equal keys stay as they are. -/
def sorted (p : Plan) (keyed : List (List Value × Env)) :
    Except QueryError (List (List Value × Env)) :=
  if p.orderBy.isEmpty then .ok keyed
  else
    StableSort.sortBy (fun a b => (· == .lt) <$> compareKeys a.1 b.1 p.orderBy) keyed

/-- The first rows, up to the limit of a plan. -/
def firstRows {α : Type} (p : Plan) (rows : List α) : List α :=
  match p.rowLimit with
  | .ok (some n) => rows.take n
  | _ => rows

/-- What a plan answers: the rows in scope for which its condition holds, in the order of its sort
keys, the first ones up to its limit, each put out through the select list. -/
def reference (p : Plan) (wildcard : Env → Option String → Row) (tables : Tables) :
    Except QueryError (List Record) := do
  let scope := p.fullScope tables
  let found := (p.environments tables).filter fun e =>
    p.condition.all fun c => c.holds (e.read scope)
  let inOrder ← p.sorted (found.map fun e => (p.orderBy.map (p.sortValue wildcard scope e), e))
  return (p.firstRows inOrder).map fun row => row.2.emit wildcard scope p.select

end Plan

end DocQuery
