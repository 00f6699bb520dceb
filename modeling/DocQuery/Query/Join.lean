/-
Module: DocQuery.Query.Join
Purpose: Joining records with the rows of a table on the equality of two fields.
Main exports: joinFields, JoinIndex, joinWith, joinRecords
-/
import DocQuery.Record.Scope

namespace DocQuery

/-! ### The two fields of a join condition

The condition may name the two sides in either order, and only the scope can tell which is which. -/

/-- The table that a field of a join condition belongs to. -/
inductive JoinSide where
  | joined
  | earlier
deriving DecidableEq, Repr, Inhabited

namespace JoinSide

/-- The side of a located field; one that no table has is on no side. -/
def ofLocation (joinedAlias : String) (l : Location) : Option JoinSide :=
  l.aliasName.map fun aliasName => if aliasName = joinedAlias then .joined else .earlier

/-- The other side. -/
def opposite : JoinSide → JoinSide
  | .joined => .earlier
  | .earlier => .joined

end JoinSide

/-- The clause named when a field of a join condition cannot be located. -/
def joinClause : String := "JOIN"

/-- The fields that a join compares, that of the earlier records first.  The condition may name
them in either order; a field that no table has is taken to be on the side the other one is not. -/
def joinFields (scope : Scope) (aliasName : String) (on : Condition) :
    Except QueryError (String × String) :=
  match on with
  | .compare (.field first) .eq (.field second) => do
      let firstSide := JoinSide.ofLocation aliasName (← scope.locate joinClause first)
      let secondSide := JoinSide.ofLocation aliasName (← scope.locate joinClause second)
      match firstSide.or (secondSide.map JoinSide.opposite),
          secondSide.or (firstSide.map JoinSide.opposite) with
      | none, _ => return (first, second)
      | some .earlier, some .joined => return (first, second)
      | some .joined, some .earlier => return (second, first)
      | _, _ => throw (.joinSides aliasName on)
  | on => throw (.joinCondition aliasName on)

/-! ### Joining

The joined table is read once, into an index that keeps the order of its rows; the earlier records
are then looked up in it one by one. -/

/-- Records gathered under their join keys, keys and records in the order in which they came. -/
abbrev JoinIndex := List (JoinKey × List Record)

namespace JoinIndex

/-- The records under a key. -/
def find (index : JoinIndex) (key : JoinKey) : List Record :=
  match List.find? (fun entry => entry.1.same key) index with
  | some (_, records) => records
  | none => []

/-- Adds a record under a key. -/
def add (key : JoinKey) (r : Record) : JoinIndex → JoinIndex
  | [] => [(key, [r])]
  | (k, records) :: rest =>
      if k.same key then (k, records ++ [r]) :: rest else (k, records) :: add key r rest

/-- Adds a record under the value of a field; it is left out if that is null. -/
def gather (scope : Scope) (field : String) (index : JoinIndex) (r : Record) :
    Except QueryError JoinIndex := do
  match (← scope.resolve r field).joinKey? with
  | some key => return index.add key r
  | none => return index

/-- Gathers records under the value of a field; those where it is null are left out. -/
def build (scope : Scope) (field : String) (records : List Record) :
    Except QueryError JoinIndex :=
  records.foldlM (gather scope field) []

end JoinIndex

/-- A record in which every field of a table is null. -/
def nullRecord (t : Table) : Record :=
  let qualified (name : String) := Record.qualifiedName t.aliasName name
  ⟨Keyed.ofList (t.fieldNames.map fun name => (qualified name, .null)), none⟩

/-- The partners of a left record, merged with it.  In a left join a record without partners is
merged with nulls. -/
def joinOne (kind : JoinKind) (nulls : Record) (index : JoinIndex) (left : Record)
    (key : Option JoinKey) : List Record :=
  match (key.map index.find).getD [], kind with
  | [], .inner => []
  | [], .left => [left.merge nulls]
  | partners, _ => partners.map left.merge

/-- Joins records with a table on given fields. -/
def joinWith (scope : Scope) (kind : JoinKind) (fields : String × String) (left : List Record)
    (right : Table) : Except QueryError (List Record) := do
  let index ← JoinIndex.build scope fields.2 right.records
  let joined ← left.mapM fun r => do
    let key := (← scope.resolve r fields.1).joinKey?
    return joinOne kind (nullRecord right) index r key
  return joined.flatten

/-- Joins records with a table as a join clause says. -/
def joinRecords (scope : Scope) (j : Join) (left : List Record) (right : Table) :
    Except QueryError (List Record) := do
  let fields ← joinFields scope j.aliasName j.on
  joinWith scope j.kind fields left right

end DocQuery
