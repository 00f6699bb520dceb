/-
Module: DocQuery.Query.Sort
Purpose: Sorting records by several keys.
Main exports: compareKeys, Sorting, Sorting.apply
-/
import DocQuery.Query.Project
import DocQuery.StableSort.Runs

namespace DocQuery

/-! ### Order of key values

Null is placed before the direction is looked at, so a descending key turns the order of values
round but not the place of null. -/

/-- An order turned round for a descending key. -/
def Direction.apply : Direction → Ordering → Ordering
  | .ascending, o => o
  | .descending, o => o.swap

/-- Order of two lists of key values.  The first key on which they differ decides; null comes first
whatever the direction.  Two other values of a key without an order are an error. -/
def compareKeys : List Value → List Value → List OrderKey → Except QueryError Ordering
  | x :: xs, y :: ys, key :: keys =>
      match x.isNull, y.isNull with
      | true, true => compareKeys xs ys keys
      | true, false => .ok .lt
      | false, true => .ok .gt
      | false, false =>
          match x.compare y with
          | .error fault => .error (.sortKey key.field fault)
          | .ok .eq => compareKeys xs ys keys
          | .ok o => .ok (key.direction.apply o)
  | _, _, _ => .ok .eq

/-! ### Sorting records

The keys of all records are read before any two are compared: a key that cannot be read fails even
where sorting would never look at it. -/

/-- The sort keys of a query with what is needed to read them. -/
structure Sorting where
  keys : List OrderKey
  scope : Scope
  outputNames : List String

namespace Sorting

/-- The source record has the field: it is one of a named table, or exactly one table has it. -/
def knownInSource (s : Sorting) (ref : String) : Bool :=
  let (head, back) := Text.cutText '.' ref
  back.any (fun rest => rest ≠ "" && s.scope.isBound head) || (s.scope.owners head).length == 1

/-- A key is read from the output if it is an output name that the source record does not have. -/
def readsOutput (s : Sorting) (ref : String) : Bool :=
  s.outputNames.contains ref && !s.knownInSource ref

/-- The value of a sort key. -/
def keyValue (s : Sorting) (p : Projected) (key : OrderKey) : Except QueryError Value :=
  if s.readsOutput key.field then .ok (p.output.valueOf key.field)
  else s.scope.resolve p.source key.field

/-- The values of all sort keys. -/
def keyValues (s : Sorting) (p : Projected) : Except QueryError (List Value) :=
  s.keys.mapM (s.keyValue p)

/-- A record with smaller key values. -/
def below (s : Sorting) (a b : List Value × Projected) : Except QueryError Bool := do
  return (← compareKeys a.1 b.1 s.keys) == .lt

/-- Sorts records by their keys, all of which are read first. -/
def apply (s : Sorting) (records : List Projected) : Except QueryError (List Projected) := do
  let decorated ← records.mapM fun p => return (← s.keyValues p, p)
  return (← StableSort.sortBy s.below decorated).map Prod.snd

end Sorting

end DocQuery
