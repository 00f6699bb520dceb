/-
Module: DocQuery.Query.Unnest
Purpose: Turning the elements of an array field into records.
Main exports: Unnest.elements, Unnest.apply
-/
import DocQuery.Record.Scope

namespace DocQuery

namespace Unnest

/-- The elements of the array field of a record; any other value has none. -/
def elements (u : Unnest) (scope : Scope) (r : Record) : Except QueryError (List Value) := do
  match ← scope.resolve r u.arrayField with
  | .array items => return items
  | _ => return []

/-- An element as a record of its own. -/
def elementRecord (u : Unnest) (element : Value) : Record :=
  ⟨[(u.column, element)], some u.aliasName⟩

/-- Every record merged with each element of its array in turn. -/
def apply (u : Unnest) (scope : Scope) (records : List Record) :
    Except QueryError (List Record) := do
  let expanded ← records.mapM fun r => do
    return (← u.elements scope r).map fun element => r.merge (u.elementRecord element)
  return expanded.flatten

end Unnest

end DocQuery
