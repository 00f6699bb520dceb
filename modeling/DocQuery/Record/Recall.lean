/-
Module: DocQuery.Record.Recall
Purpose: Scopes that remember where references point.
Main exports: Recall, Recall.locate, Recall.resolve
-/
import DocQuery.Record.Scope

namespace DocQuery

/-- A scope together with the references it has located.  Only found locations are remembered, and
a scope derived from another one starts without memory. -/
structure Recall where
  scope : Scope
  known : List (String × Location)
deriving Repr, Inhabited

namespace Recall

/-- A scope that remembers nothing yet. -/
def fresh (scope : Scope) : Recall :=
  ⟨scope, []⟩

/-- What a reference means.  A remembered location is the answer whatever the clause. -/
def locate (memory : Recall) (clause ref : String) : Except QueryError Location × Recall :=
  match memory.known.lookup ref with
  | some l => (.ok l, memory)
  | none =>
      match memory.scope.locate clause ref with
      | .ok l => (.ok l, { memory with known := (ref, l) :: memory.known })
      | .error e => (.error e, memory)

/-- The value of a reference in a record, null if it is missing. -/
def resolve (memory : Recall) (r : Record) (ref : String) : Except QueryError Value × Recall :=
  match memory.locate Scope.anyClause ref with
  | (.ok l, memory) => (l.valueIn r, memory)
  | (.error e, memory) => (.error e, memory)

/-- The scope with one more table. -/
def extended (memory : Recall) (t : Table) : Recall :=
  fresh (memory.scope.extended t)

/-- The scope with one more table, known by its field names. -/
def withFields (memory : Recall) (aliasName : String) (names : List String) : Recall :=
  fresh (memory.scope.withFields aliasName names)

/-- The scope restricted to some of its tables. -/
def subset (memory : Recall) (wanted : List String) : Recall :=
  fresh (memory.scope.subset wanted)

end Recall

end DocQuery
