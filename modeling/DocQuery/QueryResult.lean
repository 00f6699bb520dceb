/-
Module: DocQuery.QueryResult
Purpose: A query together with its sources, which is run when its result is first looked at.
Main exports: QueryResult, QueryResult.ofText, Reading, QueryResult.tables, QueryResult.records,
  QueryResult.rows, QueryResult.json, QueryResult.explain
-/
import DocQuery.Format.Json
import DocQuery.Query.Explain
import DocQuery.Source.Resolver
import DocQuery.Sql.Parser

namespace DocQuery

/-- A query and what is known of its result: the tables and the records, each from when it was first
looked at. -/
structure QueryResult where
  plan : Plan
  /-- The text of the query, its placeholders replaced. -/
  text : String
  resolver : Resolver
  knownTables : Option Plan.Tables
  knownRecords : Option (List Record)
deriving Repr, Inhabited

/-- A look at a result.  What was found before it failed stays known. -/
abbrev Reading := ExceptT Failure (StateT QueryResult (StateM Workspace))

namespace QueryResult

/-- A query text over the tables of a resolver, which is not run yet. -/
def ofText (r : Resolver) (params : Keyed String) (sql : String) : Except Failure QueryResult := do
  let text ← (Parameters.replace params sql).mapError .parameter
  let plan ← (Sql.parse text).mapError .parse
  return ⟨plan, text, r, none, none⟩

/-- A computation on the workspace alone. -/
def onWorkspace {α : Type} (work : Work α) : Reading α :=
  ExceptT.mk (StateT.lift work.run)

/-- A single look at a result. -/
def look {α : Type} (result : QueryResult) (reading : Reading α) : Work α :=
  ExceptT.mk do
    let (outcome, _) ← reading.run.run result
    return outcome

/-- The tables that the query refers to. -/
def tables : Reading Plan.Tables := do
  let result ← get
  match result.knownTables with
  | some tables => return tables
  | none =>
      let tables ← onWorkspace (result.resolver.bind result.plan)
      modify fun result => { result with knownTables := some tables }
      return tables

/-- The records of the result. -/
def records : Reading (List Record) := do
  match (← get).knownRecords with
  | some records => return records
  | none =>
      let tables ← tables
      match (← get).plan.execute tables with
      | .error e => throw (.query e)
      | .ok records =>
          modify fun result => { result with knownRecords := some records }
          return records

/-- The rows of the result. -/
def rows : Reading (List Row) := do
  return (← records).map Record.fields

/-- The result as a JSON array. -/
def json (pretty : Bool) : Reading String := do
  return jsonRows (if pretty then some prettyIndent else none) (← rows)

/-- The steps of the query, one a line. -/
def explain : Reading (List String) := do
  let tables ← tables
  match (← get).plan.explain tables with
  | .error e => throw (.query e)
  | .ok lines => return lines

end QueryResult

end DocQuery
