/-
Module: DocQuery.Query.Run
Purpose: Running a plan on tables, stage by stage.
Main exports: Stage, RunState, Trace, Run, Plan.bind, Plan.validate, Plan.run, Plan.execute
-/
import DocQuery.Condition.Check
import DocQuery.Condition.Eval
import DocQuery.Query.Join
import DocQuery.Query.Limit
import DocQuery.Query.Sort
import DocQuery.Query.Unnest

namespace DocQuery

/-! ### Stages

A run is a state machine: six stages in a fixed order, an end, and a state of error that any stage
may lead to.  What it leaves behind is a trace, written as it goes on and not afterwards. -/

/-- The stages of a run in their order. -/
inductive Stage where
  | bindTables
  | applyJoins
  | applyWhere
  | applySelect
  | applyOrderBy
  | applyLimit
deriving DecidableEq, Repr, Inhabited

/-- The name of a stage. -/
def Stage.name : Stage → String
  | .bindTables => "BindTables"
  | .applyJoins => "ApplyJoins"
  | .applyWhere => "ApplyWhere"
  | .applySelect => "ApplySelect"
  | .applyOrderBy => "ApplyOrderBy"
  | .applyLimit => "ApplyLimit"

/-- Where a run is: in a stage, at its end, or stopped by an error. -/
inductive RunState where
  | stage (s : Stage)
  | done
  | error
deriving DecidableEq, Repr, Inhabited

/-- The name of a state. -/
def RunState.name : RunState → String
  | .stage s => s.name
  | .done => "Done"
  | .error => "Error"

/-- What can be seen of a run while it goes on: the state it is in, the states it has been in, the
bound tables as soon as they are known, and the records at hand. -/
structure Trace where
  state : RunState
  visited : List RunState
  aliases : Option (List String)
  records : Option (List Record)
deriving Repr, Inhabited

namespace Trace

/-- Before the first stage. -/
def start : Trace :=
  ⟨.stage .bindTables, [], none, none⟩

/-- A trace whose state is another one. -/
def entered (t : Trace) (s : RunState) : Trace :=
  { t with state := s, visited := t.visited ++ [s] }

/-- A trace with other records at hand. -/
def holding (t : Trace) (records : List Record) : Trace :=
  { t with records := some records }

/-- What a failure leaves: the states that were visited stay, the records do not. -/
def failed (t : Trace) : Trace :=
  { t with state := .error, records := none }

end Trace

/-- A computation that leaves a trace, also when it fails. -/
abbrev Execution := ExceptT QueryError (StateM Trace)

/-- Enters a state. -/
def enter (s : RunState) : Execution Unit :=
  modify (Trace.entered · s)

/-- Takes records in hand. -/
def hold (records : List Record) : Execution Unit :=
  modify (Trace.holding · records)

/-- Marks the trace of a computation that fails, and lets the error out. -/
def guarded {α : Type} (x : Execution α) : Execution α :=
  tryCatch x fun e => do
    modify Trace.failed
    throw e

/-! ### Binding -/

namespace Plan

/-- The tables at hand, by the names under which a plan may refer to them. -/
abbrev Tables := Keyed Table

/-- The tables of a plan in clause order.  Every alias may be used only once and has to be at hand;
`clause` is the clause of the first table. -/
def lookUpTables (tables : Tables) :
    (clause : String) → (seen : List String) → List TableRef → Except QueryError (List Table)
  | _, _, [] => return []
  | clause, seen, ref :: refs => do
      let aliasName := ref.effectiveAlias
      if seen.contains aliasName then
        throw (.duplicateAlias aliasName)
      match Keyed.get? aliasName tables with
      | none => throw (.unboundAlias aliasName clause)
      | some t => return t :: (← lookUpTables tables joinClause (seen ++ [aliasName]) refs)

/-- The scope with the columns of unnested arrays.  An array must be found among what is bound
before it, and its alias must be new. -/
def bindUnnests (aliases : List String) : Scope → List Unnest → Except QueryError Scope
  | scope, [] => return scope
  | scope, u :: us => do
      if aliases.contains u.aliasName || scope.isBound u.aliasName then
        throw (.duplicateAlias u.aliasName)
      let _ ← scope.locate "UNNEST" u.arrayField
      bindUnnests aliases (scope.withFields u.aliasName [u.column]) us

/-- The tables of a plan that were found, and the scope of all that its clauses can refer to: the
first table, the unnested arrays, and the joined tables, in clause order. -/
structure Bound where
  first : Table
  joined : List Table
  scope : Scope
deriving Repr, Inhabited

/-- Finds the tables of a plan. -/
def bind (p : Plan) (tables : Tables) : Except QueryError Bound := do
  match ← lookUpTables tables "FROM" [] p.tables with
  | [] => throw .noTable
  | first :: joined =>
      let aliases := p.tables.map TableRef.effectiveAlias
      let scope ← bindUnnests aliases (Scope.ofTables [first]) p.unnests
      return ⟨first, joined, joined.foldl Scope.extended scope⟩

/-- The scope of the join at a position: everything bound up to its table. -/
def joinScope (p : Plan) (scope : Scope) (position : Nat) : Scope :=
  scope.subset (scope.aliases.take (1 + p.unnests.length + position + 1))

/-- The scope of the unnested array at a position: everything bound before it. -/
def unnestScope (scope : Scope) (position : Nat) : Scope :=
  scope.subset (scope.aliases.take (position + 1))

/-! ### Validation

Every clause is checked against the scope alone, before any record is looked at.  A plan that passes
can fail only for what its records hold, or for a limit too large to be taken. -/

/-- The fields of each join can be told apart. -/
def checkJoins (p : Plan) (scope : Scope) : Except QueryError Unit :=
  p.joins.zipIdx.forM fun (j, position) =>
    discard (joinFields (p.joinScope scope position) j.aliasName j.on)

/-- Every item of the select list can be found. -/
def checkSelect (p : Plan) (scope : Scope) : Except QueryError Unit :=
  p.select.forM fun item =>
    if item.isWildcard then
      match item.wildcardAlias? with
      | some table =>
          if scope.isBound table then return else throw (.unboundAlias table "SELECT")
      | none => return
    else discard (scope.locate "SELECT" item.source)

/-- A reference that fails as a sort key may still be an output name. -/
def mayBeOutputName : QueryError → Bool
  | .unboundAlias .. | .ambiguousField .. => true
  | _ => false

/-- Every sort key can be found, in the records or in the output. -/
def checkOrderBy (p : Plan) (scope : Scope) : Except QueryError Unit :=
  p.orderBy.forM fun key =>
    match scope.locate "ORDER BY" key.field with
    | .ok _ => return
    | .error e =>
        if mayBeOutputName e && (outputNames p.select).contains (some key.field) then return
        else throw e

/-- A plan whose clauses can be carried out in a scope. -/
def validate (p : Plan) (scope : Scope) : Except QueryError Unit := do
  p.checkJoins scope
  p.condition.forM (Condition.check scope "WHERE")
  p.checkSelect scope
  p.checkOrderBy scope
  p.limit.forM fun v => discard (checkLimit v)

/-! ### Execution

Each stage takes the records of the one before it.  `stages` is their sequence, and `execution` adds
what happens at the end of it or on the way out. -/

/-- Unnests the arrays and joins the tables of a plan, one after the other. -/
def applyJoins (p : Plan) (b : Bound) : Except QueryError (List Record) := do
  let unnested ← p.unnests.zipIdx.foldlM
    (fun records (u, position) => u.apply (unnestScope b.scope position) records)
    b.first.records
  (p.joins.zip b.joined).zipIdx.foldlM
    (fun records ((j, t), position) => joinRecords (p.joinScope b.scope position) j records t)
    unnested

/-- The limit of a plan as a count. -/
def rowLimit (p : Plan) : Except QueryError (Option Nat) :=
  p.limit.mapM checkLimit

/-- The limit can be applied before the columns are taken if the rows are not sorted afterwards. -/
def limitsEarly (p : Plan) : Bool :=
  p.orderBy.isEmpty

/-- The records for which the condition holds.  An early limit ends the search as soon as there are
enough of them. -/
def applyWhere (p : Plan) (scope : Scope) (records : List Record) :
    Except QueryError (List Record) := do
  let limit ← if p.limitsEarly then p.rowLimit else pure none
  match p.condition, limit with
  | none, none => return records
  | none, some n => limitRows n records
  | some c, none => filterAll (fun r => c.eval scope r) records
  | some c, some n =>
      if largestCount < n then throw .limitTooLarge
      filterFirst (fun r => c.eval scope r) n records

/-- The columns of the select list. -/
def applySelect (p : Plan) (scope : Scope) (records : List Record) :
    Except QueryError (List Projected) :=
  records.mapM (project scope p.select)

/-- The rows in order. -/
def applyOrderBy (p : Plan) (scope : Scope) (rows : List Projected) :
    Except QueryError (List Projected) :=
  if p.orderBy.isEmpty then return rows
  else
    let names := (outputNames p.select).filterMap id
    (Sorting.mk p.orderBy scope names).apply rows

/-- The first rows, unless the limit was applied before. -/
def applyLimit (p : Plan) (rows : List Projected) : Except QueryError (List Projected) := do
  if p.limitsEarly then return rows
  match ← p.rowLimit with
  | none => return rows
  | some n => limitRows n rows

/-- Takes a plan through its stages. -/
def stages (p : Plan) (tables : Tables) : Execution (List Record) := do
  enter (.stage .bindTables)
  let bound ← p.bind tables
  let scope := bound.scope
  modify fun t => { t with aliases := some scope.aliases }
  p.validate scope
  hold bound.first.records
  enter (.stage .applyJoins)
  let records ← p.applyJoins bound
  hold records
  enter (.stage .applyWhere)
  let records ← p.applyWhere scope records
  hold records
  enter (.stage .applySelect)
  let rows ← p.applySelect scope records
  hold (rows.map Projected.output)
  enter (.stage .applyOrderBy)
  let rows ← p.applyOrderBy scope rows
  hold (rows.map Projected.output)
  enter (.stage .applyLimit)
  let rows ← p.applyLimit rows
  hold (rows.map Projected.output)
  return rows.map Projected.output

/-- Runs a plan to its end, or to the error that stops it. -/
def execution (p : Plan) (tables : Tables) : Execution (List Record) := do
  let rows ← guarded (p.stages tables)
  enter .done
  return rows

end Plan

/-- A finished run: its trace, and the rows that its stages made or the error that was let out. -/
structure Run where
  trace : Trace
  outcome : Except QueryError (List Record)

namespace Run

/-- The state in which a run ended. -/
def state (run : Run) : RunState :=
  run.trace.state

/-- The records that a run has at its end. -/
def records? (run : Run) : Option (List Record) :=
  run.trace.records

/-- The rows of a run that is done.  In any other state there are none to be had. -/
def result (run : Run) : Except QueryError (List Record) :=
  match run.state, run.records? with
  | .done, some rows => .ok rows
  | state, _ => .error (.notCompleted state.name)

end Run

namespace Plan

/-- Runs a plan on the tables at hand. -/
def run (p : Plan) (tables : Tables) : Run :=
  let (outcome, trace) := (p.execution tables).run.run .start
  ⟨trace, outcome⟩

/-- The rows of a plan: the result of its run, unless that let out an error. -/
def execute (p : Plan) (tables : Tables) : Except QueryError (List Record) := do
  let run := p.run tables
  let _ ← run.outcome
  run.result

end Plan

end DocQuery
