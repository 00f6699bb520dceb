/-
Module: DocQuery.Query.Explain
Purpose: The steps of a plan as text.
Main exports: Step, Step.lines, Plan.steps, Plan.explain
-/
import DocQuery.Query.Run

namespace DocQuery

/-- A step of a plan with the steps that it takes its records from. -/
inductive Step where
  | mk (text : String) (inputs : List Step)
deriving Repr, Inhabited

namespace Step

mutual

/-- A step and its inputs, one a line, inputs two blanks further in. -/
def lines (depth : Nat) : Step → List String
  | .mk text inputs =>
      (String.ofList (List.replicate depth ' ') ++ text) :: linesOfAll (depth + 2) inputs

/-- The lines of several steps. -/
def linesOfAll (depth : Nat) : List Step → List String
  | [] => []
  | s :: ss => lines depth s ++ linesOfAll depth ss

end

end Step

/-- Reading a table. -/
def Table.scanText (t : Table) : String :=
  match t.name.filter fun name => name ≠ "" && name ≠ t.aliasName with
  | some name => "Scan(" ++ name ++ " AS " ++ t.aliasName ++ ")"
  | none => "Scan(" ++ t.aliasName ++ ")"

/-- Unnesting an array. -/
def Unnest.stepText (u : Unnest) : String :=
  "Unnest(" ++ u.arrayField ++ " AS " ++ u.aliasName ++ "." ++ u.column ++ ")"

namespace Plan

/-- Wraps a step in another one. -/
def wrap (text : String) (s : Step) : Step :=
  .mk text [s]

/-- The steps up to the last join. -/
def joinSteps (p : Plan) (b : Bound) : Except QueryError Step :=
  let scan := Step.mk b.first.scanText []
  let unnested := p.unnests.foldl (fun s u => wrap u.stepText s) scan
  (p.joins.zip b.joined).zipIdx.foldlM
    (fun s ((j, t), position) => do
      let (left, right) ← joinFields (p.joinScope b.scope position) j.aliasName j.on
      let text := "HashJoin(" ++ j.kind.text ++ ", " ++ left ++ " = " ++ right ++ ")"
      return Step.mk text [s, .mk t.scanText []])
    unnested

/-- The steps of a plan, the last one at the top. -/
def steps (p : Plan) (b : Bound) : Except QueryError Step := do
  let s ← p.joinSteps b
  let s := p.condition.elim s fun c => wrap ("Filter(" ++ c.text ++ ")") s
  let limit ← p.rowLimit
  let limited (early : Bool) (s : Step) : Step :=
    if p.limitsEarly = early then limit.elim s fun n => wrap (limitText n) s else s
  let s := limited true s
  let s := wrap ("Project(" ++ ", ".intercalate (p.select.map SelectItem.text) ++ ")") s
  let s :=
    if p.orderBy.isEmpty then s
    else wrap ("OrderBy(" ++ ", ".intercalate (p.orderBy.map OrderKey.text) ++ ")") s
  return limited false s

/-- A table without rows for every table of a plan. -/
def emptyTables (p : Plan) : Tables :=
  Keyed.ofList (p.tables.map fun t =>
    (t.effectiveAlias, ⟨t.effectiveAlias, [], some t.name⟩))

/-- The steps of a plan on the tables at hand, one a line.  A plan that cannot be bound to them has
none. -/
def explain (p : Plan) (tables : Tables) : Except QueryError (List String) := do
  let bound ← p.bind tables
  p.validate bound.scope
  let s ← p.steps bound
  return ["Query Plan:", String.ofList (List.replicate 40 '=')] ++ s.lines 0

end Plan

end DocQuery
