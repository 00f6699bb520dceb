/-
Module: DocQuery.Proofs.Stages
Purpose: A run as stages taken one after the other, each from what the one before it has left.
Main exports: Stage.order, Held, Plan.step, Plan.progress, Plan.Follows, Plan.stages_follow_progress,
  Plan.run_eq_progress, Plan.execute_eq_outcome, Plan.progress_cases, Plan.execute_eq
-/
import DocQuery.Proofs.Outcome
import DocQuery.Query.Run

namespace DocQuery

open Outcome

/-- The stages in the order in which a run takes them. -/
def Stage.order : List Stage :=
  [.bindTables, .applyJoins, .applyWhere, .applySelect, .applyOrderBy, .applyLimit]

/-- What a run has in hand between two stages: nothing yet, the tables, the records, or the rows of
the output with the tables they come from. -/
inductive Held where
  | nothing
  | tables (b : Plan.Bound)
  | records (b : Plan.Bound) (records : List Record)
  | rows (b : Plan.Bound) (rows : List Projected)

namespace Held

/-- The tables that a run has bound. -/
def bound? : Held → Option Plan.Bound
  | .nothing => none
  | .tables b | .records b _ | .rows b _ => some b

/-- The records that a run puts out at its end. -/
def output : Held → List Record
  | .rows _ projected => projected.map Projected.output
  | _ => []

end Held

namespace Plan

/-- What one stage makes of what the one before it has left. -/
def step (p : Plan) (tables : Tables) : Stage → Held → Except QueryError Held
  | .bindTables, _ => do
      let b ← p.bind tables
      p.validate b.scope
      return .tables b
  | .applyJoins, .tables b => .records b <$> p.applyJoins b
  | .applyWhere, .records b records => .records b <$> p.applyWhere b.scope records
  | .applySelect, .records b records => .rows b <$> p.applySelect b.scope records
  | .applyOrderBy, .rows b rows => .rows b <$> p.applyOrderBy b.scope rows
  | .applyLimit, .rows b rows => .rows b <$> p.applyLimit rows
  | _, held => return held

/-- The stages that a run enters, the last one being where it stops, and what it has in hand
then. -/
def progress (p : Plan) (tables : Tables) :
    List Stage → Held → List Stage × Except QueryError Held
  | [], held => ([], .ok held)
  | s :: stages, held =>
      match p.step tables s held with
      | .error e => ([s], .error e)
      | .ok held =>
          let (entered, outcome) := progress p tables stages held
          (s :: entered, outcome)

/-! ### A run takes the stages in order

A stage of the run and a step of `progress` do the same work.  A lemma for each kind of stage says
so, and a run is these lemmas one after the other.  A failure then passes the guard of the run,
which keeps what was visited and drops the records. -/

section Trace

variable {α β : Type}

theorem run_enter (s : RunState) (k : Unit → Execution α) (t : Trace) :
    (enter s >>= k).run.run t = (k ()).run.run (t.entered s) :=
  rfl

theorem run_pure (a : α) (t : Trace) : (pure a : Execution α).run.run t = (.ok a, t) :=
  rfl

theorem run_lift_ok {x : Except QueryError α} {a : α} (h : x = .ok a) (k : α → Execution β)
    (t : Trace) : ((liftM x : Execution α) >>= k).run.run t = (k a).run.run t := by
  rw [h]
  rfl

theorem run_lift_error {x : Except QueryError α} {e : QueryError} (h : x = .error e)
    (k : α → Execution β) (t : Trace) :
    ((liftM x : Execution α) >>= k).run.run t = (.error e, t) := by
  rw [h]
  rfl

variable {x : Execution α} {t t' : Trace}

/-- The guard does not touch what succeeds. -/
theorem run_guarded_ok {a : α} (h : x.run.run t = (.ok a, t')) (k : α → Execution β) :
    (guarded x >>= k).run.run t = (k a).run.run t' := by
  rw [guarded, ExceptT.run_bind, ExceptT.run_tryCatch, StateT.run_bind, StateT.run_bind, h]
  rfl

/-- The guard lets an error out, and marks the trace. -/
theorem run_guarded_error {e : QueryError} (h : x.run.run t = (.error e, t'))
    (k : α → Execution β) : (guarded x >>= k).run.run t = (.error e, t'.failed) := by
  rw [guarded, ExceptT.run_bind, ExceptT.run_tryCatch, StateT.run_bind, StateT.run_bind, h]
  rfl

end Trace

/-- From a trace, a computation visits the stages that progress enters and ends as it does.  If it
succeeds, what it returns is also what the trace has at hand. -/
def Follows (x : Execution (List Record)) (t : Trace)
    (progress : List Stage × Except QueryError Held) : Prop :=
  ∃ t', x.run.run t = (Held.output <$> progress.2, t') ∧
    t'.visited = t.visited ++ progress.1.map .stage ∧
    ∀ held, progress.2 = .ok held → t'.records = some held.output

namespace Follows

variable {p : Plan} {tables : Tables} {t : Trace} {s : Stage} {stages : List Stage} {held : Held}
  {x : Execution (List Record)}

/-- Where a stage fails, both sides stop with its error. -/
theorem failed {t' : Trace} {e : QueryError} (step : p.step tables s held = .error e)
    (ran : x.run.run t = (.error e, t')) (visited : t'.visited = t.visited ++ [.stage s]) :
    Follows x t (p.progress tables (s :: stages) held) := by
  rw [progress, step]
  exact ⟨t', ran, visited, nofun⟩

/-- Where it succeeds, both go on with what it gave. -/
theorem passed {x' : Execution (List Record)} {t' : Trace} {held' : Held}
    (step : p.step tables s held = .ok held') (ran : x.run.run t = x'.run.run t')
    (visited : t'.visited = t.visited ++ [.stage s])
    (next : Follows x' t' (p.progress tables stages held')) :
    Follows x t (p.progress tables (s :: stages) held) := by
  obtain ⟨t'', ran', visited', kept⟩ := next
  rw [progress, step]
  refine ⟨t'', ran.trans ran', ?_, kept⟩
  rw [visited', visited, List.append_assoc]
  rfl

/-- A stage that is a single computation. -/
theorem stage {α : Type} {x : Except QueryError α} {keep : α → Held}
    {k : α → Execution (List Record)} (step : p.step tables s held = keep <$> x)
    (next : ∀ a, Follows (k a) (t.entered (.stage s)) (p.progress tables stages (keep a))) :
    Follows (enter (.stage s) >>= fun _ => liftM x >>= k) t
      (p.progress tables (s :: stages) held) := by
  cases x with
  | error e => exact .failed step (run_lift_error rfl k _) rfl
  | ok a => exact .passed step (run_lift_ok rfl k _) rfl (next a)

/-- The first stage binds and then validates, and keeps the names of the tables in between. -/
theorem binding {k : Bound → Execution (List Record)}
    (next : ∀ b, Follows (k b)
      { t.entered (.stage .bindTables) with aliases := some b.scope.aliases }
      (p.progress tables stages (.tables b))) :
    Follows (do
        enter (.stage .bindTables)
        let b ← p.bind tables
        modify fun t => { t with aliases := some b.scope.aliases }
        p.validate b.scope
        k b) t
      (p.progress tables (.bindTables :: stages) held) := by
  have unfolded : p.step tables .bindTables held =
      p.bind tables >>= fun b => p.validate b.scope >>= fun _ => .ok (.tables b) := rfl
  cases bound : p.bind tables with
  | error e =>
      rw [bound, error_bind] at unfolded
      apply Follows.failed unfolded
      · rw [run_enter, run_lift_error rfl]
      · rfl
  | ok b =>
      rw [bound, ok_bind] at unfolded
      cases valid : p.validate b.scope with
      | error e =>
          rw [valid, error_bind] at unfolded
          exact .failed unfolded (run_lift_error valid _ _) rfl
      | ok _ =>
          rw [valid, ok_bind] at unfolded
          exact .passed unfolded (run_lift_ok valid _ _) rfl (next b)

/-- Taking records in hand visits nothing. -/
theorem hold {records : List Record} {progress : List Stage × Except QueryError Held}
    (h : Follows x (t.holding records) progress) :
    Follows (DocQuery.hold records >>= fun _ => x) t progress :=
  h

/-- Behind the last stage the rows are taken in hand and returned. -/
theorem done {b : Bound} {rows : List Projected} :
    Follows (do DocQuery.hold (rows.map Projected.output); return rows.map Projected.output) t
      (p.progress tables [] (.rows b rows)) := by
  refine ⟨_, rfl, (List.append_nil _).symm, ?_⟩
  rintro held ⟨⟩
  rfl

end Follows

/-- The stages of a plan follow progress, from nothing in hand to the rows of the output. -/
theorem stages_follow_progress (p : Plan) (tables : Tables) :
    Follows (p.stages tables) .start (p.progress tables Stage.order .nothing) := by
  apply Follows.binding
  intro b
  apply Follows.hold
  apply Follows.stage rfl
  intro records
  apply Follows.hold
  apply Follows.stage rfl
  intro found
  apply Follows.hold
  apply Follows.stage rfl
  intro rows
  apply Follows.hold
  apply Follows.stage rfl
  intro inOrder
  apply Follows.hold
  apply Follows.stage rfl
  intro first
  exact .done

/-- The states that a run visits: the stages it enters, and the end if it reaches it. -/
def visits (progress : List Stage × Except QueryError Held) : List RunState :=
  progress.1.map .stage ++
    match progress.2 with
    | .ok _ => [.done]
    | .error _ => []

/-- The state in which a run ends. -/
def endState : Except QueryError Held → RunState
  | .ok _ => .done
  | .error _ => .error

/-- A run visits the stages that it enters and ends with what it has in hand there.  Only a run that
is done still has its records. -/
theorem run_eq_progress (p : Plan) (tables : Tables) :
    (p.run tables).trace.visited = visits (p.progress tables Stage.order .nothing) ∧
      (p.run tables).outcome = Held.output <$> (p.progress tables Stage.order .nothing).2 ∧
      (p.run tables).state = endState (p.progress tables Stage.order .nothing).2 ∧
      (p.run tables).records? =
        (Held.output <$> (p.progress tables Stage.order .nothing).2).toOption := by
  obtain ⟨t, ran, visited, kept⟩ := p.stages_follow_progress tables
  cases ended : (p.progress tables Stage.order .nothing).2 with
  | error e =>
      rw [ended] at ran
      have run : p.run tables = ⟨t.failed, .error e⟩ := by
        rw [Plan.run, execution, run_guarded_error ran]
      rw [run, visits, ended]
      exact ⟨visited.trans (List.append_nil _).symm, rfl, rfl, rfl⟩
  | ok held =>
      rw [ended] at ran
      have run : p.run tables = ⟨t.entered .done, .ok held.output⟩ := by
        rw [Plan.run, execution, run_guarded_ok ran, run_enter, run_pure]
      rw [run, visits, ended]
      exact ⟨congrArg (· ++ [RunState.done]) visited, rfl, rfl, kept held ended⟩

/-- The rows of a plan are those that its stages made, with the error that stopped them if one
did. -/
theorem execute_eq_outcome (p : Plan) (tables : Tables) :
    p.execute tables = (p.run tables).outcome := by
  obtain ⟨-, outcome, state, records⟩ := p.run_eq_progress tables
  rw [execute, outcome]
  cases ended : (p.progress tables Stage.order .nothing).2 with
  | error e => rfl
  | ok held =>
      rw [ended] at state records
      rw [Run.result, state, records]
      rfl

/-! ### Where a run can stop

What the stages before a given one have reached, so that a failure can be traced to the first stage
that fails.  The stages that know of the limit are opened here. -/

/-- What a run has in hand after some stages, if none of them fails. -/
def reach (p : Plan) (tables : Tables) (stages : List Stage) (held : Held) :
    Except QueryError Held :=
  stages.foldlM (fun held s => p.step tables s held) held

/-- A run enters all stages, or it stops at the first one that fails. -/
theorem progress_cases (p : Plan) (tables : Tables) (stages : List Stage) (start : Held) :
    (∃ held, p.progress tables stages start = (stages, .ok held) ∧
      p.reach tables stages start = .ok held) ∨
    ∃ before s after held e, stages = before ++ s :: after ∧
      p.reach tables before start = .ok held ∧ p.step tables s held = .error e ∧
      p.progress tables stages start = (before ++ [s], .error e) := by
  induction stages generalizing start with
  | nil => exact .inl ⟨start, rfl, rfl⟩
  | cons s stages ih =>
      cases stepped : p.step tables s start with
      | error e =>
          exact .inr ⟨[], s, stages, start, e, rfl, rfl, stepped, by simp [progress, stepped]⟩
      | ok next =>
          rcases ih next with ⟨held, all, reached⟩ | ⟨before, t, after, held, e, h⟩
          · refine .inl ⟨held, by simp [progress, stepped, all], ?_⟩
            simpa [reach, stepped] using reached
          · obtain ⟨rfl, reached, failed, stopped⟩ := h
            refine .inr ⟨s :: before, t, after, held, e, rfl, ?_, failed, ?_⟩
            · simpa [reach, stepped] using reached
            · simp [progress, stepped, stopped]

/-- What a run has in hand where it stops is what its stages reach. -/
theorem progress_outcome (p : Plan) (tables : Tables) (stages : List Stage) (start : Held) :
    (p.progress tables stages start).2 = p.reach tables stages start := by
  induction stages generalizing start with
  | nil => rfl
  | cons s stages ih =>
      simp only [progress, reach, List.foldlM_cons]
      cases p.step tables s start with
      | error e => rfl
      | ok next => exact ih next

/-- The records for which the condition of a plan holds, up to a limit. -/
def search (p : Plan) (scope : Scope) (limit : Option Nat) (records : List Record) :
    Except QueryError (List Record) :=
  match p.condition, limit with
  | none, none => .ok records
  | none, some n => limitRows n records
  | some c, none => filterAll (fun r => c.eval scope r) records
  | some c, some n =>
      if largestCount < n then .error .limitTooLarge
      else filterFirst (fun r => c.eval scope r) n records

/-- The search for records knows the limit only if it is applied early. -/
theorem applyWhere_eq (p : Plan) (scope : Scope) (records : List Record) :
    p.applyWhere scope records =
      (if p.limitsEarly then p.rowLimit else .ok none) >>= fun limit =>
        p.search scope limit records := by
  unfold applyWhere
  cases p.limitsEarly <;> rfl

/-- A limit that was applied early is not applied again. -/
theorem applyLimit_of_early {p : Plan} (early : p.limitsEarly = true) (rows : List Projected) :
    p.applyLimit rows = .ok rows := by
  simp [applyLimit, early]

/-- Rows are left as they are where the limit is applied early: there are no sort keys. -/
theorem applyOrderBy_of_early {p : Plan} (early : p.limitsEarly = true) (scope : Scope)
    (rows : List Projected) : p.applyOrderBy scope rows = .ok rows := by
  simp only [limitsEarly] at early
  simp [applyOrderBy, early]

/-- The answer of a plan is what its stages make of the tables, one after the other. -/
theorem execute_eq (p : Plan) (tables : Tables) :
    p.execute tables = do
      let b ← p.bind tables
      p.validate b.scope
      let records ← p.applyJoins b
      let records ← p.applyWhere b.scope records
      let rows ← p.applySelect b.scope records
      let rows ← p.applyOrderBy b.scope rows
      let rows ← p.applyLimit rows
      return rows.map Projected.output := by
  rw [execute_eq_outcome, (p.run_eq_progress tables).2.1, progress_outcome]
  simp only [reach, Stage.order, List.foldlM_cons, List.foldlM_nil, step, map_eq_pure_bind,
    bind_assoc, pure_bind, Held.output]

end Plan

end DocQuery
