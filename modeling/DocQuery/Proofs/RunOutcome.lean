/-
Module: DocQuery.Proofs.RunOutcome
Purpose: How a run can end, and what can still stop it once its tables are bound.
Main exports: Plan.FailsAt, Plan.HeldSound, Plan.step_sound, Plan.reach_sound,
  Plan.step_failsOnly, Plan.run_outcome
-/
import DocQuery.Proofs.Validation

namespace DocQuery

open Outcome

namespace Plan

variable {p : Plan} {tables : Tables}

/-- The stages before one succeed, and it fails. -/
def FailsAt (p : Plan) (tables : Tables) (before : List Stage) (s : Stage) (e : QueryError) :
    Prop :=
  ∃ held, p.reach tables before .nothing = .ok held ∧ p.step tables s held = .error e

/-! ### What a run in progress can rely on

The invariant of a run: once tables are in hand, they are those that binding gives, and the plan is
valid on them.  Each stage preserves it, and with it each later stage can only fail in known
ways. -/

/-- Tables that a run has in hand are those of its plan, which was found valid on them. -/
def HeldSound (p : Plan) (tables : Tables) (held : Held) : Prop :=
  ∀ b, held.bound? = some b → p.bind tables = .ok b ∧ p.validate b.scope = .ok ()

/-- A stage after the first one keeps the tables of a run. -/
theorem bound?_step {s : Stage} {held held' : Held} (later : s ≠ .bindTables)
    (h : p.step tables s held = .ok held') : held'.bound? = held.bound? := by
  -- Whatever a stage does to the records, it hands the tables on with them.
  cases s with
  | bindTables => exact absurd rfl later
  | applyJoins =>
      cases held with
      | tables b =>
          obtain ⟨_, _, rfl⟩ := map_eq_ok.1 h
          rfl
      | nothing | records b records | rows b rows =>
          cases h
          rfl
  | applyWhere | applySelect =>
      cases held with
      | records b records =>
          obtain ⟨_, _, rfl⟩ := map_eq_ok.1 h
          rfl
      | nothing | tables b | rows b rows =>
          cases h
          rfl
  | applyOrderBy | applyLimit =>
      cases held with
      | rows b rows =>
          obtain ⟨_, _, rfl⟩ := map_eq_ok.1 h
          rfl
      | nothing | tables b | records b records =>
          cases h
          rfl

/-- A stage keeps the tables of a run, or binds them and checks the plan. -/
theorem step_sound {s : Stage} {held held' : Held} (sound : p.HeldSound tables held)
    (h : p.step tables s held = .ok held') : p.HeldSound tables held' := by
  intro b hb
  by_cases first : s = .bindTables
  · subst first
    obtain ⟨b', bound, h⟩ := bind_eq_ok.1 h
    obtain ⟨_, valid, h⟩ := bind_eq_ok.1 h
    cases h
    cases hb
    exact ⟨bound, valid⟩
  · rw [bound?_step first h] at hb
    exact sound b hb

/-- Whatever stages a run has gone through, it has valid tables in hand. -/
theorem reach_sound {stages : List Stage} {held : Held}
    (h : p.reach tables stages .nothing = .ok held) : p.HeldSound tables held := by
  suffices ∀ start, p.HeldSound tables start → p.reach tables stages start = .ok held →
      p.HeldSound tables held from this .nothing (fun b hb => by cases hb) h
  clear h
  induction stages with
  | nil =>
      intro start sound h
      cases h
      exact sound
  | cons s stages ih =>
      intro start sound h
      rw [reach, List.foldlM_cons] at h
      obtain ⟨next, stepped, h⟩ := bind_eq_ok.1 h
      exact ih next (step_sound sound stepped) h

/-- On valid tables a stage fails without a fault of the query, or because two sort keys have no
order. -/
theorem step_failsOnly (named : WellNamed tables) {s : Stage} {held : Held}
    (sound : p.HeldSound tables held) (later : s ≠ .bindTables) :
    FailsOnly (fun e => Unreported e ∨ s = .applyOrderBy ∧ e.isTypeMismatch = true)
      (p.step tables s held) := by
  have checked (b : Bound) (hb : held.bound? = some b) : b.Sound p tables ∧ p.Valid b.scope :=
    ⟨bind_sound named (sound b hb).1, validate_sound (sound b hb).2⟩
  have early {α : Type} {x : Except QueryError α} (h : FailsOnly Unreported x) :
      FailsOnly (fun e => Unreported e ∨ s = .applyOrderBy ∧ e.isTypeMismatch = true) x :=
    h.mono fun _ => .inl
  -- A stage does its work on what the stage before it leaves at hand, and passes the rest on.
  cases s with
  | bindTables => exact absurd rfl later
  | applyJoins =>
      cases held with
      | tables b =>
          obtain ⟨sound, valid⟩ := checked b rfl
          exact (early (applyJoins_failsOnly sound valid)).map _
      | nothing | records b records | rows b rows => exact .ok _
  | applyWhere =>
      cases held with
      | records b records =>
          exact (early (applyWhere_failsOnly (checked b rfl).2 records)).map _
      | nothing | tables b | rows b rows => exact .ok _
  | applySelect =>
      cases held with
      | records b records =>
          exact (early (applySelect_failsOnly (checked b rfl).2 records)).map _
      | nothing | tables b | rows b rows => exact .ok _
  | applyOrderBy =>
      cases held with
      | rows b rows =>
          have sorted := applyOrderBy_failsOnly (checked b rfl).2 rows
          refine FailsOnly.map _ (sorted.mono fun e he => ?_)
          exact he.imp_right fun mismatch => ⟨rfl, mismatch⟩
      | nothing | tables b | records b records => exact .ok _
  | applyLimit =>
      cases held with
      | rows b rows =>
          exact (early (applyLimit_failsOnly (checked b rfl).2 rows)).map _
      | nothing | tables b | records b records => exact .ok _

/-- A run ends in one of two ways.  Either it has taken all stages in order and has its records, or
it stopped at the stage that failed and has none.  Once its tables are bound, the only fault of the
query that can stop it is that two sort keys have no order, found while the rows are sorted. -/
theorem run_outcome (p : Plan) (given : Bindings) :
    (∃ records, (p.run given.tables).outcome = .ok records ∧
      (p.run given.tables).state = .done ∧
      (p.run given.tables).result = .ok records ∧
      (p.run given.tables).trace.visited = Stage.order.map .stage ++ [.done]) ∨
    (∃ before s after e, Stage.order = before ++ s :: after ∧
      (p.run given.tables).trace.visited = (before ++ [s]).map .stage ∧
      p.FailsAt given.tables before s e ∧
      (p.run given.tables).outcome = .error e ∧
      (p.run given.tables).state = .error ∧
      (p.run given.tables).records? = none ∧
      (∃ fault, (p.run given.tables).result = .error fault ∧ fault.isReported = true) ∧
      (s ≠ .bindTables → e.isReported = true → s = .applyOrderBy ∧ e.isTypeMismatch = true)) := by
  obtain ⟨visited, outcome, state, records⟩ := p.run_eq_progress given.tables
  rcases p.progress_cases given.tables Stage.order .nothing with
    ⟨held, all, _⟩ | ⟨before, s, after, held, e, order, reached, failed, stopped⟩
  · rw [all] at visited outcome state records
    refine .inl ⟨held.output, outcome, state, ?_, visited⟩
    rw [Run.result, state, records]
    rfl
  · rw [stopped] at visited outcome state records
    refine .inr ⟨before, s, after, e, order, ?_, ⟨held, reached, failed⟩, outcome, state, records,
      ?_, ?_⟩
    · rw [visited, visits, List.append_nil]
    · refine ⟨.notCompleted RunState.error.name, ?_, rfl⟩
      rw [Run.result, state]
      rfl
    · intro later reported
      rcases step_failsOnly given.wellNamed (reach_sound reached) later e failed with
        silent | mismatch
      · exact absurd reported (Bool.eq_false_iff.1 silent)
      · exact mismatch

end Plan

end DocQuery
