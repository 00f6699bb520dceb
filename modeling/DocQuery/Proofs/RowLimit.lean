/-
Module: DocQuery.Proofs.RowLimit
Purpose: A row limit cuts off the answer of a query, wherever in the run it is applied.
Main exports: Plan.withLimit, Plan.applyWhere_withLimit, Plan.applyLimit_withLimit,
  Plan.execute_withLimit
-/
import DocQuery.Proofs.Bindings
import DocQuery.Proofs.Stages

namespace DocQuery

open Outcome

/-- No more rows than can be counted off are asked for. -/
theorem limitRows_of_le {α : Type} {n : Nat} (h : n ≤ largestCount) (rows : List α) :
    limitRows n rows = .ok (rows.take n) := by
  simp [limitRows, Nat.not_lt.2 h]

namespace Plan

/-- The plan with a row limit. -/
def withLimit (p : Plan) (n : Nat) : Plan :=
  { p with limit := some (.int n) }

theorem rowLimit_withLimit (p : Plan) (n : Nat) : (p.withLimit n).rowLimit = .ok (some n) := by
  simp [rowLimit, withLimit, Value.int, checkLimit]

/-- A plan without a limit that is valid stays so when it gets one. -/
theorem validate_withLimit {p : Plan} {scope : Scope} (n : Nat)
    (h : p.validate scope = .ok ()) : (p.withLimit n).validate scope = .ok () := by
  obtain ⟨_, joins, h⟩ := bind_eq_ok.1 h
  obtain ⟨_, condition, h⟩ := bind_eq_ok.1 h
  obtain ⟨_, select, h⟩ := bind_eq_ok.1 h
  obtain ⟨_, order, _⟩ := bind_eq_ok.1 h
  have accepted : discard (checkLimit (.int n)) = .ok () :=
    discard_eq_ok.2 ⟨n, by simp [Value.int, checkLimit]⟩
  exact bind_eq_ok.2 ⟨_, joins, bind_eq_ok.2 ⟨_, condition, bind_eq_ok.2 ⟨_, select,
    bind_eq_ok.2 ⟨_, order, accepted⟩⟩⟩⟩

/-- A search with a limit finds the first records that one without a limit finds. -/
theorem search_withLimit {p : Plan} {scope : Scope} {n : Nat} {records kept : List Record}
    (small : n ≤ largestCount) (h : p.search scope none records = .ok kept) :
    (p.withLimit n).search scope (some n) records = .ok (kept.take n) := by
  have same : (p.withLimit n).condition = p.condition := rfl
  cases condition : p.condition with
  | none =>
      simp only [search, condition] at h
      cases h
      simp only [search, same, condition]
      exact limitRows_of_le small records
  | some c =>
      simp only [search, condition] at h
      simp only [search, same, condition, Nat.not_lt.2 small, if_false]
      exact filterFirst_of_filterAll n h

/-- With an early limit the first records are kept of those that a plan without a limit keeps. -/
theorem applyWhere_withLimit {p : Plan} {scope : Scope} {n : Nat} {records kept : List Record}
    (noLimit : p.limit = none) (small : n ≤ largestCount) (early : p.limitsEarly = true)
    (h : p.applyWhere scope records = .ok kept) :
    (p.withLimit n).applyWhere scope records = .ok (kept.take n) := by
  have unlimited : p.rowLimit = .ok none := by
    simp [rowLimit, noLimit]
  have early' : (p.withLimit n).limitsEarly = true := early
  rw [applyWhere_eq, if_pos early, unlimited, ok_bind] at h
  rw [applyWhere_eq, if_pos early', rowLimit_withLimit, ok_bind]
  exact search_withLimit small h

/-- A late limit changes nothing in the search for records. -/
theorem applyWhere_withLimit_of_late {p : Plan} {scope : Scope} (n : Nat) {records : List Record}
    (late : p.limitsEarly = false) :
    (p.withLimit n).applyWhere scope records = p.applyWhere scope records := by
  have late' : (p.withLimit n).limitsEarly = false := late
  rw [applyWhere_eq, applyWhere_eq, late, late']
  rfl

/-- A late limit keeps the first rows. -/
theorem applyLimit_withLimit {p : Plan} {n : Nat} (small : n ≤ largestCount)
    (late : p.limitsEarly = false) (rows : List Projected) :
    (p.withLimit n).applyLimit rows = .ok (rows.take n) := by
  have late' : (p.withLimit n).limitsEarly = false := late
  simp only [applyLimit, late', rowLimit_withLimit]
  exact limitRows_of_le small rows

/-- Without a limit all rows are kept. -/
theorem applyLimit_of_none {p : Plan} (noLimit : p.limit = none) (rows : List Projected) :
    p.applyLimit rows = .ok rows := by
  cases early : p.limitsEarly with
  | true => exact applyLimit_of_early early rows
  | false => simp [applyLimit, early, rowLimit, noLimit]

/-- The answer of a plan with a limit is the first part of its answer without one.  The limit may
be any count of rows that can be counted off at all. -/
theorem execute_withLimit (p : Plan) (tables : Tables) (n : Nat) (records : List Record)
    (noLimit : p.limit = none) (small : n ≤ largestCount)
    (h : p.execute tables = .ok records) :
    (p.withLimit n).execute tables = .ok (records.take n) := by
  rw [execute_eq] at h ⊢
  obtain ⟨b, bound, h⟩ := bind_eq_ok.1 h
  obtain ⟨_, valid, h⟩ := bind_eq_ok.1 h
  obtain ⟨joined, joins, h⟩ := bind_eq_ok.1 h
  obtain ⟨kept, search, h⟩ := bind_eq_ok.1 h
  obtain ⟨rows, select, h⟩ := bind_eq_ok.1 h
  obtain ⟨inOrder, order, h⟩ := bind_eq_ok.1 h
  rw [applyLimit_of_none noLimit] at h
  cases h
  refine bind_eq_ok.2 ⟨b, bound, bind_eq_ok.2 ⟨_, validate_withLimit n valid,
    bind_eq_ok.2 ⟨joined, joins, ?_⟩⟩⟩
  -- The joins do not know of the limit.  An early one stops the search, and taking rows commutes
  -- with the select list; a late one is applied to the same rows in order.
  cases early : p.limitsEarly with
  | true =>
      rw [applyOrderBy_of_early early] at order
      cases order
      have selected : (p.withLimit n).applySelect b.scope (kept.take n) = .ok (rows.take n) :=
        mapM_take n select
      have early' : (p.withLimit n).limitsEarly = true := early
      rw [applyWhere_withLimit noLimit small early search, ok_bind, selected, ok_bind,
        applyOrderBy_of_early early', ok_bind, applyLimit_of_early early', ok_bind,
        ← List.map_take]
      rfl
  | false =>
      have selected : (p.withLimit n).applySelect b.scope kept = .ok rows := select
      have ordered : (p.withLimit n).applyOrderBy b.scope rows = .ok inOrder := order
      rw [applyWhere_withLimit_of_late n early, search, ok_bind, selected, ok_bind, ordered,
        ok_bind, applyLimit_withLimit small early, ok_bind, ← List.map_take]
      rfl

/-- The first two names of products, read with a limit. -/
theorem execute_withLimit_sample :
    Sample.plan.limit = none ∧ 2 ≤ largestCount ∧
      Sample.plan.execute Sample.bindings.tables = .ok Sample.answer ∧
      (Sample.plan.withLimit 2).execute Sample.bindings.tables = .ok (Sample.answer.take 2) :=
  ⟨rfl, by decide, rfl,
    execute_withLimit Sample.plan Sample.bindings.tables 2 Sample.answer rfl (by decide) rfl⟩

end Plan

end DocQuery
