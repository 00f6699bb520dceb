/-
Module: DocQuery.Proofs.LimitRange
Purpose: Which of the row limits that are accepted can be applied: those up to the largest count, on
  rows and on a whole query alike.
Main exports: limitRows_mapM, Plan.search_limited, Plan.execute_limited, Plan.accepted_limits,
  Plan.accepted_limit_fails
-/
import DocQuery.Proofs.Explanation
import DocQuery.Proofs.ParsedPlan
import DocQuery.Proofs.RowLimit

namespace DocQuery

open Outcome

/-! ### A limit on rows

Counting off rows fails from a certain count on, whatever the rows are.  Up to there it takes the
first ones, and taking commutes with mapping. -/

theorem limitRows_of_lt {α : Type} {n : Nat} (h : largestCount < n) (rows : List α) :
    limitRows n rows = .error .limitTooLarge :=
  if_pos h

/-- It is all the same whether a limit is applied to items or to what they are mapped to. -/
theorem limitRows_mapM {α β : Type} {f : α → Except QueryError β} {xs : List α} {ys : List β}
    (n : Nat) (h : xs.mapM f = .ok ys) :
    (limitRows n xs >>= fun kept => kept.mapM f) = limitRows n ys := by
  rcases Nat.lt_or_ge largestCount n with large | small
  · rw [limitRows_of_lt large, limitRows_of_lt large, error_bind]
  · rw [limitRows_of_le small, limitRows_of_le small, ok_bind, mapM_take n h]

theorem map_limitRows {α β : Type} (f : α → β) (n : Nat) (rows : List α) :
    (limitRows n rows >>= fun kept => .ok (kept.map f)) = limitRows n (rows.map f) := by
  rcases Nat.lt_or_ge largestCount n with large | small
  · rw [limitRows_of_lt large, limitRows_of_lt large, error_bind]
  · rw [limitRows_of_le small, limitRows_of_le small, ok_bind, List.map_take]

namespace Plan

/-! ### A limit on a query

On a query that has an answer, an early limit and a late one do the same to it, also where they
fail. -/

variable {p : Plan} {tables : Tables} {scope : Scope} {n : Nat}

/-- A search with a limit finds what the limit leaves of the records that one without finds. -/
theorem search_limited {records kept : List Record} (n : Nat)
    (h : p.search scope none records = .ok kept) :
    (p.withLimit n).search scope (some n) records = limitRows n kept := by
  rcases Nat.lt_or_ge largestCount n with large | small
  · rw [limitRows_of_lt large]
    have same : (p.withLimit n).condition = p.condition := rfl
    cases condition : p.condition with
    | none => simp only [search, same, condition, limitRows_of_lt large]
    | some c => simp only [search, same, condition, large, if_true]
  · rw [limitRows_of_le small]
    exact search_withLimit small h

theorem applyWhere_limited_of_early {records kept : List Record} (n : Nat)
    (noLimit : p.limit = none) (early : p.limitsEarly = true)
    (h : p.applyWhere scope records = .ok kept) :
    (p.withLimit n).applyWhere scope records = limitRows n kept := by
  have unlimited : p.rowLimit = .ok none := by
    simp [rowLimit, noLimit]
  have early' : (p.withLimit n).limitsEarly = true := early
  rw [applyWhere_eq, if_pos early, unlimited, ok_bind] at h
  rw [applyWhere_eq, if_pos early', rowLimit_withLimit, ok_bind]
  exact search_limited n h

theorem applyLimit_limited_of_late (n : Nat) (late : p.limitsEarly = false)
    (rows : List Projected) : (p.withLimit n).applyLimit rows = limitRows n rows := by
  have late' : (p.withLimit n).limitsEarly = false := late
  simp only [applyLimit, late', rowLimit_withLimit]
  rfl

/-- With a limit a query answers what the limit leaves of its answer without one. -/
theorem execute_limited {records : List Record} (n : Nat) (noLimit : p.limit = none)
    (h : p.execute tables = .ok records) :
    (p.withLimit n).execute tables = limitRows n records := by
  rw [execute_eq] at h ⊢
  obtain ⟨b, bound, h⟩ := bind_eq_ok.1 h
  obtain ⟨_, valid, h⟩ := bind_eq_ok.1 h
  obtain ⟨joined, joins, h⟩ := bind_eq_ok.1 h
  obtain ⟨kept, search, h⟩ := bind_eq_ok.1 h
  obtain ⟨rows, select, h⟩ := bind_eq_ok.1 h
  obtain ⟨inOrder, order, h⟩ := bind_eq_ok.1 h
  rw [applyLimit_of_none noLimit] at h
  cases h
  have bound' : (p.withLimit n).bind tables = .ok b := bound
  have joins' : (p.withLimit n).applyJoins b = .ok joined := joins
  rw [bound', ok_bind, validate_withLimit n valid, ok_bind, joins', ok_bind]
  cases early : p.limitsEarly with
  | true =>
      -- The limit is applied before the columns are taken, one row from each record.
      rw [applyOrderBy_of_early early] at order
      cases order
      have early' : (p.withLimit n).limitsEarly = true := early
      have selected := limitRows_mapM n select
      simp only [applyWhere_limited_of_early n noLimit early search, applyOrderBy_of_early early',
        applyLimit_of_early early', ok_bind, applySelect, pure_eq_ok]
      rw [← map_limitRows, ← selected, bind_assoc]
      rfl
  | false =>
      have select' : (p.withLimit n).applySelect b.scope kept = .ok rows := select
      have order' : (p.withLimit n).applyOrderBy b.scope rows = .ok inOrder := order
      rw [applyWhere_withLimit_of_late n early, search, ok_bind, select', ok_bind, order', ok_bind,
        applyLimit_limited_of_late n early]
      exact map_limitRows Projected.output n inOrder

/-! ### Limits that are accepted

The check of a limit and the reader of queries let any count pass.  Only some of these can be
applied, and the theorem says which. -/

/-- A plan that has a limit is the one without it, limited. -/
theorem withLimit_of_limit {v : Value} (given : p.limit = some v)
    (accepted : checkLimit v = .ok n) :
    ({ p with limit := none } : Plan).withLimit n = p := by
  rw [checkLimit_eq_ok.1 accepted] at given
  rw [withLimit, ← given]

/-- A count and whatever limit a query text has are accepted.  On rows and on a query that has an
answer without it, an accepted limit leaves the first ones, unless it is past the largest count:
then it fails, however few rows there are. -/
theorem accepted_limits {v : Value} (given : p.limit = some v)
    (source : (∃ n, checkLimit v = .ok n) ∨ ∃ sql, Sql.parse sql = .ok p) :
    ∃ n, checkLimit v = .ok n ∧
      (∀ {α : Type} (rows : List α), limitRows n rows =
        if n ≤ largestCount then .ok (rows.take n) else .error .limitTooLarge) ∧
      ∀ tables records, ({ p with limit := none } : Plan).execute tables = .ok records →
        p.execute tables =
          if n ≤ largestCount then .ok (records.take n) else .error .limitTooLarge := by
  obtain ⟨n, accepted⟩ : ∃ n, checkLimit v = .ok n := by
    rcases source with accepted | ⟨sql, parsed⟩
    · exact accepted
    · obtain ⟨n, rfl⟩ := (Sql.parse_wellFormed parsed).limit v given
      exact ⟨n, checkLimit_eq_ok.2 rfl⟩
  have limited {α : Type} (rows : List α) : limitRows n rows =
      if n ≤ largestCount then .ok (rows.take n) else .error .limitTooLarge := by
    rcases Nat.lt_or_ge largestCount n with large | small
    · rw [limitRows_of_lt large, if_neg (Nat.not_le.2 large)]
    · rw [limitRows_of_le small, if_pos small]
  refine ⟨n, accepted, limited, fun tables records unlimited => ?_⟩
  have answer := execute_limited n rfl unlimited
  rwa [withLimit_of_limit given accepted, limited] at answer

/-- The names of products, read with the largest limit that can be applied and with the next one. -/
theorem accepted_limits_edge :
    Sample.plan.execute Sample.bindings.tables = .ok Sample.answer ∧
      (Sample.plan.withLimit largestCount).execute Sample.bindings.tables = .ok Sample.answer ∧
      (Sample.plan.withLimit (largestCount + 1)).execute Sample.bindings.tables =
        .error .limitTooLarge := by
  refine ⟨rfl, ?_, ?_⟩
  · obtain ⟨n, accepted, _, answers⟩ :=
      accepted_limits (p := Sample.plan.withLimit largestCount) rfl (.inl ⟨largestCount, rfl⟩)
    cases accepted
    exact answers Sample.bindings.tables Sample.answer rfl
  · obtain ⟨n, accepted, _, answers⟩ :=
      accepted_limits (p := Sample.plan.withLimit (largestCount + 1)) rfl
        (.inl ⟨largestCount + 1, rfl⟩)
    cases accepted
    exact answers Sample.bindings.tables Sample.answer rfl

/-- The first limit past the largest count is accepted, in a text as well, and fails on any rows. -/
theorem accepted_limit_fails :
    checkLimit (.int 9223372036854775808) = .ok 9223372036854775808 ∧
      limitRows 9223372036854775808 ([] : List Record) = .error .limitTooLarge ∧
      ∃ p, Sql.parse "SELECT id FROM t LIMIT 9223372036854775808" = .ok p ∧
        let tables : Tables := [("t", ⟨"t", [[("id", .int 1)]], none⟩)]
        ({ p with limit := none } : Plan).execute tables = .ok [⟨[("id", .int 1)], none⟩] ∧
          p.execute tables = .error .limitTooLarge := by
  have tokens : Sql.tokenize "SELECT id FROM t LIMIT 9223372036854775808" =
      .ok [.word "SELECT", .word "id", .word "FROM", .word "t", .word "LIMIT",
        .word "9223372036854775808"] := by cbv
  refine ⟨rfl, rfl,
    ⟨⟨"t", none⟩, [], [], none, [⟨"id", none⟩], [], some (.int 9223372036854775808)⟩, ?_, rfl, rfl⟩
  rw [Sql.parse, tokens]
  rfl

end Plan

end DocQuery
