/-
Module: DocQuery.Proofs.Validation
Purpose: Of a plan that was found valid, no stage meets a fault that the check looks for.
Main exports: QueryError.isReported, QueryError.isTypeMismatch, Plan.Valid, Plan.validate_sound,
  Plan.applyJoins_failsOnly, Plan.applyWhere_failsOnly, Plan.applySelect_failsOnly,
  Plan.applyOrderBy_failsOnly, Plan.applyLimit_failsOnly
-/
import DocQuery.Proofs.Evaluation
import DocQuery.Proofs.StableSort
import DocQuery.Proofs.Stages

namespace DocQuery

open Outcome

/-! ### Kinds of errors -/

/-- An error that reports a fault of the query.  The others come from plain operations on numbers
and lists: reading digits that are not decimal, counting too far, looking among no tables. -/
def QueryError.isReported : QueryError → Bool
  | .noTable | .arrayIndex _ | .limitTooLarge => false
  | _ => true

/-- The error that two sort keys have no order. -/
def QueryError.isTypeMismatch : QueryError → Bool
  | .sortKey .. => true
  | _ => false

/-- The error reports no fault of the query. -/
def Unreported (e : QueryError) : Prop :=
  e.isReported = false

/-! ### Reading values -/

/-- That an index has digits which are not decimal is no fault that the check looks for. -/
theorem Scope.Locates.resolve_failsOnly {scope : Scope} {ref : String} (h : scope.Locates ref)
    (r : Record) : FailsOnly Unreported (scope.resolve r ref) := by
  intro e failed
  obtain ⟨part, -, rfl⟩ := h.resolve_eq_error_iff.1 failed
  rfl

/-! ### The fields that a join compares

Two fields that can be located are put on different sides, or the join is refused. -/

/-- A location is not on the side of the joined table if it is not of that table. -/
theorem ofLocation_ne_joined {aliasName : String} {l : Location}
    (h : JoinSide.ofLocation aliasName l ≠ some .joined) (a : String)
    (points : l.aliasName = some a) : a ≠ aliasName := by
  rintro rfl
  simp [JoinSide.ofLocation, points] at h

/-- A location is not on the side of the earlier tables if it is of no other table. -/
theorem ofLocation_ne_earlier {aliasName : String} {l : Location}
    (h : JoinSide.ofLocation aliasName l ≠ some .earlier) (a : String)
    (points : l.aliasName = some a) : a = aliasName := by
  by_contra other
  simp [JoinSide.ofLocation, points, other] at h

/-- The fields that a join compares can be located.  The first one is not of the joined table, and
the second one is of no other table. -/
theorem joinFields_sides {scope : Scope} {aliasName : String} {on : Condition}
    {fields : String × String} (h : joinFields scope aliasName on = .ok fields) :
    ∃ left right, scope.locate joinClause fields.1 = .ok left ∧
      scope.locate joinClause fields.2 = .ok right ∧
      (∀ a, left.aliasName = some a → a ≠ aliasName) ∧
      ∀ a, right.aliasName = some a → a = aliasName := by
  unfold joinFields at h
  split at h
  · rename_i first second
    obtain ⟨l₁, located₁, h⟩ := bind_eq_ok.1 h
    obtain ⟨l₂, located₂, h⟩ := bind_eq_ok.1 h
    simp only at h
    suffices (fields = (first, second) ∧ JoinSide.ofLocation aliasName l₁ ≠ some .joined ∧
          JoinSide.ofLocation aliasName l₂ ≠ some .earlier) ∨
        (fields = (second, first) ∧ JoinSide.ofLocation aliasName l₂ ≠ some .joined ∧
          JoinSide.ofLocation aliasName l₁ ≠ some .earlier) by
      rcases this with ⟨rfl, left, right⟩ | ⟨rfl, left, right⟩
      · exact ⟨l₁, l₂, located₁, located₂, ofLocation_ne_joined left, ofLocation_ne_earlier right⟩
      · exact ⟨l₂, l₁, located₂, located₁, ofLocation_ne_joined left, ofLocation_ne_earlier right⟩
    generalize JoinSide.ofLocation aliasName l₁ = side₁ at h ⊢
    generalize JoinSide.ofLocation aliasName l₂ = side₂ at h ⊢
    rcases side₁ with _ | (_ | _) <;> rcases side₂ with _ | (_ | _) <;>
      simp_all [JoinSide.opposite]
  · cases h

/-! ### What the check of a plan makes sure of

The check goes through the clauses and stops at the first fault.  If it finds none, each clause can
be carried out in its scope. -/

namespace Plan

/-- Every clause of a plan can be carried out: the fields of joins can be told apart, conditions
are of known kinds, wildcards name tables, and every reference can be located, a sort key perhaps
only as an output name. -/
structure Valid (p : Plan) (scope : Scope) : Prop where
  joins (i : Nat) (j : Join) : p.joins[i]? = some j →
    ∃ fields, joinFields (p.joinScope scope i) j.aliasName j.on = .ok fields
  condition (c : Condition) : p.condition = some c → c.check scope "WHERE" = .ok ()
  select (item : SelectItem) : item ∈ p.select → item.isWildcard = false →
    scope.Locates item.source
  wildcards (item : SelectItem) (table : String) : item ∈ p.select →
    item.wildcardAlias? = some table → table ∈ scope.aliases
  orderBy (key : OrderKey) : key ∈ p.orderBy → scope.Locates key.field ∨
    ∃ e, scope.locate "ORDER BY" key.field = .error e ∧ mayBeOutputName e = true ∧
      some key.field ∈ outputNames p.select
  limit (v : Value) : p.limit = some v → ∃ n, checkLimit v = .ok n

theorem validate_sound {p : Plan} {scope : Scope} (h : p.validate scope = .ok ()) :
    p.Valid scope := by
  obtain ⟨_, joins, h⟩ := bind_eq_ok.1 h
  obtain ⟨_, condition, h⟩ := bind_eq_ok.1 h
  obtain ⟨_, select, h⟩ := bind_eq_ok.1 h
  obtain ⟨_, order, limit⟩ := bind_eq_ok.1 h
  -- The checks are made in the order of the clauses, and the fields of `Valid` stand in it too.
  refine ⟨fun i j hj => ?_, fun c hc => ?_, fun item hitem plain => ?_,
    fun item table hitem all => ?_, fun key hkey => ?_, fun v hv => ?_⟩
  · exact discard_eq_ok.1 (forM_eq_ok_iff.1 joins (j, i) (List.mem_zipIdx_iff_getElem?.2 hj))
  · rw [hc] at condition
    exact condition
  · have checked := forM_eq_ok_iff.1 select item hitem
    rw [plain] at checked
    obtain ⟨l, located⟩ := discard_eq_ok.1 checked
    exact ⟨_, l, located⟩
  · have checked := forM_eq_ok_iff.1 select item hitem
    have wildcard : item.isWildcard = true := by
      simp [SelectItem.isWildcard, all]
    rw [if_pos wildcard, all] at checked
    by_cases bound : scope.isBound table
    · simpa [Scope.isBound] using bound
    · simp [bound] at checked
  · have checked := forM_eq_ok_iff.1 order key hkey
    cases located : scope.locate "ORDER BY" key.field with
    | ok l => exact .inl ⟨_, l, located⟩
    | error e =>
        simp only [located] at checked
        by_cases output : mayBeOutputName e && (outputNames p.select).contains (some key.field)
        · obtain ⟨may, named⟩ := (Bool.and_eq_true _ _).mp output
          exact .inr ⟨e, rfl, may, by simpa using named⟩
        · rw [if_neg output] at checked
          cases checked
  · rw [hv] at limit
    exact discard_eq_ok.1 limit

/-! ### What can still stop the stages

For each stage, in the order of the run: on a valid plan it fails in none of the ways that the check
looks for.  What remains are plain faults, and two sort keys without an order. -/

variable {p : Plan} {b : Bound}

theorem apply_unnest_failsOnly {u : Unnest} {scope : Scope} (h : scope.Locates u.arrayField)
    (records : List Record) : FailsOnly Unreported (u.apply scope records) := by
  refine FailsOnly.bind (.mapM fun r _ => ?_) fun _ _ => .ok _
  refine FailsOnly.bind (FailsOnly.bind (h.resolve_failsOnly r) fun v _ => ?_) fun _ _ => .ok _
  cases v <;> exact .ok _

theorem build_failsOnly {scope : Scope} {field : String} (h : scope.Locates field)
    (records : List Record) : FailsOnly Unreported (JoinIndex.build scope field records) := by
  refine .foldlM _ fun r _ index => (h.resolve_failsOnly r).bind fun v _ => ?_
  cases v.joinKey? <;> exact .ok _

theorem joinRecords_failsOnly {scope : Scope} {j : Join} {fields : String × String}
    (h : joinFields scope j.aliasName j.on = .ok fields) (left : List Record) (right : Table) :
    FailsOnly Unreported (joinRecords scope j left right) := by
  obtain ⟨_, _, first, second, _⟩ := joinFields_sides h
  have first' : scope.Locates fields.1 := ⟨_, _, first⟩
  unfold joinRecords
  rw [h]
  refine (build_failsOnly ⟨_, _, second⟩ right.records).bind fun index _ => ?_
  refine FailsOnly.bind (.mapM fun r _ => ?_) fun _ _ => .ok _
  exact (first'.resolve_failsOnly r).bind fun _ _ => .ok _

theorem applyJoins_failsOnly {tables : Tables} (sound : b.Sound p tables)
    (valid : p.Valid b.scope) : FailsOnly Unreported (p.applyJoins b) := by
  refine FailsOnly.bind (.foldlM _ ?_) fun unnested _ => .foldlM _ ?_
  · rintro ⟨u, i⟩ hu records
    obtain ⟨l, located⟩ := sound.arrays i u (List.mem_zipIdx_iff_getElem?.1 hu)
    exact apply_unnest_failsOnly ⟨_, l, located⟩ records
  · rintro ⟨⟨j, t⟩, i⟩ hj records
    have both := List.mem_zipIdx_iff_getElem?.1 hj
    obtain ⟨fields, h⟩ := valid.joins i j (List.getElem?_zip_eq_some.1 both).1
    exact joinRecords_failsOnly h records t

theorem rowLimit_eq_ok (valid : p.Valid b.scope) : ∃ limit, p.rowLimit = .ok limit := by
  unfold rowLimit
  cases hv : p.limit with
  | none => exact ⟨none, rfl⟩
  | some v =>
      obtain ⟨n, hn⟩ := valid.limit v hv
      exact ⟨some n, by simp [hn]⟩

theorem limitRows_failsOnly {α : Type} (n : Nat) (rows : List α) :
    FailsOnly Unreported (limitRows n rows) := by
  unfold limitRows
  split
  · exact .error rfl
  · exact .ok _

theorem applyWhere_failsOnly (valid : p.Valid b.scope) (records : List Record) :
    FailsOnly Unreported (p.applyWhere b.scope records) := by
  obtain ⟨limit, hlimit⟩ := rowLimit_eq_ok valid
  have test (c : Condition) (hc : p.condition = some c) (r : Record) :
      FailsOnly Unreported (c.eval b.scope r) :=
    (Condition.eval_reads r c (valid.condition c hc)).failsOnly fun ref hr =>
      (Condition.locates_of_check c (valid.condition c hc) ref
        (Condition.visited_subset b.scope r c hr)).resolve_failsOnly r
  have search (limit : Option Nat) : FailsOnly Unreported (p.search b.scope limit records) := by
    unfold Plan.search
    split
    · exact .ok _
    · exact limitRows_failsOnly _ _
    · rename_i c hc
      exact filterAll_failsOnly fun r _ => test c hc r
    · rename_i c n hc
      split
      · exact .error rfl
      · exact filterFirst_failsOnly n fun r _ => test c hc r
  rw [applyWhere_eq]
  refine FailsOnly.bind ?_ fun limit' _ => search limit'
  split
  · exact .of_eq_ok hlimit
  · exact .ok none

/-- An item with an output name is no wildcard. -/
theorem isWildcard_of_outputName {items : List SelectItem} {item : SelectItem} {name : String}
    (h : (item, some name) ∈ items.zip (outputNames items)) : item.isWildcard = false := by
  simp only [outputNames, ← List.map_prod_left_eq_zip] at h
  obtain ⟨item', _, same⟩ := List.mem_map.1 h
  obtain ⟨rfl, named⟩ := Prod.mk.inj same
  by_cases wildcard : item'.isWildcard = true
  · simp [wildcard] at named
  · exact Bool.eq_false_iff.2 wildcard

theorem project_failsOnly (valid : p.Valid b.scope) (r : Record) :
    FailsOnly Unreported (project b.scope p.select r) := by
  refine FailsOnly.bind (FailsOnly.bind (.foldlM _ ?_) fun _ _ => .ok _) fun _ _ => .ok _
  rintro ⟨item, name⟩ h fields
  cases name with
  | none => exact .ok _
  | some name =>
      have plain := isWildcard_of_outputName h
      have located := valid.select item (List.of_mem_zip h).1 plain
      exact (located.resolve_failsOnly r).bind fun _ _ => .ok _

theorem applySelect_failsOnly (valid : p.Valid b.scope) (records : List Record) :
    FailsOnly Unreported (p.applySelect b.scope records) :=
  .mapM fun r _ => project_failsOnly valid r

theorem compareKeys_failsOnly (xs ys : List Value) (keys : List OrderKey) :
    FailsOnly (fun e => e.isTypeMismatch = true) (compareKeys xs ys keys) := by
  induction xs generalizing ys keys with
  | nil => exact .ok _
  | cons x xs ih =>
      rcases ys with _ | ⟨y, ys⟩
      · exact .ok _
      rcases keys with _ | ⟨key, keys⟩
      · exact .ok _
      simp only [compareKeys]
      split
      · exact ih ys keys
      · exact .ok _
      · exact .ok _
      · split
        · exact .error rfl
        · exact ih ys keys
        · exact .ok _

/-- A sort key that cannot be located is read from the output. -/
theorem keyValue_failsOnly (valid : p.Valid b.scope) {key : OrderKey} (h : key ∈ p.orderBy)
    (row : Projected) :
    FailsOnly Unreported
      ((Sorting.mk p.orderBy b.scope ((outputNames p.select).filterMap id)).keyValue row key) := by
  unfold Sorting.keyValue
  split
  · exact .ok _
  · rename_i source
    rcases valid.orderBy key h with located | ⟨e, unlocated, may, named⟩
    · exact located.resolve_failsOnly row.source
    · have unknown := Scope.knownInSource_of_unlocated
        (s := ⟨p.orderBy, b.scope, (outputNames p.select).filterMap id⟩) unlocated
      refine absurd ?_ source
      rw [Sorting.readsOutput, unknown]
      simpa using named

theorem applyOrderBy_failsOnly (valid : p.Valid b.scope) (rows : List Projected) :
    FailsOnly (fun e => Unreported e ∨ e.isTypeMismatch = true) (p.applyOrderBy b.scope rows) := by
  unfold applyOrderBy
  split
  · exact .ok _
  · refine FailsOnly.bind (.mapM fun row _ => ?_) fun decorated _ => ?_
    · refine FailsOnly.bind (.mapM fun key hkey => ?_) fun _ _ => .ok _
      exact (keyValue_failsOnly valid hkey row).mono fun _ => .inl
    · refine FailsOnly.bind ?_ fun _ _ => .ok _
      refine StableSort.sortBy_failsOnly (fun x y => ?_) decorated
      refine FailsOnly.bind ?_ fun _ _ => .ok _
      exact (compareKeys_failsOnly x.1 y.1 p.orderBy).mono fun _ => .inr

theorem applyLimit_failsOnly (valid : p.Valid b.scope) (rows : List Projected) :
    FailsOnly Unreported (p.applyLimit rows) := by
  obtain ⟨limit, hlimit⟩ := rowLimit_eq_ok valid
  unfold applyLimit
  cases p.limitsEarly with
  | true => exact .ok _
  | false =>
      refine FailsOnly.bind (.of_eq_ok hlimit) fun limit' _ => ?_
      cases limit' with
      | none => exact .ok _
      | some n => exact limitRows_failsOnly n rows

end Plan

end DocQuery
