/-
Module: DocQuery.Proofs.ParsedPlan
Purpose: The plans that texts write, and what running one of them never fails with.
Main exports: Condition.WellFormed, Plan.WellFormed, QueryError.isUnsupportedOperator,
  QueryError.isInvalidLimit, Sql.QueryTree.plan_wellFormed, Plan.execute_permits, Sql.parse_outcome
-/
import DocQuery.Proofs.NestingDepth
import DocQuery.Proofs.QueryGrammar
import DocQuery.Proofs.RunOutcome

namespace DocQuery

open Outcome

/-! ### Plans as a text can write them

The well-formedness that the grammar guarantees, as an inductive property of conditions and a
structure for plans. -/

/-- A condition all of whose parts can be carried out: its comparisons are the six known ones, what
AND and OR join is joined to something, and lists have values, none of which has parts. -/
inductive Condition.WellFormed : Condition → Prop where
  | compare (left right : Operand) {c : Comparator} (known : c.isSupported = true) :
      WellFormed (.compare left c right)
  | and {children : List Condition} (several : 2 ≤ children.length)
      (each : ∀ c ∈ children, WellFormed c) : WellFormed (.and children)
  | or {children : List Condition} (several : 2 ≤ children.length)
      (each : ∀ c ∈ children, WellFormed c) : WellFormed (.or children)
  | not {child : Condition} (inner : WellFormed child) : WellFormed (.not child)
  | isNull (operand : Operand) (negated : Bool) : WellFormed (.isNull operand negated)
  | inList (operand : Operand) {values : List Value} (negated : Bool) (some' : values ≠ [])
      (scalars : ∀ v ∈ values, v.type.isScalar = true) :
      WellFormed (.inList operand values negated)
  | like (operand : Operand) (pattern : String) (ignoreCase negated : Bool) :
      WellFormed (.like operand pattern ignoreCase negated)

/-- A plan as a text can write it: it selects something, a name that ends in an asterisk has no
alias, all its conditions can be carried out, and its row limit is a count. -/
structure Plan.WellFormed (p : Plan) : Prop where
  select : p.select ≠ []
  unnamed : ∀ item ∈ p.select, item.source.toList.getLast? = some '*' → item.aliasName = none
  joins : ∀ j ∈ p.joins, j.on.WellFormed
  condition : ∀ c, p.condition = some c → c.WellFormed
  limit : ∀ v, p.limit = some v → ∃ n : Nat, v = .int n

/-! ### What derivation trees stand for

By recursion on the trees.  A chain with an operator has at least two parts, and those are
conditions of the next kind down. -/

namespace Sql

theorem Commas.values_ne_nil {T α : Type} (value : T → α) (ts : Commas T) :
    ts.values value ≠ [] := by
  cases ts <;> exact List.cons_ne_nil _ _

theorem Commas.exists_of_mem_values {T α : Type} {value : T → α} {ts : Commas T} {a : α}
    (h : a ∈ ts.values value) : ∃ t, value t = a := by
  induction ts with
  | last t => exact ⟨t, (List.mem_singleton.1 h).symm⟩
  | more t rest ih =>
      rcases List.mem_cons.1 h with rfl | later
      · exact ⟨t, rfl⟩
      · exact ih later

theorem LiteralTree.isScalar_value (t : LiteralTree) : t.value.type.isScalar = Bool.true := by
  cases t <;> rfl

theorem OpTree.isSupported_comparator (t : OpTree) : t.comparator.isSupported = true := by
  cases t <;> rfl

theorem CountTree.exists_value (t : CountTree) : ∃ n : Nat, t.value = .int n := by
  obtain ⟨n, hn⟩ := Int.eq_ofNat_of_zero_le t.nonneg
  exact ⟨n, congrArg Value.int hn⟩

theorem PredicateTree.condition_wellFormed (t : PredicateTree) : t.condition.WellFormed := by
  cases t with
  | isNull operand isWord notWord nullWord => exact .isNull _ _
  | inList operand notWord inWord values =>
      refine .inList _ _ (values.values_ne_nil _) fun v hv => ?_
      obtain ⟨literal, rfl⟩ := Commas.exists_of_mem_values hv
      exact literal.isScalar_value
  | like operand notWord likeWord mark pattern => exact .like _ _ _ _
  | ilike operand notWord likeWord mark pattern => exact .like _ _ _ _
  | compare left op right => exact .compare _ _ op.isSupported_comparator

theorem OrTree.parts_ne_nil (t : OrTree) : t.parts ≠ [] := by
  cases t <;> simp [parts]

theorem AndTree.parts_ne_nil (t : AndTree) : t.parts ≠ [] := by
  cases t <;> simp [parts]

/-- A part in front of others makes two at least. -/
theorem two_le_length_cons {α : Type} {x : α} {xs : List α} (some' : xs ≠ []) :
    2 ≤ (x :: xs).length :=
  Nat.succ_le_succ (List.length_pos_of_ne_nil some')

mutual

theorem OrTree.condition_wellFormed : ∀ t : OrTree, t.condition.WellFormed
  | .single t => t.condition_wellFormed
  | .or t _ rest =>
      .or (two_le_length_cons rest.parts_ne_nil)
        (List.forall_mem_cons.2 ⟨t.condition_wellFormed, rest.parts_wellFormed⟩)

theorem OrTree.parts_wellFormed : ∀ t : OrTree, ∀ c ∈ t.parts, c.WellFormed
  | .single t => List.forall_mem_singleton.2 t.condition_wellFormed
  | .or t _ rest => List.forall_mem_cons.2 ⟨t.condition_wellFormed, rest.parts_wellFormed⟩

theorem AndTree.condition_wellFormed : ∀ t : AndTree, t.condition.WellFormed
  | .single t => t.condition_wellFormed
  | .and t _ rest =>
      .and (two_le_length_cons rest.parts_ne_nil)
        (List.forall_mem_cons.2 ⟨t.condition_wellFormed, rest.parts_wellFormed⟩)

theorem AndTree.parts_wellFormed : ∀ t : AndTree, ∀ c ∈ t.parts, c.WellFormed
  | .single t => List.forall_mem_singleton.2 t.condition_wellFormed
  | .and t _ rest => List.forall_mem_cons.2 ⟨t.condition_wellFormed, rest.parts_wellFormed⟩

theorem NotTree.condition_wellFormed : ∀ t : NotTree, t.condition.WellFormed
  | .not _ t => .not t.condition_wellFormed
  | .parens t => t.condition_wellFormed
  | .predicate t => t.condition_wellFormed

end

/-- Whatever the grammar derives is well-formed. -/
theorem QueryTree.plan_wellFormed (t : QueryTree) : t.plan.WellFormed := by
  constructor
  case select => exact t.items.values_ne_nil _
  case unnamed =>
    intro item mem asterisk
    obtain ⟨item, rfl⟩ := Commas.exists_of_mem_values mem
    rw [ItemTree.value, item.unnamed asterisk]
    rfl
  case joins =>
    intro j mem
    obtain ⟨join, _, rfl⟩ := List.mem_map.1 mem
    exact join.condition.condition_wellFormed
  case condition =>
    intro c given
    obtain ⟨clause, _, rfl⟩ := Option.map_eq_some_iff.1 given
    exact clause.body.condition_wellFormed
  case limit =>
    intro v given
    rcases Option.or_eq_some_iff.1 given with top | ⟨_, last⟩
    · obtain ⟨clause, _, rfl⟩ := Option.map_eq_some_iff.1 top
      exact clause.body.exists_value
    · obtain ⟨clause, _, rfl⟩ := Option.map_eq_some_iff.1 last
      exact clause.body.exists_value

theorem parse_wellFormed {sql : String} {p : Plan} (h : parse sql = .ok p) : p.WellFormed := by
  obtain ⟨ts, _, parsed⟩ := bind_eq_ok.1 h
  obtain ⟨c, read, _⟩ := parseTokens_eq_ok_iff.1 parsed
  obtain ⟨t, rfl, _⟩ := query_sound read
  exact t.plan_wellFormed

end Sql

/-! ### What such a plan never fails with

The two errors are raised in few places.  Everything else that a run does is shown to permit only
other errors, function by function. -/

namespace QueryError

/-- The error that a condition cannot be carried out. -/
def isUnsupportedOperator : QueryError → Bool
  | .comparator .. | .conditionKind .. => true
  | _ => false

/-- The error that a row limit is no count. -/
def isInvalidLimit : QueryError → Bool
  | .limitNotInteger _ | .limitNegative _ => true
  | _ => false

/-- An error that a plan which a text writes may still end with: both its conditions and its limit
are such as can be carried out. -/
def Permitted (e : QueryError) : Prop :=
  e.isUnsupportedOperator = false ∧ e.isInvalidLimit = false

end QueryError

open QueryError

theorem Scope.locate_permits (scope : Scope) (clause ref : String) :
    FailsOnly Permitted (scope.locate clause ref) := by
  have means := scope.locate_meaning clause ref
  intro e failed
  rw [failed] at means
  cases means <;> exact ⟨rfl, rfl⟩

theorem Scope.checkRefs_permits (scope : Scope) (clause : String) (refs : List String) :
    FailsOnly Permitted (scope.checkRefs clause refs) := by
  induction refs with
  | nil => exact .ok ()
  | cons ref refs ih => exact (scope.locate_permits clause ref).bind fun _ _ => ih

theorem joinFields_permits (scope : Scope) (aliasName : String) (on : Condition) :
    FailsOnly Permitted (joinFields scope aliasName on) := by
  unfold joinFields
  split
  · refine (scope.locate_permits _ _).bind fun first _ => ?_
    refine (scope.locate_permits _ _).bind fun second _ => ?_
    simp only
    split
    · exact .ok _
    · exact .ok _
    · exact .ok _
    · exact .error ⟨rfl, rfl⟩
  · exact .error ⟨rfl, rfl⟩

namespace Condition

variable {scope : Scope} {clause : String}

theorem checkAll_permits {children : List Condition}
    (h : ∀ c ∈ children, FailsOnly Permitted (c.check scope clause)) :
    FailsOnly Permitted (checkAll scope clause children) := by
  induction children with
  | nil => exact .ok ()
  | cons c cs ih =>
      obtain ⟨first, rest⟩ := List.forall_mem_cons.1 h
      exact first.bind fun _ _ => ih rest

/-- A condition whose parts are all known is refused for its references only. -/
theorem WellFormed.check_permits {c : Condition} (h : c.WellFormed) :
    FailsOnly Permitted (c.check scope clause) := by
  induction h with
  | @compare left right comparator known =>
      cases comparator with
      | unsupported text => cases known
      | _ => exact scope.checkRefs_permits clause _
  | and _ _ ih => exact checkAll_permits ih
  | or _ _ ih => exact checkAll_permits ih
  | not _ ih => exact ih
  | isNull operand negated => exact scope.checkRefs_permits clause _
  | inList operand negated => exact scope.checkRefs_permits clause _
  | like operand pattern ignoreCase negated => exact scope.checkRefs_permits clause _

end Condition

namespace Plan

variable {p : Plan}

theorem lookUpTables_permits (tables : Tables) (clause : String) (seen : List String)
    (refs : List TableRef) : FailsOnly Permitted (lookUpTables tables clause seen refs) := by
  induction refs generalizing clause seen with
  | nil => exact .ok []
  | cons ref refs ih =>
      rw [lookUpTables]
      split
      · exact .error ⟨rfl, rfl⟩
      · split
        · exact .error ⟨rfl, rfl⟩
        · exact (ih _ _).bind fun _ _ => .ok _

theorem bindUnnests_permits (aliases : List String) (scope : Scope) (us : List Unnest) :
    FailsOnly Permitted (bindUnnests aliases scope us) := by
  induction us generalizing scope with
  | nil => exact .ok scope
  | cons u us ih =>
      rw [bindUnnests]
      split
      · exact .error ⟨rfl, rfl⟩
      · exact (scope.locate_permits _ _).bind fun _ _ => ih _

theorem bind_permits (p : Plan) (tables : Tables) : FailsOnly Permitted (p.bind tables) := by
  refine (lookUpTables_permits tables _ _ _).bind fun ts _ => ?_
  cases ts with
  | nil => exact .error ⟨rfl, rfl⟩
  | cons first joined => exact (bindUnnests_permits _ _ _).bind fun _ _ => .ok _

theorem checkSelect_permits (p : Plan) (scope : Scope) :
    FailsOnly Permitted (p.checkSelect scope) := by
  refine .forM fun item _ => ?_
  split
  · split
    · split
      · exact .ok ()
      · exact .error ⟨rfl, rfl⟩
    · exact .ok ()
  · exact (scope.locate_permits _ _).map _

theorem checkOrderBy_permits (p : Plan) (scope : Scope) :
    FailsOnly Permitted (p.checkOrderBy scope) := by
  refine .forM fun key _ => ?_
  have located := scope.locate_permits "ORDER BY" key.field
  split
  · exact .ok ()
  · rename_i e failed
    split
    · exact .ok ()
    · exact .error (located e failed)

/-- The check of a well-formed plan finds nothing wrong with its conditions and its limit as
such. -/
theorem WellFormed.validate_permits (h : p.WellFormed) (scope : Scope) :
    FailsOnly Permitted (p.validate scope) := by
  have joins : FailsOnly Permitted (p.checkJoins scope) :=
    .forM fun _ _ => (joinFields_permits _ _ _).map _
  have condition : FailsOnly Permitted (p.condition.forM (Condition.check scope "WHERE")) := by
    cases given : p.condition with
    | none => exact .ok ()
    | some c => exact (h.condition c given).check_permits
  have limit : FailsOnly Permitted (p.limit.forM fun v => discard (checkLimit v)) := by
    cases given : p.limit with
    | none => exact .ok ()
    | some v =>
        obtain ⟨n, rfl⟩ := h.limit v given
        have counts : checkLimit (.int n) = .ok n := by
          simp [checkLimit, Value.int]
        exact (FailsOnly.of_eq_ok counts).map _
  refine joins.bind fun _ _ => condition.bind fun _ _ => ?_
  exact (p.checkSelect_permits scope).bind fun _ _ =>
    (p.checkOrderBy_permits scope).bind fun _ _ => limit

/-- However far a well-formed plan gets, it is never stopped because a condition cannot be carried
out or because its limit is no count. -/
theorem WellFormed.execute_permits (h : p.WellFormed) (given : Bindings) :
    FailsOnly Permitted (p.execute given.tables) := by
  intro e failed
  obtain ⟨_, outcome, -⟩ := p.run_eq_progress given.tables
  rcases p.progress_cases given.tables Stage.order .nothing with
    ⟨held, all, _⟩ | ⟨before, s, after, held, e', _, reached, failed', stopped⟩
  · rw [execute_eq_outcome, outcome, all] at failed
    cases failed
  · rw [execute_eq_outcome, outcome, stopped] at failed
    cases failed
    by_cases first : s = .bindTables
    · subst first
      refine FailsOnly.bind (p.bind_permits _) (fun b _ => ?_) e failed'
      exact (h.validate_permits _).bind fun _ _ => .ok _
    · have later := step_failsOnly given.wellNamed (reach_sound reached) first e failed'
      cases e with
      | comparator | conditionKind | limitNotInteger | limitNegative =>
          rcases later with silent | ⟨_, mismatch⟩
          · cases silent
          · cases mismatch
      | _ => exact ⟨rfl, rfl⟩

end Plan

/-! ### All texts

A text is parsed through its derivation, so that everything known of trees holds of the plan.  That
the bound on the depth of conditions refuses no text is known from the readers. -/

/-- A text writes a well-formed plan, or it is refused.  What refuses it is never the bound on the
depth of conditions that lets `negation` recurse: that bound, one more than there are tokens, is not
reached.  A plan that was read runs on all tables without an unknown operator or a row limit that is
no count. -/
theorem Sql.parse_outcome (sql : String) :
    (∃ p, parse sql = .ok p ∧ p.WellFormed ∧
      ∀ (given : Bindings) (e : QueryError), p.execute given.tables = .error e →
        e.isUnsupportedOperator = false ∧ e.isInvalidLimit = false) ∨
    ∃ e, parse sql = .error e ∧ e ≠ tooDeep := by
  cases parsed : parse sql with
  | ok p =>
      have wellFormed := parse_wellFormed parsed
      exact .inl ⟨p, rfl, wellFormed, fun given => wellFormed.execute_permits given⟩
  | error e => exact .inr ⟨e, rfl, parse_depth sql e parsed⟩

end DocQuery
