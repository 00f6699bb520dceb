/-
Module: DocQuery.Proofs.Explanation
Purpose: The lines of an explained plan, and when there are none.
Main exports: explained, Plan.clauseTexts, Plan.comparedFields, Plan.joinTexts, Plan.outline,
  Step.lines_wrap, Step.lines_joined, Plan.steps_eq, Plan.explain_outline
-/
import DocQuery.Proofs.Stages
import DocQuery.Proofs.Validation
import DocQuery.Query.Explain
import Mathlib.Data.List.Induction

namespace DocQuery

open Outcome

/-! ### The steps of a plan in their order

The text that is expected, written down as a flat list of lines with their depths, without the tree
of steps that the program builds. -/

/-- A step so many levels deep as a line: two blanks for each level, then the step. -/
def explained (level : Nat) (text : String) : String :=
  String.ofList (List.replicate (2 * level) ' ') ++ text

/-- Taking columns as a step. -/
def projectText (items : List SelectItem) : String :=
  "Project(" ++ ", ".intercalate (items.map SelectItem.text) ++ ")"

/-- Sorting as a step. -/
def orderText (keys : List OrderKey) : String :=
  "OrderBy(" ++ ", ".intercalate (keys.map OrderKey.text) ++ ")"

/-- A condition as a step. -/
def filterText (c : Condition) : String :=
  "Filter(" ++ c.text ++ ")"

/-- A join on two fields as a step. -/
def joinText (j : Join) (fields : String × String) : String :=
  "HashJoin(" ++ j.kind.text ++ ", " ++ fields.1 ++ " = " ++ fields.2 ++ ")"

namespace Plan

/-- The steps above the joins, from the last one down.  The row limit stands above the sorting where
there is one, else below the columns. -/
def clauseTexts (p : Plan) (limit : Option Nat) : List String :=
  let counted := (limit.map limitText).toList
  let selected := projectText p.select
  (if p.orderBy.isEmpty then selected :: counted
    else counted ++ [orderText p.orderBy, selected]) ++ (p.condition.map filterText).toList

/-- The two fields that each join compares. -/
def comparedFields (p : Plan) (scope : Scope) : Except QueryError (List (String × String)) :=
  p.joins.zipIdx.mapM fun (j, position) =>
    joinFields (p.joinScope scope position) j.aliasName j.on

/-- The joins as steps, in clause order. -/
def joinTexts (p : Plan) (fields : List (String × String)) : List String :=
  p.joins.zipWith joinText fields

/-- The steps of a plan, one a line.  From the last step down to the scan of the first table each
takes its records from the next one and stands a level above it.  The scans of the joined tables
follow in clause order, each a level below its own join. -/
def outline (p : Plan) (b : Bound) (fields : List (String × String)) (limit : Option Nat) :
    List String :=
  let above := p.clauseTexts limit
  (above ++ (p.joinTexts fields).reverse ++ (p.unnests.map Unnest.stepText).reverse ++
      [b.first.scanText]).mapIdx explained ++
    b.joined.mapIdx fun i t => explained (above.length + (p.joins.length - 1 - i) + 1) t.scanText

end Plan

/-! ### The lines of a step

A step has its inputs below it, each a level deeper.  Steps with one input make a staircase, and a
chain of joins makes one with a scan on the way back for each. -/

namespace Step

/-- A join of a step with the scan of a table, both as texts. -/
def join (s : Step) (texts : String × String) : Step :=
  .mk texts.1 [s, .mk texts.2 []]

theorem lines_mk (level : Nat) (text : String) (inputs : List Step) :
    (Step.mk text inputs).lines (2 * level) =
      explained level text :: linesOfAll (2 * (level + 1)) inputs := by
  rw [lines]
  rfl

theorem lines_leaf (level : Nat) (text : String) :
    (Step.mk text []).lines (2 * level) = [explained level text] := by
  rw [lines_mk, linesOfAll]

theorem mapIdx_map {α β γ : Type} (f : Nat → β → γ) (g : α → β) (xs : List α) :
    (xs.map g).mapIdx f = xs.mapIdx fun i x => f i (g x) :=
  List.ext_getElem (by simp) (by simp)

/-- Steps that take their records from one another stand each a level above the next. -/
theorem lines_wrap (texts : List String) (s : Step) (level : Nat) :
    (texts.foldr Plan.wrap s).lines (2 * level) =
      texts.mapIdx (fun k text => explained (level + k) text) ++
        s.lines (2 * (level + texts.length)) := by
  induction texts generalizing level with
  | nil => simp
  | cons text texts ih =>
      have deeper (k : Nat) : level + 1 + k = level + (k + 1) := by omega
      rw [List.foldr_cons, Plan.wrap, lines_mk, linesOfAll, linesOfAll, List.append_nil, ih]
      simp [List.mapIdx_cons, deeper]

/-- Joins, the last one at the top: first the joins down to the first one, then what they started
from, then the scans of the joined tables. -/
theorem lines_joined (joins : List (String × String)) (s : Step) (level : Nat) :
    (joins.foldl join s).lines (2 * level) =
      joins.reverse.mapIdx (fun k texts => explained (level + k) texts.1) ++
        s.lines (2 * (level + joins.length)) ++
        joins.mapIdx fun i texts => explained (level + (joins.length - 1 - i) + 1) texts.2 := by
  -- The last join is the topmost step, so the induction takes joins away from the end.
  induction joins using List.reverseRecOn generalizing level with
  | nil => simp
  | append_singleton joins last ih =>
      have deeper (k : Nat) : level + 1 + k = level + (k + 1) := by omega
      have scans : (joins.mapIdx fun i texts =>
            explained (level + 1 + (joins.length - 1 - i) + 1) texts.2) =
          joins.mapIdx fun i texts => explained (level + (joins.length - i) + 1) texts.2 := by
        refine List.mapIdx_eq_mapIdx_iff.2 fun i within => ?_
        have level' : level + 1 + (joins.length - 1 - i) = level + (joins.length - i) := by omega
        rw [level']
      rw [List.foldl_append, List.foldl_cons, List.foldl_nil, join, lines_mk, linesOfAll,
        linesOfAll, linesOfAll, lines_leaf, ih, scans]
      simp [List.mapIdx_cons, List.mapIdx_append, deeper]

end Step

/-! ### The steps of a plan that was found valid

Binding and validating a plan succeed before its steps are built, so that building them cannot fail
again.  The joins are built by a fold; the induction is on the joins, over any step below them. -/

theorem checkLimit_eq_ok {v : Value} {n : Nat} : checkLimit v = .ok n ↔ v = .int n := by
  constructor
  · intro h
    unfold checkLimit at h
    split at h
    · rename_i i
      split at h
      · cases h
      · rename_i nonneg
        cases h
        rw [Value.int, Int.toNat_of_nonneg (Int.not_lt.1 nonneg)]
    · cases h
  · rintro rfl
    simp [checkLimit, Value.int]

namespace Plan

variable {p : Plan} {b : Bound}

theorem rowLimit_spec {limit : Option Nat} (h : p.rowLimit = .ok limit) :
    p.limit = limit.map fun n : Nat => .int n := by
  unfold rowLimit at h
  cases given : p.limit with
  | none =>
      rw [given] at h
      cases h
      rfl
  | some v =>
      rw [given, Option.mapM_some] at h
      obtain ⟨n, counts, rfl⟩ := map_eq_ok.1 h
      rw [checkLimit_eq_ok.1 counts]
      rfl

theorem comparedFields_eq_ok (valid : p.Valid b.scope) :
    ∃ fields, p.comparedFields b.scope = .ok fields := by
  refine exists_mapM_eq_ok ?_
  rintro ⟨j, i⟩ mem
  exact valid.joins i j (List.mem_zipIdx_iff_getElem?.1 mem)

theorem length_comparedFields {scope : Scope} {fields : List (String × String)}
    (h : p.comparedFields scope = .ok fields) : fields.length = p.joins.length := by
  rw [← (mapM_eq_ok_iff.1 h).length_eq, List.length_zipIdx]

/-- Joins as steps on top of a step, from a position on. -/
theorem foldlM_joinStep {scope : Scope} {js : List Join} {ts : List Table}
    {fields : List (String × String)} {position : Nat} (s : Step)
    (same : ts.length = js.length)
    (compared : ((js.zipIdx position).mapM fun (j, i) =>
      joinFields (p.joinScope scope i) j.aliasName j.on) = .ok fields) :
    (((js.zip ts).zipIdx position).foldlM
      (fun s ((j, t), i) => do
        let (left, right) ← joinFields (p.joinScope scope i) j.aliasName j.on
        let text := "HashJoin(" ++ j.kind.text ++ ", " ++ left ++ " = " ++ right ++ ")"
        return Step.mk text [s, .mk t.scanText []]) s : Except QueryError Step) =
      .ok (((js.zipWith joinText fields).zip (ts.map Table.scanText)).foldl Step.join s) := by
  induction js generalizing ts fields position s with
  | nil => rfl
  | cons j js ih =>
      obtain ⟨t, ts, rfl⟩ := List.exists_cons_of_length_eq_add_one same
      rw [List.zipIdx_cons, mapM_eq_ok_iff] at compared
      obtain _ | ⟨first, rest⟩ := compared
      have located : joinFields (p.joinScope scope position) j.aliasName j.on = .ok _ := first
      rw [List.zip_cons_cons, List.zipIdx_cons, List.foldlM_cons]
      simp only [located, ok_bind]
      exact ih _ (Nat.succ.inj same) (mapM_eq_ok_iff.2 rest)

/-- The steps of a plan: what stands above the joins, the joins, and below them the unnested arrays
and the first table. -/
theorem steps_eq {fields : List (String × String)} {limit : Option Nat}
    (same : b.joined.length = p.joins.length)
    (compared : p.comparedFields b.scope = .ok fields) (counted : p.rowLimit = .ok limit) :
    p.steps b = .ok ((p.clauseTexts limit).foldr wrap
      (((p.joinTexts fields).zip (b.joined.map Table.scanText)).foldl Step.join
        ((p.unnests.map Unnest.stepText).reverse.foldr wrap (.mk b.first.scanText [])))) := by
  have joined := foldlM_joinStep
    ((p.unnests.map Unnest.stepText).reverse.foldr wrap (.mk b.first.scanText [])) same compared
  have unnested : p.unnests.foldl (fun s u => wrap u.stepText s) (.mk b.first.scanText []) =
      (p.unnests.map Unnest.stepText).reverse.foldr wrap (.mk b.first.scanText []) := by
    rw [List.foldr_reverse, List.foldl_map]
  rw [steps, joinSteps, unnested, joined, counted, joinTexts]
  generalize List.foldl Step.join _ _ = s
  simp only [ok_bind, clauseTexts, limitsEarly]
  by_cases unordered : p.orderBy.isEmpty = true
  · simp only [unordered, if_true, Bool.true_eq_false, if_false]
    cases limit <;> cases p.condition <;> rfl
  · simp only [unordered, Bool.false_eq_true, if_true, if_false]
    cases limit <;> cases p.condition <;> rfl

/-- The lines of the steps of a plan. -/
theorem lines_steps {fields : List (String × String)} {limit : Option Nat} {s : Step}
    (same : b.joined.length = p.joins.length)
    (compared : p.comparedFields b.scope = .ok fields) (counted : p.rowLimit = .ok limit)
    (h : p.steps b = .ok s) : s.lines 0 = p.outline b fields limit := by
  rw [steps_eq same compared counted] at h
  cases h
  have number : (p.joinTexts fields).length = b.joined.length := by
    rw [joinTexts, List.length_zipWith, length_comparedFields compared, same, Nat.min_self]
  generalize zipped : (p.joinTexts fields).zip (b.joined.map Table.scanText) = steps
  have joins : p.joinTexts fields = steps.map Prod.fst := by
    rw [← zipped, List.map_fst_zip (by simp [number])]
  have scans : b.joined.map Table.scanText = steps.map Prod.snd := by
    rw [← zipped, List.map_snd_zip (by simp [number])]
  have total : steps.length = p.joins.length := by
    have count := congrArg List.length scans
    rw [List.length_map, List.length_map] at count
    rw [← count, same]
  have below (f : Nat → String → String) : (b.joined.mapIdx fun i t => f i t.scanText) =
      steps.mapIdx fun i texts => f i texts.2 := by
    have mapped := congrArg (List.mapIdx f) scans
    rwa [Step.mapIdx_map, Step.mapIdx_map] at mapped
  rw [Step.lines_wrap _ _ 0, Step.lines_joined, Step.lines_wrap, Step.lines_leaf, outline, joins,
    below fun i text => explained ((p.clauseTexts limit).length + (p.joins.length - 1 - i) + 1) text]
  simp [List.mapIdx_append, Step.mapIdx_map, ← List.map_reverse, total, Nat.add_assoc,
    Nat.add_comm, Nat.add_left_comm]

/-! ### All plans

Explaining goes the way of the first stage of a run and then stops.  The two can only fail together.
-/

/-- The tables that a plan is bound to are those at hand under its aliases. -/
theorem found_of_bind {tables : Tables} (h : p.bind tables = .ok b) :
    List.Forall₂ (fun ref t => Keyed.get? ref.effectiveAlias tables = some t) p.tables
      (b.first :: b.joined) := by
  obtain ⟨ts, looked, h⟩ := bind_eq_ok.1 h
  cases ts with
  | nil => cases h
  | cons first joined =>
      obtain ⟨scope, _, h⟩ := bind_eq_ok.1 h
      cases h
      exact (lookUpTables_spec looked).1

theorem length_joined {tables : Tables} (h : p.bind tables = .ok b) :
    b.joined.length = p.joins.length := by
  have same := (found_of_bind h).length_eq
  rw [Plan.tables, List.length_cons, List.length_cons, List.length_map] at same
  exact (Nat.succ.inj same).symm

/-- A run ends in its first stage exactly if that stage fails. -/
theorem ends_binding_iff (p : Plan) (tables : Tables) (e : QueryError) :
    (p.run tables).outcome = .error e ∧ (p.run tables).trace.visited = [.stage .bindTables] ↔
      p.step tables .bindTables .nothing = .error e := by
  obtain ⟨visited, outcome, -⟩ := p.run_eq_progress tables
  rw [visited, outcome]
  cases stepped : p.step tables .bindTables .nothing with
  | error e' => simp [Stage.order, progress, stepped, visits, Functor.map, Except.map]
  | ok held =>
      -- The next stage is entered, whether it fails or not.
      cases joined : p.step tables .applyJoins held with
      | error e' => simp [Stage.order, progress, stepped, joined, visits]
      | ok held' => simp [Stage.order, progress, stepped, joined, visits]

/-- A plan that is bound and valid is explained; one that is not fails as its first stage does. -/
theorem explain_cases (p : Plan) (tables : Tables) :
    (∃ e, p.step tables .bindTables .nothing = .error e ∧ p.explain tables = .error e) ∨
    ∃ b fields limit, p.step tables .bindTables .nothing = .ok (.tables b) ∧
      p.bind tables = .ok b ∧ p.comparedFields b.scope = .ok fields ∧ p.rowLimit = .ok limit ∧
      p.explain tables =
        .ok (["Query Plan:", String.ofList (List.replicate 40 '=')] ++ p.outline b fields limit) := by
  rw [explain, step]
  cases bound : p.bind tables with
  | error e => exact .inl ⟨e, rfl, rfl⟩
  | ok b =>
      cases checked : p.validate b.scope with
      | error e => exact .inl ⟨e, by simp [checked], by simp [checked]⟩
      | ok _ =>
          have valid := validate_sound checked
          obtain ⟨fields, compared⟩ := comparedFields_eq_ok valid
          obtain ⟨limit, counted⟩ := rowLimit_eq_ok valid
          have same := length_joined bound
          have built := steps_eq same compared counted
          refine .inr ⟨b, fields, limit, by simp [checked], rfl, compared, counted, ?_⟩
          simp only [ok_bind, checked, built, pure_eq_ok]
          rw [lines_steps same compared counted built]

/-- Explaining a plan fails exactly where its run ends while the tables are bound, and with the same
error.  Otherwise its lines are the outline of the plan on the tables found, with the fields that
its joins compare and its row limit. -/
theorem explain_outline (p : Plan) (tables : Tables) :
    (∀ e, p.explain tables = .error e ↔
      (p.run tables).outcome = .error e ∧
        (p.run tables).trace.visited = [.stage .bindTables]) ∧
    ∀ lines, p.explain tables = .ok lines → ∃ b fields limit,
      List.Forall₂ (fun ref t => Keyed.get? ref.effectiveAlias tables = some t) p.tables
        (b.first :: b.joined) ∧
      p.bind tables = .ok b ∧ p.comparedFields b.scope = .ok fields ∧
      p.limit = limit.map (fun n : Nat => .int n) ∧
      lines =
        ["Query Plan:", String.ofList (List.replicate 40 '=')] ++ p.outline b fields limit := by
  simp only [ends_binding_iff]
  rcases p.explain_cases tables with
    ⟨e, failed, none'⟩ | ⟨b, fields, limit, stepped, bound, compared, counted, explained⟩
  · rw [failed, none']
    exact ⟨fun _ => by simp, nofun⟩
  · rw [stepped, explained]
    refine ⟨fun _ => by simp, fun lines given => ?_⟩
    cases given
    exact ⟨b, fields, limit, found_of_bind bound, bound, compared, rowLimit_spec counted, rfl⟩

/-- Sorted, the rows are counted last, above the sorting; not sorted, they are counted before their
columns are taken.  A scan stands below the join that reads it, here beside the unnested array. -/
example :
    let sorted : Plan := { Sample.plan with
      unnests := [⟨"o.tags", "tag", "value"⟩]
      orderBy := [⟨"label", .descending⟩, ⟨"item", .ascending⟩]
      limit := some (.int 2) }
    let unsorted : Plan := { sorted with
      orderBy := []
      joins := []
      condition := none
      select := [⟨"tag.value", none⟩] }
    (sorted.explain Sample.bindings.tables).toOption =
        some ["Query Plan:", "========================================",
          "Limit(2)", "  OrderBy(label DESC, item ASC)", "    Project(p.name AS label, item)",
          "      Filter(o.item >= 1)", "        HashJoin(LEFT, o.item = p.id)",
          "          Unnest(o.tags AS tag.value)", "            Scan(orders AS o)",
          "          Scan(products AS p)"] ∧
      (unsorted.explain Sample.bindings.tables).toOption =
        some ["Query Plan:", "========================================",
          "Project(tag.value)", "  Limit(2)", "    Unnest(o.tags AS tag.value)",
          "      Scan(orders AS o)"] :=
  ⟨rfl, rfl⟩

end Plan

end DocQuery
