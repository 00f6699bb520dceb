/-
Module: DocQuery.Proofs.EnvironmentAnswer
Purpose: A run on composed records answers what the rows in scope say.
Main exports: Plan.search_record, Plan.applySelect_record, Plan.applyOrderBy_record,
  Plan.execute_eq_reference, Plan.wildcard_not_bare
-/
import DocQuery.Proofs.EnvironmentJoins

namespace DocQuery

open Outcome

namespace Plan

variable {p : Plan} {tables : Tables} {scope : Scope} {envs : List Env}

/-! ### The condition

A record stands for the rows in scope that it was composed of, so that it satisfies a condition if
they do.  A limit on the search counts what is found, in both readings. -/

/-- The rows in scope that a plan asks for. -/
def found (p : Plan) (scope : Scope) (envs : List Env) : List Env :=
  envs.filter fun e => p.condition.all fun c => c.holds (e.read scope)

/-- The search among composed records finds those of the rows in scope for which the condition
holds. -/
theorem search_record (fits : ∀ e ∈ envs, e.Fits scope.aliases) {limit : Option Nat}
    {out : List Record} (h : p.search scope limit (envs.map Env.record) = .ok out) :
    out = (match limit with
      | none => p.found scope envs
      | some n => (p.found scope envs).take n).map Env.record := by
  have agree (c : Condition) (e : Env) (he : e ∈ envs) (b : Bool)
      (hb : c.eval scope e.record = .ok b) : b = c.holds (e.read scope) :=
    Condition.holds_of_eval (fun _ _ => Env.resolve_record (fits e he)) c b hb
  unfold search at h
  unfold found
  cases condition : p.condition with
  | none =>
      rw [condition] at h
      have all : envs.filter (fun e => (none : Option Condition).all fun c =>
          c.holds (e.read scope)) = envs :=
        List.filter_eq_self.2 fun _ _ => rfl
      rw [all]
      cases limit with
      | none =>
          cases h
          rfl
      | some n =>
          simp only [limitRows] at h
          split at h
          · cases h
          · cases h
            rw [List.map_take]
  | some c =>
      rw [condition] at h
      cases limit with
      | none => exact eq_filter_of_filterAll (agree c) h
      | some n =>
          simp only at h
          split at h
          · cases h
          · exact eq_filter_of_filterFirst (agree c) h

/-! ### The select list -/

/-- The output of rows in scope with the record that is composed of them. -/
def projected (p : Plan) (scope : Scope) (e : Env) : Projected :=
  ⟨e.emit Env.wildcard scope p.select, e.record⟩

/-- The select list takes from a composed record what it takes from the rows in scope. -/
theorem projectRecord_record (valid : p.Valid scope) {e : Env} (fits : e.Fits scope.aliases)
    {output : Record} (h : projectRecord scope p.select e.record = .ok output) :
    output = e.emit Env.wildcard scope p.select := by
  obtain ⟨fields, folded, h⟩ := bind_eq_ok.1 h
  cases h
  have same := eq_foldl_of_foldlM folded (g := Env.emitItem Env.wildcard scope e) ?_
  · rw [same, Env.emit, e.aliasName_record]
  · rintro ⟨item, name⟩ hitem before after hx
    cases name with
    | none =>
        cases hx
        have mem := (List.of_mem_zip hitem).1
        rw [Env.wildcardFields_record fits.isolated fun a ha => valid.wildcards item a mem ha]
        rfl
    | some name =>
        obtain ⟨v, hv, hx⟩ := bind_eq_ok.1 hx
        cases hx
        rw [Env.resolve_record fits hv]
        rfl

theorem applySelect_record (valid : p.Valid scope) (fits : ∀ e ∈ envs, e.Fits scope.aliases)
    {rows : List Projected} (h : p.applySelect scope (envs.map Env.record) = .ok rows) :
    rows = envs.map (p.projected scope) := by
  rw [applySelect, List.mapM_map] at h
  refine eq_map_of_mapM h fun e he row hrow => ?_
  obtain ⟨output, houtput, hrow⟩ := bind_eq_ok.1 hrow
  cases hrow
  rw [projectRecord_record valid (fits e he) houtput]
  rfl

/-! ### Order

Sorting looks at the keys alone.  A record has the same keys as the rows in scope that it stands
for, so that both lists are put in order alike. -/

/-- A sort key is read from the output exactly if it is an output name that the rows in scope do not
have as a field of their own. -/
theorem readsOutput_iff (p : Plan) (scope : Scope) (ref : String) :
    (Sorting.mk p.orderBy scope ((outputNames p.select).filterMap id)).readsOutput ref = true ↔
      some ref ∈ outputNames p.select ∧ ¬ scope.Qualifies ref ∧
        (scope.owners (Scope.refHead ref)).length ≠ 1 := by
  rw [Sorting.readsOutput, Bool.and_eq_true, Bool.not_eq_true', Bool.eq_false_iff, ne_eq,
    Scope.knownInSource_iff, not_or, ← List.length_eq_one_iff]
  simp

theorem keyValue_record {e : Env} (fits : e.Fits scope.aliases) {key : OrderKey} {v : Value}
    (h : (Sorting.mk p.orderBy scope ((outputNames p.select).filterMap id)).keyValue
      (p.projected scope e) key = .ok v) :
    v = p.sortValue Env.wildcard scope e key := by
  unfold Sorting.keyValue at h
  unfold sortValue
  by_cases output : (Sorting.mk p.orderBy scope
      ((outputNames p.select).filterMap id)).readsOutput key.field = true
  · rw [if_pos output] at h
    rw [if_pos ((readsOutput_iff p scope key.field).1 output)]
    cases h
    rfl
  · rw [if_neg output] at h
    rw [if_neg (mt (readsOutput_iff p scope key.field).2 output)]
    exact Env.resolve_record fits h

/-- Rows are sorted as the rows in scope that they come from. -/
theorem applyOrderBy_record (fits : ∀ e ∈ envs, e.Fits scope.aliases)
    {rows : List Projected} (h : p.applyOrderBy scope (envs.map (p.projected scope)) = .ok rows) :
    ∃ keyed, p.sorted (envs.map fun e => (p.orderBy.map (p.sortValue Env.wildcard scope e), e)) =
        .ok keyed ∧
      rows = keyed.map fun row => p.projected scope row.2 := by
  unfold applyOrderBy at h
  unfold sorted
  by_cases unsorted : p.orderBy.isEmpty = true
  · rw [if_pos unsorted] at h ⊢
    cases h
    exact ⟨_, rfl, by rw [List.map_map]; rfl⟩
  · rw [if_neg unsorted] at h ⊢
    obtain ⟨decorated, read, h⟩ := bind_eq_ok.1 h
    obtain ⟨inOrder, sorted, h⟩ := bind_eq_ok.1 h
    cases h
    -- Sorting sees the keys alone, so that it commutes with what the rows are turned into.
    let output (row : List Value × Env) : List Value × Projected := (row.1, p.projected scope row.2)
    rw [List.mapM_map] at read
    have keys : decorated =
        (envs.map fun e => (p.orderBy.map (p.sortValue Env.wildcard scope e), e)).map output := by
      rw [List.map_map]
      refine eq_map_of_mapM read fun e he row hrow => ?_
      obtain ⟨values, hvalues, hrow⟩ := bind_eq_ok.1 hrow
      cases hrow
      have same := eq_map_of_mapM hvalues fun key _ v hv => keyValue_record (fits e he) hv
      rw [same]
      rfl
    have below (x y : List Value × Env) :
        (Sorting.mk p.orderBy scope ((outputNames p.select).filterMap id)).below
          (output x) (output y) = (· == .lt) <$> compareKeys x.1 y.1 p.orderBy := by
      rw [Sorting.below, map_eq_pure_bind]
    rw [keys, StableSort.sortBy_map below] at sorted
    obtain ⟨keyed, hkeyed, rfl⟩ := map_eq_ok.1 sorted
    exact ⟨keyed, hkeyed, by rw [List.map_map]; rfl⟩

/-! ### The answer

The run is taken apart at its stages, and each is replaced by what it does to rows in scope.  The
place of the limit is the one thing in which a run differs from the meaning, and both places are
shown to keep the same rows. -/

theorem firstRows_map {α β : Type} (p : Plan) (f : α → β) (rows : List α) :
    p.firstRows (rows.map f) = (p.firstRows rows).map f := by
  unfold firstRows
  split
  · rw [List.map_take]
  · rfl

theorem mem_of_mem_firstRows {α : Type} {rows : List α} {x : α} (h : x ∈ p.firstRows rows) :
    x ∈ rows := by
  unfold firstRows at h
  split at h
  · exact List.mem_of_mem_take h
  · exact h

/-- The limit of a plan keeps its first rows. -/
theorem applyLimit_eq_ok {rows first : List Projected} (late : p.limitsEarly = false)
    (h : p.applyLimit rows = .ok first) : first = p.firstRows rows := by
  rw [applyLimit, if_neg (by simp [late])] at h
  obtain ⟨limit, hlimit, h⟩ := bind_eq_ok.1 h
  rw [firstRows, hlimit]
  cases limit with
  | none =>
      cases h
      rfl
  | some n =>
      simp only [limitRows] at h
      split at h
      · cases h
      · cases h
        rfl

/-- An early limit keeps the first of the rows in scope that a plan asks for. -/
theorem applyWhere_record_of_early (early : p.limitsEarly = true)
    (fits : ∀ e ∈ envs, e.Fits scope.aliases) {out : List Record}
    (h : p.applyWhere scope (envs.map Env.record) = .ok out) :
    out = (p.firstRows (p.found scope envs)).map Env.record := by
  rw [applyWhere_eq, if_pos early] at h
  obtain ⟨limit, hlimit, h⟩ := bind_eq_ok.1 h
  rw [search_record fits h, firstRows, hlimit]
  cases limit <;> rfl

/-- With a late limit a plan goes on with all rows in scope that it asks for. -/
theorem applyWhere_record_of_late (late : p.limitsEarly = false)
    (fits : ∀ e ∈ envs, e.Fits scope.aliases) {out : List Record}
    (h : p.applyWhere scope (envs.map Env.record) = .ok out) :
    out = (p.found scope envs).map Env.record := by
  rw [applyWhere_eq, if_neg (by simp [late])] at h
  exact search_record fits h

theorem fits_found (fits : ∀ e ∈ envs, e.Fits scope.aliases) :
    ∀ e ∈ p.found scope envs, e.Fits scope.aliases :=
  fun e he => fits e (List.mem_filter.1 he).1

/-- A plan whose aliases are plain names answers what the rows in scope say. -/
theorem execute_eq_reference (p : Plan) (given : Bindings) (records : List Record)
    (plain : ∀ a ∈ p.boundAliases, IsPlain a) (h : p.execute given.tables = .ok records) :
    p.reference Env.wildcard given.tables = .ok records := by
  rw [execute_eq] at h
  obtain ⟨b, bound, h⟩ := bind_eq_ok.1 h
  obtain ⟨_, checked, h⟩ := bind_eq_ok.1 h
  obtain ⟨joined, joins, h⟩ := bind_eq_ok.1 h
  obtain ⟨kept, search, h⟩ := bind_eq_ok.1 h
  obtain ⟨rows, select, h⟩ := bind_eq_ok.1 h
  obtain ⟨inOrder, order, h⟩ := bind_eq_ok.1 h
  obtain ⟨first, limit, h⟩ := bind_eq_ok.1 h
  cases h
  have sound := bind_sound given.wellNamed bound
  have valid := validate_sound checked
  have aliases : b.scope.aliases = p.boundAliases := by
    rw [sound.aliases_eq, sound.first, sound.joined]
    rfl
  obtain ⟨rfl, fits⟩ := applyJoins_record sound (aliases ▸ plain) joins
  rw [reference, sound.fullScope_eq]
  -- The records joined are those of the rows in scope.  What is left differs with the place of the
  -- limit: an early one cuts the rows found, a late one the rows in order.
  change (p.sorted ((p.found b.scope (p.environments given.tables)).map _) >>= fun inOrder =>
    .ok ((p.firstRows inOrder).map fun row => row.2.emit Env.wildcard b.scope p.select)) = _
  cases early : p.limitsEarly with
  | true =>
      rw [applyWhere_record_of_early early fits search] at select
      rw [applyOrderBy_of_early early] at order
      cases order
      rw [applyLimit_of_early early] at limit
      cases limit
      have kept (e : Env) (he : e ∈ p.firstRows (p.found b.scope (p.environments given.tables))) :
          e.Fits b.scope.aliases :=
        fits_found fits e (mem_of_mem_firstRows he)
      have unsorted : p.orderBy.isEmpty = true := early
      rw [applySelect_record valid kept select, sorted, if_pos unsorted, ok_bind, firstRows_map,
        List.map_map, List.map_map]
      rfl
  | false =>
      rw [applyWhere_record_of_late early fits search] at select
      have found := fits_found (p := p) fits
      rw [applySelect_record valid found select] at order
      obtain ⟨sorted, hsorted, rfl⟩ := applyOrderBy_record found order
      rw [applyLimit_eq_ok early limit, hsorted, ok_bind, firstRows_map, List.map_map]
      rfl

/-- The names of the products of orders, read from the rows in scope. -/
theorem execute_eq_reference_sample :
    (∀ a ∈ Sample.plan.boundAliases, IsPlain a) ∧
      Sample.plan.execute Sample.bindings.tables = .ok Sample.answer ∧
      Sample.plan.reference Env.wildcard Sample.bindings.tables = .ok Sample.answer :=
  ⟨by decide, rfl,
    execute_eq_reference Sample.plan Sample.bindings Sample.answer (by decide) rfl⟩

/-- Everything about orders and their products. -/
def allOfShop : Plan :=
  { Sample.plan with condition := none, select := [⟨"*", none⟩], limit := some (.int 1) }

/-- With several tables in scope a wildcard does not put out fields under their own names: they keep
the names of their tables. -/
theorem wildcard_not_bare :
    ¬ ∀ (p : Plan) (given : Bindings) (records : List Record),
      (∀ a ∈ p.boundAliases, IsPlain a) → p.execute given.tables = .ok records →
        p.reference Env.bareWildcard given.tables = .ok records := by
  intro bare
  have answer : allOfShop.execute Sample.bindings.tables =
      .ok [⟨[("o.item", .int 2), ("p.id", .int 2), ("p.name", .string "G")], none⟩] := rfl
  have same := bare allOfShop Sample.bindings _ (by decide) answer
  have other : allOfShop.reference Env.bareWildcard Sample.bindings.tables =
      .ok [⟨[("item", .int 2), ("id", .int 2), ("name", .string "G")], none⟩] := rfl
  rw [other] at same
  simp at same

end Plan

end DocQuery
