/-
Module: DocQuery.Proofs.Isolation
Purpose: In a composed record every table keeps the fields of its own row, as long as the names of
  the tables can be told apart.
Main exports: Record.Keeps, Source, Drawn, Plan.sources, Plan.applyJoins_composed,
  Plan.applyWhere_isolated, Plan.not_isolated_of_begins
-/
import DocQuery.Proofs.EnvironmentJoins

namespace DocQuery

open Outcome

/-! ### Fields of one table in a composed record

The wildcard of a table looks for names that begin with that of the table.  If the names can be told
apart by that, it takes the row of the table and nothing else. -/

/-- A record has the fields of a row under the name of its table, and no others there: `alias.*`
selects them in their order and nothing else. -/
structure Record.Keeps (r : Record) (aliasName : String) (row : Row) : Prop where
  field (name : String) :
    Keyed.get? (Record.qualifiedName aliasName name) r.fields = Keyed.get? name row
  wildcard : wildcardFields r (some aliasName) = Env.qualifiedRow aliasName row
  selected (scope : Scope) :
    projectRecord scope [⟨aliasName ++ ".*", none⟩] r =
      .ok ⟨Env.qualifiedRow aliasName row, none⟩

theorem wildcardAlias?_of_table (aliasName : String) :
    SelectItem.wildcardAlias? ⟨aliasName ++ ".*", none⟩ = some aliasName := by
  simp [SelectItem.wildcardAlias?, String.toList_append]

/-- Selecting nothing but `alias.*` puts out what the wildcard takes. -/
theorem projectRecord_wildcard (scope : Scope) (aliasName : String) (r : Record)
    (distinct : (Keyed.keys (wildcardFields r (some aliasName))).Nodup) :
    projectRecord scope [⟨aliasName ++ ".*", none⟩] r =
      .ok ⟨wildcardFields r (some aliasName), none⟩ := by
  have named := wildcardAlias?_of_table aliasName
  have fields : Keyed.update [] (wildcardFields r (some aliasName)) =
      wildcardFields r (some aliasName) :=
    Keyed.ofList_of_nodup distinct
  simp [projectRecord, projectItem, outputNames, SelectItem.isWildcard, named, fields]

namespace Env

variable {e : Env} {aliases : List String}

theorem record_of_several (several : 1 < e.length) : e.record = ⟨e.qualifiedFields, none⟩ := by
  rcases e with _ | ⟨first, _ | ⟨second, rest⟩⟩
  · simp at several
  · simp at several
  · rfl

/-- A wildcard for one of several tables takes the fields of its row. -/
theorem wildcard_of_mem (several : 1 < e.length) (distinct : (Keyed.keys e).Nodup) {a : String}
    {row : Row} (h : (a, row) ∈ e) : e.wildcard (some a) = qualifiedRow a row := by
  have only : e.filter (fun entry => (some a).all (· = entry.1)) = [(a, row)] := by
    clear several
    induction e with
    | nil => cases h
    | cons entry rest ih =>
        obtain ⟨fresh, distinct'⟩ := List.nodup_cons.1 distinct
        rcases List.mem_cons.1 h with rfl | later
        · have others : rest.filter (fun entry => (some a).all (· = entry.1)) = [] := by
            refine List.filter_eq_nil_iff.2 fun other hother => ?_
            have apart : a ≠ other.1 := fun same =>
              fresh (List.mem_map.2 ⟨other, hother, same.symm⟩)
            simpa using apart
          simp only [List.filter_cons, others]
          simp
        · have apart : a ≠ entry.1 := fun same =>
            fresh (List.mem_map.2 ⟨(a, row), later, same⟩)
          simpa [List.filter_cons, apart] using ih distinct' later
  rcases e with _ | ⟨first, _ | ⟨second, rest⟩⟩
  · simp at several
  · simp at several
  · simp only [wildcard, only, qualifiedFields_cons, qualifiedFields_nil, List.append_nil]

/-- The record that is composed of rows in scope keeps each of them. -/
theorem Isolated.keeps (isolated : e.Isolated aliases) (several : 1 < e.length) {a : String}
    {row : Row} (h : (a, row) ∈ e) : e.record.Keeps a row := by
  have distinct : (Keyed.keys e).Nodup := isolated.keys ▸ isolated.distinct
  have bound : a ∈ aliases := isolated.keys ▸ List.mem_map.2 ⟨(a, row), h, rfl⟩
  have wildcard : wildcardFields e.record (some a) = qualifiedRow a row := by
    rw [wildcardFields_record isolated (by rintro _ ⟨rfl⟩; exact bound),
      wildcard_of_mem several distinct h]
  refine ⟨fun name => ?_, wildcard, fun scope => ?_⟩
  · rw [record_of_several several, get?_qualifiedFields isolated.separate bound
      (fun b hb => isolated.keys ▸ hb) distinct, Keyed.get?_of_mem distinct h]
    rfl
  · have names : (Keyed.keys (wildcardFields e.record (some a))).Nodup :=
      wildcard ▸ nodup_keys_qualifiedRow a (isolated.rows _ h)
    rw [projectRecord_wildcard scope a e.record names, wildcard]

end Env

/-! ### Where rows come from

Every clause is a source of rows.  What is proved of the records behind it is that they are composed
of one row of each source so far, which is an invariant of the run. -/

/-- What brings rows into scope: the name of its table, and the rows that it can bring to those that
are in scope before it. -/
structure Source where
  aliasName : String
  Brings : Env → Row → Prop

/-- The first table brings its rows. -/
def Table.source (t : Table) : Source :=
  ⟨t.aliasName, fun _ row => row ∈ t.rows⟩

/-- An unnested array brings its elements, each as a row of one column. -/
def Unnest.source (u : Unnest) (scope : Scope) : Source :=
  ⟨u.aliasName, fun e row => ∃ items, u.elements scope e.record = .ok items ∧
    ∃ element ∈ items, row = [(u.column, element)]⟩

/-- A join brings rows of its table, and a left join also the row of nulls. -/
def Join.source (j : Join) (t : Table) : Source :=
  ⟨t.aliasName, fun _ row => row ∈ t.rows ∨ j.kind = .left ∧ row = t.nullRow⟩

/-- Rows in scope, one of each source in their order.  No row has two fields of one name. -/
inductive Drawn : List Source → Env → Prop
  | none : Drawn [] []
  | next {sources : List Source} {e : Env} {s : Source} {row : Row} : Drawn sources e →
      s.Brings e row → (Keyed.keys row).Nodup → Drawn (sources ++ [s]) (e ++ [(s.aliasName, row)])

namespace Drawn

variable {sources : List Source} {e : Env}

theorem keys (drawn : Drawn sources e) : Keyed.keys e = sources.map Source.aliasName := by
  induction drawn with
  | none => rfl
  | next _ _ _ ih =>
      rw [Keyed.keys_append, ih, List.map_append]
      rfl

theorem length_eq (drawn : Drawn sources e) : e.length = sources.length := by
  simpa [Keyed.keys] using congrArg List.length drawn.keys

theorem rows (drawn : Drawn sources e) : ∀ entry ∈ e, (Keyed.keys entry.2).Nodup := by
  induction drawn with
  | none => exact fun entry h => absurd h List.not_mem_nil
  | next _ _ distinct ih =>
      intro entry h
      rcases List.mem_append.1 h with old | new
      · exact ih entry old
      · exact List.mem_singleton.1 new ▸ distinct

theorem isolated (drawn : Drawn sources e) (distinct : (sources.map Source.aliasName).Nodup)
    (separate : Separate (sources.map Source.aliasName)) :
    e.Isolated (sources.map Source.aliasName) :=
  ⟨drawn.keys, distinct, separate, drawn.rows⟩

end Drawn

/-- Every record is composed of rows of the sources. -/
def Composed (sources : List Source) (records : List Record) : Prop :=
  ∀ r ∈ records, ∃ e, Drawn sources e ∧ r = e.record

/-! ### What one clause does

The step lemmas of that invariant, one for arrays and one for joins, and the induction over any list
of clauses that have such a lemma. -/

/-- The names of sources are not repeated and can be told apart. -/
structure TellsApart (sources : List Source) : Prop where
  distinct : (sources.map Source.aliasName).Nodup
  separate : Separate (sources.map Source.aliasName)

theorem TellsApart.of_append {first second : List Source} (apart : TellsApart (first ++ second)) :
    TellsApart first := by
  obtain ⟨distinct, separate⟩ := apart
  rw [List.map_append] at distinct separate
  exact ⟨(List.nodup_append.1 distinct).1, separate.mono fun a ha => List.mem_append_left _ ha⟩

section Clause

variable {sources : List Source} {records out : List Record}

/-- Merging a row of a new source to a record composes a record of one more row. -/
theorem Drawn.merge {s : Source} {e : Env} {row : Row} {r : Record} (drawn : Drawn sources e)
    (some' : sources ≠ []) (apart : TellsApart (sources ++ [s])) (brings : s.Brings e row)
    (distinct : (Keyed.keys row).Nodup)
    (hr : r.qualified.fields = Env.qualifiedRow s.aliasName row) :
    ∃ e', Drawn (sources ++ [s]) e' ∧ e.record.merge r = e'.record := by
  have next : Drawn (sources ++ [s]) (e ++ [(s.aliasName, row)]) := .next drawn brings distinct
  refine ⟨_, next, Env.merge_record (next.isolated apart.distinct apart.separate) ?_ hr⟩
  rintro rfl
  exact some' (List.map_eq_nil_iff.1 drawn.keys.symm)

/-- Unnesting an array composes records of one more row, its element. -/
theorem Unnest.apply_composed {u : Unnest} {scope : Scope} (some' : sources ≠ [])
    (apart : TellsApart (sources ++ [u.source scope])) (composed : Composed sources records)
    (h : u.apply scope records = .ok out) : Composed (sources ++ [u.source scope]) out := by
  obtain ⟨groups, expanded, h⟩ := bind_eq_ok.1 h
  cases h
  intro r hr
  obtain ⟨group, hgroup, hr⟩ := List.mem_flatten.1 hr
  obtain ⟨left, hleft, hgroup⟩ := exists_of_mem_mapM expanded hgroup
  obtain ⟨items, hitems, hgroup⟩ := bind_eq_ok.1 hgroup
  cases hgroup
  obtain ⟨element, helement, rfl⟩ := List.mem_map.1 hr
  obtain ⟨e, drawn, rfl⟩ := composed left hleft
  have brings : (u.source scope).Brings e [(u.column, element)] :=
    ⟨items, hitems, element, helement, rfl⟩
  exact drawn.merge some' apart brings (by simp [Keyed.keys]) rfl

/-- What a join puts out for a record is that record merged with a row of its table, or in a left
join with nulls. -/
theorem joinOne_cases {kind : JoinKind} {t : Table} {index : JoinIndex} {left r : Record}
    {key : Option JoinKey} (found : ∀ key, ∀ partner ∈ index.find key, partner ∈ t.records)
    (h : r ∈ joinOne kind (nullRecord t) index left key) :
    (∃ row ∈ t.rows, r = left.merge ⟨row, some t.aliasName⟩) ∨
      kind = .left ∧ r = left.merge (nullRecord t) := by
  unfold joinOne at h
  split at h
  · cases h
  · exact .inr ⟨rfl, List.mem_singleton.1 h⟩
  · obtain ⟨partner, hpartner, rfl⟩ := List.mem_map.1 h
    cases key with
    | none => cases hpartner
    | some key =>
        obtain ⟨row, hrow, rfl⟩ := List.mem_map.1 (found key partner hpartner)
        exact .inl ⟨row, hrow, rfl⟩

/-- Joining a table composes records of one more row, of that table or of nulls. -/
theorem joinRecords_composed {j : Join} {t : Table} {scope : Scope} (some' : sources ≠ [])
    (apart : TellsApart (sources ++ [j.source t])) (rows : ∀ row ∈ t.rows, (Keyed.keys row).Nodup)
    (composed : Composed sources records) (h : joinRecords scope j records t = .ok out) :
    Composed (sources ++ [j.source t]) out := by
  obtain ⟨fields, _, h⟩ := bind_eq_ok.1 h
  obtain ⟨index, built, h⟩ := bind_eq_ok.1 h
  obtain ⟨groups, joined, h⟩ := bind_eq_ok.1 h
  cases h
  have found (key : JoinKey) (partner : Record) (hpartner : partner ∈ index.find key) :
      partner ∈ t.records := by
    have reads (r : Record) (_ : r ∈ t.records) (v : Value)
        (hv : scope.resolve r fields.2 = .ok v) :
        v = (scope.resolve r fields.2).toOption.getD .null := by
      rw [hv]
      rfl
    rw [JoinIndex.find_build reads built] at hpartner
    exact (List.mem_filter.1 hpartner).1
  intro r hr
  obtain ⟨group, hgroup, hr⟩ := List.mem_flatten.1 hr
  obtain ⟨left, hleft, hgroup⟩ := exists_of_mem_mapM joined hgroup
  obtain ⟨v, _, hgroup⟩ := bind_eq_ok.1 hgroup
  cases hgroup
  obtain ⟨e, drawn, rfl⟩ := composed left hleft
  rcases joinOne_cases found hr with ⟨row, hrow, rfl⟩ | ⟨hkind, rfl⟩
  · exact drawn.merge some' apart (.inl hrow) (rows row hrow) rfl
  · exact drawn.merge some' apart (.inr ⟨hkind, rfl⟩) t.nodup_nullRow (fields_nullRecord t)

/-- If each of several clauses composes records of one more row, then all of them, one after the
other, compose records of a row of each. -/
theorem foldlM_composed {γ : Type} {f : List Record → γ → Except QueryError (List Record)}
    {source : γ → Source} {xs : List γ}
    (step : ∀ x ∈ xs, ∀ (sources : List Source) (records out : List Record), sources ≠ [] →
      TellsApart (sources ++ [source x]) → Composed sources records → f records x = .ok out →
      Composed (sources ++ [source x]) out)
    (some' : sources ≠ []) (apart : TellsApart (sources ++ xs.map source))
    (composed : Composed sources records) (h : xs.foldlM f records = .ok out) :
    Composed (sources ++ xs.map source) out := by
  induction xs generalizing sources records with
  | nil =>
      cases h
      simpa using composed
  | cons x xs ih =>
      rw [List.foldlM_cons] at h
      obtain ⟨next, first, h⟩ := bind_eq_ok.1 h
      have behind : sources ++ (x :: xs).map source = (sources ++ [source x]) ++ xs.map source := by
        simp
      rw [behind] at apart ⊢
      have composed' := step x List.mem_cons_self sources records next some' apart.of_append
        composed first
      exact ih (fun y hy => step y (List.mem_cons_of_mem x hy)) (by simp) apart composed' h

end Clause

/-! ### What a plan does

The run goes through all sources, and filtering takes records away but changes none. -/

namespace Plan

variable {p : Plan} {tables : Tables} {b : Bound}

/-- The sources of a plan in clause order: the first table, the unnested arrays and the joined
tables. -/
def sources (p : Plan) (b : Bound) : List Source :=
  b.first.source :: (p.unnests.zipIdx.map fun (u, position) =>
    u.source (unnestScope b.scope position)) ++
      (p.joins.zip b.joined).zipIdx.map fun ((j, t), _) => j.source t

theorem aliases_sources (sound : b.Sound p tables) :
    (p.sources b).map Source.aliasName = b.scope.aliases := by
  have unnests : (p.unnests.zipIdx.map fun (u, position) =>
      u.source (unnestScope b.scope position)).map Source.aliasName =
        p.unnests.map Unnest.aliasName := by
    conv_rhs => rw [← List.zipIdx_map_fst 0 p.unnests, List.map_map]
    rw [List.map_map]
    rfl
  have joins : ((p.joins.zip b.joined).zipIdx.map fun ((j, t), _) => j.source t).map
      Source.aliasName = b.joined.map Table.aliasName := by
    conv_rhs => rw [← sound.map_snd_zip, ← List.zipIdx_map_fst 0 (p.joins.zip b.joined),
      List.map_map, List.map_map]
    rw [List.map_map]
    rfl
  rw [sources, List.map_append, List.map_cons, unnests, joins, sound.aliases_eq]
  rfl

/-- The records behind the joins are composed of a row of each source. -/
theorem applyJoins_composed (sound : b.Sound p tables) (separate : Separate b.scope.aliases)
    {out : List Record} (h : p.applyJoins b = .ok out) : Composed (p.sources b) out := by
  obtain ⟨unnested, unnests, joins⟩ := bind_eq_ok.1 h
  have names := aliases_sources sound
  have apart : TellsApart (p.sources b) :=
    ⟨names ▸ sound.distinct, names ▸ separate⟩
  have first : Composed [b.first.source] b.first.records := by
    intro r hr
    obtain ⟨row, hrow, rfl⟩ := List.mem_map.1 hr
    exact ⟨[(b.first.aliasName, row)],
      .next .none hrow (sound.rows b.first List.mem_cons_self row hrow), rfl⟩
  let array (x : Unnest × Nat) : Source := x.1.source (unnestScope b.scope x.2)
  have arrays : Composed ([b.first.source] ++ p.unnests.zipIdx.map array) unnested :=
    foldlM_composed (fun x _ sources records out some' apart composed h =>
      Unnest.apply_composed some' apart composed h) (by simp) apart.of_append first unnests
  refine foldlM_composed (fun x hx sources records out some' apart composed h => ?_)
    (by simp) apart arrays joins
  have ht : x.1.2 ∈ b.joined := (List.of_mem_zip (List.fst_mem_of_mem_zipIdx hx)).2
  exact joinRecords_composed some' apart (sound.rows x.1.2 (List.mem_cons_of_mem _ ht)) composed h

/-- The search for records that a condition asks for adds none. -/
theorem mem_of_mem_applyWhere {scope : Scope} {records out : List Record}
    (h : p.applyWhere scope records = .ok out) {r : Record} (hr : r ∈ out) : r ∈ records := by
  rw [applyWhere_eq] at h
  obtain ⟨limit, _, h⟩ := bind_eq_ok.1 h
  have agree (c : Condition) (r : Record) (_ : r ∈ records) (passes : Bool)
      (hp : c.eval scope r = .ok passes) : passes = (c.eval scope r).toOption.getD false := by
    rw [hp]
    rfl
  rw [← List.map_id records] at h
  unfold search at h
  split at h
  · cases h
    simpa using hr
  · unfold limitRows at h
    split at h
    · cases h
    · cases h
      simpa using List.mem_of_mem_take hr
  · rw [eq_filter_of_filterAll (agree _) h, List.map_id] at hr
    exact (List.mem_filter.1 hr).1
  · split at h
    · cases h
    · rw [eq_filter_of_filterFirst (agree _) h, List.map_id] at hr
      exact (List.mem_filter.1 (List.mem_of_mem_take hr)).1

/-- Of several tables whose names can be told apart each keeps its own row in every record that
reaches the select list: the record is put together from one row of each source of the plan, and
what it has under the name of a table is the row of that table. -/
theorem applyWhere_isolated (p : Plan) (given : Bindings) {b : Bound} {joined kept : List Record}
    (bound : p.bind given.tables = .ok b) (several : 1 < b.scope.aliases.length)
    (separate : Separate b.scope.aliases) (joins : p.applyJoins b = .ok joined)
    (search : p.applyWhere b.scope joined = .ok kept) :
    ∀ r ∈ kept, ∃ e : Env, Drawn (p.sources b) e ∧ Keyed.keys e = b.scope.aliases ∧
      r = ⟨e.qualifiedFields, none⟩ ∧ ∀ entry ∈ e, r.Keeps entry.1 entry.2 := by
  have sound := bind_sound given.wellNamed bound
  have names := aliases_sources sound
  intro r hr
  obtain ⟨e, drawn, rfl⟩ :=
    applyJoins_composed sound separate joins r (mem_of_mem_applyWhere search hr)
  have isolated := drawn.isolated (names ▸ sound.distinct) (names ▸ separate)
  have several' : 1 < e.length := by
    rw [← names, List.length_map, ← drawn.length_eq] at several
    exact several
  exact ⟨e, drawn, drawn.keys.trans names, Env.record_of_several several',
    fun entry h => isolated.keeps several' h⟩

/-- The orders and the products of the shop. -/
theorem applyWhere_isolated_shop :
    ∃ (b : Bound) (joined kept : List Record),
      Sample.plan.bind Sample.bindings.tables = .ok b ∧ 1 < b.scope.aliases.length ∧
      Separate b.scope.aliases ∧ Sample.plan.applyJoins b = .ok joined ∧
      Sample.plan.applyWhere b.scope joined = .ok kept ∧ kept.length = 3 ∧
      ∀ r ∈ kept, ∃ e : Env, Drawn (Sample.plan.sources b) e ∧ Keyed.keys e = b.scope.aliases ∧
        r = ⟨e.qualifiedFields, none⟩ ∧ ∀ entry ∈ e, r.Keeps entry.1 entry.2 :=
  ⟨_, _, _, rfl, by decide, by decide, rfl, rfl, rfl,
    applyWhere_isolated Sample.plan Sample.bindings rfl (by decide) (by decide) rfl rfl⟩

/-- A join of two tables, the name of one of which begins that of the other. -/
def dotted : Plan where
  table := ⟨"x", some "a"⟩
  unnests := []
  joins := [⟨⟨"y", some "a.b"⟩, .inner, .compare (.field "k") .eq (.field "m")⟩]
  condition := none
  select := [⟨"a.*", none⟩]
  orderBy := []
  limit := none

/-- One row for each of the two tables. -/
def dottedRows : Bindings :=
  .listed [⟨"a", [.ofList [("k", .int 1)]], none⟩, ⟨"a.b", [.ofList [("m", .int 1)]], none⟩]

/-- Where the name of one table, with a point behind it, begins that of another one, they do not
keep their fields apart: `a.*` also selects the fields of `a.b`. -/
theorem not_isolated_of_begins :
    ¬ ∀ (p : Plan) (given : Bindings) (b : Bound) (joined kept : List Record),
      p.bind given.tables = .ok b → 1 < b.scope.aliases.length → p.applyJoins b = .ok joined →
      p.applyWhere b.scope joined = .ok kept →
        ∀ r ∈ kept, ∃ e : Env, Drawn (p.sources b) e ∧ Keyed.keys e = b.scope.aliases ∧
          r = ⟨e.qualifiedFields, none⟩ ∧ ∀ entry ∈ e, r.Keeps entry.1 entry.2 := by
  intro isolated
  let r : Record := ⟨[("a.k", .int 1), ("a.b.m", .int 1)], none⟩
  obtain ⟨e, -, keys, same, keeps⟩ :=
    isolated dotted dottedRows _ [r] [r] rfl (by decide) rfl rfl r (List.mem_singleton_self r)
  have keys' : Keyed.keys e = ["a", "a.b"] := keys
  obtain ⟨⟨a, row⟩, ⟨a', row'⟩, rfl⟩ : ∃ first second, e = [first, second] :=
    List.length_eq_two.1 (by simpa [Keyed.keys] using congrArg List.length keys')
  obtain ⟨rfl, rfl⟩ : a = "a" ∧ a' = "a.b" := by simpa [Keyed.keys] using keys'
  have first := (keeps ("a", row) (by simp)).wildcard
  have second := (keeps ("a.b", row') (by simp)).wildcard
  simp only [wildcardFields, r, Record.toList_qualifiedName] at first second
  -- both wildcards take the field of `a.b`, but there are only two fields
  have both : r.fields.length = row.length + row'.length := by
    rw [same]
    simp [Env.qualifiedRow]
  have two : row.length = 2 := by
    simpa [Env.qualifiedRow] using (congrArg List.length first).symm
  have one : row'.length = 1 := by
    simpa [Env.qualifiedRow] using (congrArg List.length second).symm
  simp [two, one, r] at both

end Plan

end DocQuery
