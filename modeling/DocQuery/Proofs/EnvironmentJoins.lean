/-
Module: DocQuery.Proofs.EnvironmentJoins
Purpose: Arrays and joins compose the records of the rows that they bring into scope.
Main exports: Unnest.apply_record, joinRecords_record, Simulates, foldlM_record,
  Plan.applyJoins_record
-/
import DocQuery.Proofs.EnvironmentRecord
import DocQuery.Proofs.JoinKeys
import DocQuery.Proofs.Validation

namespace DocQuery

open Outcome

/-! ### Arrays

An array is expanded in place: its elements follow each other behind the row that has it.  A value
that is no array contributes nothing. -/

/-- The elements of an array keep what is in scope, with one more row. -/
theorem Unnest.fits_expand {u : Unnest} {scope : Scope} {e : Env} (fits : e.Fits scope.aliases)
    (plain : IsPlain u.aliasName) (fresh : u.aliasName ∉ scope.aliases) :
    ∀ e' ∈ u.expand scope e, e'.Fits (scope.withFields u.aliasName [u.column]).aliases := by
  intro e' he'
  unfold expand at he'
  split at he'
  · obtain ⟨element, _, rfl⟩ := List.mem_map.1 he'
    rw [Scope.aliases_withFields]
    exact fits.append plain fresh (by simp [Keyed.keys])
  · cases he'

/-- Unnesting an array of composed records composes what it makes of the rows in scope. -/
theorem Unnest.apply_record {u : Unnest} {scope : Scope} {envs : List Env} {out : List Record}
    (fits : ∀ e ∈ envs, e.Fits scope.aliases) (bound : scope.aliases ≠ [])
    (plain : IsPlain u.aliasName) (fresh : u.aliasName ∉ scope.aliases)
    (h : u.apply scope (envs.map Env.record) = .ok out) :
    out = (envs.flatMap (u.expand scope)).map Env.record := by
  obtain ⟨groups, expanded, h⟩ := bind_eq_ok.1 h
  cases h
  rw [List.mapM_map] at expanded
  -- One record goes with one row in scope: both are multiplied by the elements of the same array.
  have each (e : Env) (he : e ∈ envs) (group : List Record)
      (hg : (do return (← u.elements scope e.record).map fun element =>
        e.record.merge (u.elementRecord element)) = Except.ok group) :
      group = (u.expand scope e).map Env.record := by
    obtain ⟨items, hitems, hg⟩ := bind_eq_ok.1 hg
    cases hg
    obtain ⟨v, hv, hitems⟩ := bind_eq_ok.1 hitems
    have read := Env.resolve_record (fits e he) hv
    have merged (element : Value) :
        e.record.merge (u.elementRecord element) =
          (e ++ [(u.aliasName, [(u.column, element)])]).record :=
      Env.merge_record ((fits e he).append plain fresh (by simp [Keyed.keys])).isolated
        ((fits e he).ne_nil bound) rfl
    unfold expand
    rw [← read]
    cases v with
    | array elements =>
        cases hitems
        simp [merged]
    | null | bool _ | number _ | string _ | object _ =>
        cases hitems
        rfl
  rw [eq_map_of_mapM expanded each, List.map_flatMap, List.flatMap_def]

/-! ### Joins

The index is replaced by the rows that it finds, which are those with an equal key in the order of
the table.  A join then composes each record with the rows of its partners, or with nulls. -/

section Join

variable {j : Join} {scope : Scope} {t : Table} {fields : String × String}

/-- One row of a table in scope. -/
theorem Env.fits_single {a : String} (plain : IsPlain a) {row : Row}
    (distinct : (Keyed.keys row).Nodup) : Env.Fits [(a, row)] [a] := by
  refine ⟨rfl, List.nodup_singleton a, fun b hb => ?_, fun entry hentry => ?_⟩
  · exact List.mem_singleton.1 hb ▸ plain
  · exact List.mem_singleton.1 hentry ▸ distinct

/-- The index of a join finds the rows of its table with an equal key. -/
theorem find_rows (plain : IsPlain t.aliasName) (rows : ∀ row ∈ t.rows, (Keyed.keys row).Nodup)
    {clause field : String} {l : Location} (located : scope.locate clause field = .ok l)
    (side : ∀ a, l.aliasName = some a → a = t.aliasName) {index : JoinIndex}
    (h : JoinIndex.build scope field t.records = .ok index) (key : JoinKey) :
    index.find key =
      (t.rows.filter fun row =>
        (Env.read scope [(t.aliasName, row)] field).joinKey?.any (·.same key)).map
          fun row => Env.record [(t.aliasName, row)] := by
  have reads (r : Record) (hr : r ∈ t.records) (v : Value)
      (hv : scope.resolve r field = .ok v) :
      v = Env.read scope [(t.aliasName, r.fields)] field := by
    obtain ⟨row, hrow, rfl⟩ := List.mem_map.1 hr
    have bound (a : String) (ha : l.aliasName = some a) : a ∈ [t.aliasName] :=
      List.mem_singleton.2 (side a ha)
    exact Env.resolve_record_of_located (Env.fits_single plain (rows row hrow)) located bound hv
  rw [JoinIndex.find_build reads h, Table.records, List.filter_map]
  rfl

theorem Table.keys_nullRow (t : Table) : Keyed.keys t.nullRow = t.fieldNames := by
  simp [Table.nullRow, Keyed.keys, Function.comp_def]

theorem Table.nodup_nullRow (t : Table) : (Keyed.keys t.nullRow).Nodup := by
  rw [t.keys_nullRow]
  exact (Keyed.firstsOf_distinct _).nodup

/-- The record of nulls is a row of nulls. -/
theorem fields_nullRecord (t : Table) :
    (nullRecord t).qualified.fields = Env.qualifiedRow t.aliasName t.nullRow := by
  have same : t.fieldNames.map (fun name => (Record.qualifiedName t.aliasName name, Value.null)) =
      Env.qualifiedRow t.aliasName t.nullRow := by
    simp [Env.qualifiedRow, Table.nullRow, Function.comp_def]
  simp only [nullRecord, Record.qualified, same]
  exact Keyed.ofList_of_nodup (Env.nodup_keys_qualifiedRow _ t.nodup_nullRow)

/-- The partners of a composed record are those of the rows in scope. -/
theorem joinOne_record (hj : joinFields scope j.aliasName j.on = .ok fields)
    {index : JoinIndex} {e : Env} {aliases : List String} (fits : e.Fits aliases)
    (some' : aliases ≠ []) (plain : IsPlain t.aliasName) (fresh : t.aliasName ∉ aliases)
    (rows : ∀ row ∈ t.rows, (Keyed.keys row).Nodup)
    (found : ∀ key, index.find key =
      (t.rows.filter fun row =>
        (Env.read scope [(t.aliasName, row)] fields.2).joinKey?.any (·.same key)).map
          fun row => Env.record [(t.aliasName, row)]) :
    joinOne j.kind (nullRecord t) index e.record (e.read scope fields.1).joinKey? =
      (j.expand scope t e).map Env.record := by
  have partners : (((e.read scope fields.1).joinKey?.map index.find).getD []) =
      (j.partners scope t e).map fun row => Env.record [(t.aliasName, row)] := by
    rw [Join.partners, hj]
    cases key : (e.read scope fields.1).joinKey? with
    | none => simp [Value.joins, key]
    | some k =>
        rw [Option.map_some, Option.getD_some, found]
        congr 1
        refine List.filter_congr fun row _ => ?_
        simp only [Value.joins, key]
        cases (Env.read scope [(t.aliasName, row)] fields.2).joinKey? <;> rfl
  have merged (row : Row) (hrow : row ∈ j.partners scope t e) :
      e.record.merge (Env.record [(t.aliasName, row)]) = (e ++ [(t.aliasName, row)]).record := by
    refine Env.merge_record (fits.append plain fresh (rows row ?_)).isolated
      (fits.ne_nil some') rfl
    rw [Join.partners, hj] at hrow
    exact (List.mem_filter.1 hrow).1
  have nulls : e.record.merge (nullRecord t) = (e ++ [(t.aliasName, t.nullRow)]).record :=
    Env.merge_record (fits.append plain fresh t.nodup_nullRow).isolated (fits.ne_nil some')
      (fields_nullRecord t)
  unfold joinOne Join.expand
  rw [partners]
  -- Only a LEFT join without a partner puts in the row of nulls.
  cases hp : j.partners scope t e with
  | nil =>
      cases j.kind with
      | inner => rfl
      | left => simp [nulls]
  | cons row more =>
      rw [hp] at merged
      simp only [List.map_cons, List.map_map]
      rw [merged row List.mem_cons_self]
      congr 1
      exact List.map_congr_left fun row' hrow' => merged row' (List.mem_cons_of_mem _ hrow')

/-- What a join makes of rows in scope has one more row in scope. -/
theorem fits_expand {e : Env} {aliases : List String} (fits : e.Fits aliases)
    (plain : IsPlain t.aliasName) (fresh : t.aliasName ∉ aliases)
    (rows : ∀ row ∈ t.rows, (Keyed.keys row).Nodup) :
    ∀ e' ∈ j.expand scope t e, e'.Fits (aliases ++ [t.aliasName]) := by
  have partner (row : Row) (hrow : row ∈ j.partners scope t e) : (Keyed.keys row).Nodup := by
    unfold Join.partners at hrow
    split at hrow
    · exact rows row (List.mem_filter.1 hrow).1
    · cases hrow
  intro e' he'
  unfold Join.expand at he'
  split at he'
  · cases he'
  · obtain rfl := List.mem_singleton.1 he'
    exact fits.append plain fresh t.nodup_nullRow
  · obtain ⟨row, hrow, rfl⟩ := List.mem_map.1 he'
    exact fits.append plain fresh (partner row hrow)

/-- Joining composed records composes what the join makes of the rows in scope. -/
theorem joinRecords_record {base : Scope} {envs : List Env} {out : List Record}
    (fits : ∀ e ∈ envs, e.Fits base.aliases) (some' : base.aliases ≠ [])
    (named : t.aliasName = j.aliasName) (plain : IsPlain t.aliasName)
    (fresh : t.aliasName ∉ base.aliases) (rows : ∀ row ∈ t.rows, (Keyed.keys row).Nodup)
    (h : joinRecords (base.extended t) j (envs.map Env.record) t = .ok out) :
    out = (envs.flatMap (j.expand (base.extended t) t)).map Env.record := by
  obtain ⟨fields, hj, h⟩ := bind_eq_ok.1 h
  obtain ⟨index, built, h⟩ := bind_eq_ok.1 h
  obtain ⟨groups, joined, h⟩ := bind_eq_ok.1 h
  cases h
  obtain ⟨l, l', left, right, earlier, own⟩ := joinFields_sides hj
  rw [← named] at earlier own
  rw [List.mapM_map] at joined
  have before (a : String) (ha : l.aliasName = some a) : a ∈ base.aliases := by
    have bound := Scope.mem_aliases_of_locate left ha
    rw [Scope.extended, Scope.aliases_withFields, List.mem_append] at bound
    exact bound.resolve_right fun h => earlier a ha (List.mem_singleton.1 h)
  have each (e : Env) (he : e ∈ envs) (group : List Record)
      (hg : (do
        let key := (← (base.extended t).resolve e.record fields.1).joinKey?
        return joinOne j.kind (nullRecord t) index e.record key) = Except.ok group) :
      group = (j.expand (base.extended t) t e).map Env.record := by
    obtain ⟨v, hv, hg⟩ := bind_eq_ok.1 hg
    cases hg
    rw [Env.resolve_record_of_located (fits e he) left before hv]
    exact joinOne_record hj (fits e he) some' plain fresh rows
      (find_rows plain rows right own built)
  rw [eq_map_of_mapM joined each, List.map_flatMap, List.flatMap_def]

end Join

/-! ### All clauses

A run is a fold over the clauses, and so is the meaning.  `Simulates` is what one step of both folds
preserves; the induction over the clauses is made once, for arrays and joins together. -/

/-- What clauses make of rows in scope, they make of each row on its own. -/
theorem expandAll_append (scope : Scope) (first second : List Clause) (e : Env) :
    expandAll scope (first ++ second) e =
      (expandAll scope first e).flatMap
        (expandAll ⟨scope.tables ++ first.map Clause.entry⟩ second) := by
  induction first generalizing scope e with
  | nil => simp [expandAll]
  | cons c first ih =>
      simp only [List.cons_append, expandAll, List.flatMap_assoc]
      congr 1
      funext e'
      rw [ih]
      simp

section Clauses

variable {γ : Type} {clause : γ → Clause} {stage : Scope → γ → List Record →
  Except QueryError (List Record)}

/-- A stage on composed records composes what a clause makes of the rows in scope, which then has
the rows of the clause in scope. -/
def Simulates (clause : γ → Clause) (stage : Scope → γ → List Record →
    Except QueryError (List Record)) (x : γ) : Prop :=
  ∀ (scope : Scope) (envs : List Env) (out : List Record),
    scope.aliases ≠ [] → (∀ e ∈ envs, e.Fits scope.aliases) →
    (clause x).entry.1 ∉ scope.aliases → stage scope x (envs.map Env.record) = .ok out →
    out = (envs.flatMap ((clause x).expand scope)).map Env.record ∧
      ∀ e ∈ envs.flatMap ((clause x).expand scope),
        e.Fits (scope.aliases ++ [(clause x).entry.1])

/-- If the stages simulate the clauses, then all of them, one after the other, compose what all
clauses make of the rows in scope. -/
theorem foldlM_record {xs : List γ} (simulates : ∀ x ∈ xs, Simulates clause stage x)
    {f : List Record → γ × Nat → Except QueryError (List Record)} {start : Nat} {scope : Scope}
    (stages : ∀ (i : Nat) (x : γ), xs[i]? = some x → ∀ records, f records (x, start + i) =
      stage ⟨scope.tables ++ (xs.take i).map fun x => (clause x).entry⟩ x records)
    (some' : scope.aliases ≠ []) {envs : List Env} (fits : ∀ e ∈ envs, e.Fits scope.aliases)
    (distinct : (scope.aliases ++ xs.map fun x => (clause x).entry.1).Nodup) {out : List Record}
    (h : (xs.zipIdx start).foldlM f (envs.map Env.record) = .ok out) :
    out = (envs.flatMap (expandAll scope (xs.map clause))).map Env.record ∧
      ∀ e ∈ envs.flatMap (expandAll scope (xs.map clause)),
        e.Fits (scope.aliases ++ xs.map fun x => (clause x).entry.1) := by
  induction xs generalizing start scope envs with
  | nil =>
      cases h
      simpa [expandAll] using fits
  | cons x xs ih =>
      rw [List.zipIdx_cons, List.foldlM_cons] at h
      obtain ⟨next, first, h⟩ := bind_eq_ok.1 h
      -- The first stage composes its rows in scope; the others run in the scope that it extends.
      have first' := stages 0 x rfl (envs.map Env.record)
      rw [Nat.add_zero, List.take_zero, List.map_nil, List.append_nil, first] at first'
      have fresh : (clause x).entry.1 ∉ scope.aliases := by
        intro before
        exact (List.disjoint_of_nodup_append distinct) before List.mem_cons_self
      obtain ⟨rfl, fits'⟩ :=
        simulates x List.mem_cons_self scope envs next some' fits fresh first'.symm
      let scope' : Scope := ⟨scope.tables ++ [(clause x).entry]⟩
      have aliases : scope'.aliases = scope.aliases ++ [(clause x).entry.1] := by
        simp [scope', Scope.aliases]
      have stages' (i : Nat) (y : γ) (hy : xs[i]? = some y) (records : List Record) :
          f records (y, start + 1 + i) =
            stage ⟨scope'.tables ++ (xs.take i).map fun x => (clause x).entry⟩ y records := by
        have later := stages (i + 1) y (by simpa using hy) records
        simpa [scope', Nat.add_assoc, Nat.add_comm 1] using later
      have rest := ih (fun y hy => simulates y (List.mem_cons_of_mem x hy)) stages'
        (by simp [aliases]) (aliases ▸ fits') (by simpa [aliases] using distinct) h
      simpa [expandAll, List.flatMap_assoc, aliases] using rest

end Clauses

theorem Unnest.simulates {u : Unnest} (plain : IsPlain u.aliasName) :
    Simulates Unnest.clause (fun scope u records => u.apply scope records) u := by
  intro scope envs out some' fits fresh h
  refine ⟨Unnest.apply_record fits some' plain fresh h, fun e' he' => ?_⟩
  obtain ⟨e, he, he'⟩ := List.mem_flatMap.1 he'
  have expanded := Unnest.fits_expand (fits e he) plain fresh e' he'
  rwa [Scope.aliases_withFields] at expanded

theorem Join.simulates {j : Join} {t : Table} (named : t.aliasName = j.aliasName)
    (plain : IsPlain t.aliasName) (rows : ∀ row ∈ t.rows, (Keyed.keys row).Nodup) :
    Simulates (fun x : Join × Table => x.1.clause x.2)
      (fun scope x records => joinRecords (scope.extended x.2) x.1 records x.2) (j, t) := by
  intro scope envs out some' fits fresh h
  refine ⟨joinRecords_record fits some' named plain fresh rows h, fun e' he' => ?_⟩
  obtain ⟨e, he, he'⟩ := List.mem_flatMap.1 he'
  exact fits_expand (fits e he) plain fresh rows e' he'

namespace Plan

variable {p : Plan} {tables : Tables} {b : Bound}

/-! ### Rows in scope at the end of the joins

The run cuts the scope of each clause out of the full scope by position.  That these are the scopes
that grow clause by clause in the meaning follows from how a plan was bound. -/

theorem tableOf_of_found {t : Table} {aliasName : String}
    (h : Keyed.get? aliasName tables = some t) : tableOf tables aliasName = t := by
  simp [tableOf, h]

theorem Bound.Sound.firstTable_eq (sound : b.Sound p tables) : p.firstTable tables = b.first := by
  obtain ⟨found, _⟩ := List.forall₂_cons.1 sound.found
  exact tableOf_of_found found

/-- A join and the table that was found for it. -/
theorem Bound.Sound.joined_eq (sound : b.Sound p tables) :
    b.joined = p.joins.map fun j => tableOf tables j.aliasName := by
  obtain ⟨_, found⟩ := List.forall₂_cons.1 sound.found
  have joined (refs : List TableRef) (ts : List Table)
      (h : List.Forall₂ (fun ref t => Keyed.get? ref.effectiveAlias tables = some t) refs ts) :
      ts = refs.map fun ref => tableOf tables ref.effectiveAlias := by
    induction h with
    | nil => rfl
    | cons hfound _ ih => rw [List.map_cons, tableOf_of_found hfound, ← ih]
  rw [joined _ _ found, List.map_map]
  rfl

theorem Bound.Sound.fullScope_eq (sound : b.Sound p tables) : p.fullScope tables = b.scope := by
  have entries : (p.fullScope tables).tables = b.scope.tables := by
    rw [sound.scope, sound.joined_eq, fullScope, sound.firstTable_eq, clauses]
    simp [Unnest.clause, Join.clause, Function.comp_def]
  rcases b with ⟨first, joined, ⟨full⟩⟩
  rw [fullScope] at entries ⊢
  exact congrArg Scope.mk entries

theorem unnestScope_eq (sound : b.Sound p tables) {i : Nat} (hi : i ≤ p.unnests.length) :
    unnestScope b.scope i = ⟨b.first.entry :: (p.unnests.take i).map Unnest.entry⟩ := by
  rw [unnestScope, Scope.subset_take sound.distinct, sound.scope, List.take_succ_cons,
    List.take_append_of_le_length (by simpa using hi), List.map_take]

theorem joinScope_eq (sound : b.Sound p tables) {i : Nat} {t : Table}
    (ht : b.joined[i]? = some t) :
    p.joinScope b.scope i =
      ⟨b.first.entry :: (p.unnests.map Unnest.entry ++ (b.joined.take i).map Table.entry) ++
        [t.entry]⟩ := by
  have position : 1 + p.unnests.length + i + 1 =
      ((p.unnests.map Unnest.entry).length + (i + 1)) + 1 := by
    simp
    omega
  rw [joinScope, Scope.subset_take sound.distinct, sound.scope, position, List.take_succ_cons,
    List.take_length_add_append, ← List.map_take, List.take_add_one, ht]
  simp

/-- The tables that a plan has bound stand in its scope in clause order. -/
theorem Bound.Sound.aliases_eq (sound : b.Sound p tables) :
    b.scope.aliases = b.first.aliasName :: (p.unnests.map Unnest.aliasName ++
      b.joined.map Table.aliasName) := by
  simp [Scope.aliases, sound.scope, Table.entry, Unnest.entry, Function.comp_def]

/-- The records behind the arrays are composed of the rows in scope. -/
theorem unnests_record (sound : b.Sound p tables) (plain : ∀ a ∈ b.scope.aliases, IsPlain a)
    {out : List Record}
    (h : p.unnests.zipIdx.foldlM
      (fun records (u, position) => u.apply (unnestScope b.scope position) records)
      b.first.records = .ok out) :
    let envs := b.first.rows.flatMap fun row =>
      expandAll ⟨[b.first.entry]⟩ (p.unnests.map Unnest.clause) [(b.first.aliasName, row)]
    out = envs.map Env.record ∧
      ∀ e ∈ envs, e.Fits (b.first.aliasName :: p.unnests.map Unnest.aliasName) := by
  have aliases := sound.aliases_eq
  have distinct := sound.distinct
  rw [aliases] at plain distinct
  have simulates (u : Unnest) (hu : u ∈ p.unnests) :=
    Unnest.simulates (plain u.aliasName (by simp [List.mem_map_of_mem hu]))
  have first : b.first.records =
      (b.first.rows.map fun row => [(b.first.aliasName, row)]).map Env.record := by
    rw [List.map_map]
    rfl
  rw [first] at h
  -- The scope of the first table grows by one array with each step of the fold.
  let scope : Scope := ⟨[b.first.entry]⟩
  have before : scope.aliases = [b.first.aliasName] := rfl
  have all : (scope.aliases ++ p.unnests.map fun u => u.clause.entry.1) =
      b.first.aliasName :: p.unnests.map Unnest.aliasName := rfl
  have stages (i : Nat) (u : Unnest) (hu : p.unnests[i]? = some u) (records : List Record) :
      u.apply (unnestScope b.scope (0 + i)) records =
        u.apply ⟨scope.tables ++ (p.unnests.take i).map fun u => u.clause.entry⟩ records := by
    rw [Nat.zero_add, unnestScope_eq sound (List.getElem?_eq_some_iff.1 hu).1.le]
    rfl
  have fits : ∀ e ∈ b.first.rows.map fun row => [(b.first.aliasName, row)],
      Env.Fits e scope.aliases := by
    intro e he
    obtain ⟨row, hrow, rfl⟩ := List.mem_map.1 he
    exact Env.fits_single (plain _ List.mem_cons_self)
      (sound.rows b.first List.mem_cons_self row hrow)
  have distinct' : (scope.aliases ++ p.unnests.map fun u => u.clause.entry.1).Nodup := by
    rw [all]
    rw [← List.cons_append] at distinct
    exact (List.nodup_append.1 distinct).1
  have run := foldlM_record simulates stages (by simp [before]) fits distinct' h
  rw [List.flatMap_map, all] at run
  exact run

/-- A plan has rows in scope as its arrays, and then its joins, make of those of the first table. -/
theorem environments_eq (sound : b.Sound p tables) :
    p.environments tables =
      (b.first.rows.flatMap fun row =>
        expandAll ⟨[b.first.entry]⟩ (p.unnests.map Unnest.clause)
          [(b.first.aliasName, row)]).flatMap
        (expandAll ⟨b.first.entry :: p.unnests.map Unnest.entry⟩
          ((p.joins.zip b.joined).map fun x => x.1.clause x.2)) := by
  have joins : (p.joins.zip b.joined).map (fun x => x.1.clause x.2) =
      p.joins.map fun j => j.clause (tableOf tables j.aliasName) := by
    rw [sound.joined_eq, ← List.map_prod_left_eq_zip, List.map_map]
    rfl
  rw [joins, environments, sound.firstTable_eq, clauses, List.flatMap_assoc]
  congr 1
  funext row
  rw [expandAll_append]
  simp [Function.comp_def, Unnest.clause]

theorem Bound.Sound.map_snd_zip (sound : b.Sound p tables) :
    (p.joins.zip b.joined).map Prod.snd = b.joined :=
  List.map_snd_zip (by rw [sound.joined_eq, List.length_map])

/-- A joined table stands under the alias of its join. -/
theorem Bound.Sound.aliasName_of_mem_zip (sound : b.Sound p tables) {j : Join} {t : Table}
    (h : (j, t) ∈ p.joins.zip b.joined) : t.aliasName = j.aliasName := by
  obtain ⟨i, hi⟩ := List.mem_iff_getElem?.1 h
  obtain ⟨join, table⟩ := List.getElem?_zip_eq_some.1 hi
  have same := congrArg (fun names : List String => names[i]?) sound.joined
  simpa [join, table] using same

/-- The scope of a join has the tables of the joins before it, and its own. -/
theorem joinScope_eq_extended (sound : b.Sound p tables) {i : Nat} {j : Join} {t : Table}
    (h : (p.joins.zip b.joined)[i]? = some (j, t)) :
    p.joinScope b.scope i =
      Scope.extended ⟨b.first.entry :: p.unnests.map Unnest.entry ++
        ((p.joins.zip b.joined).take i).map fun x => (x.1.clause x.2).entry⟩ t := by
  have entries : ((p.joins.zip b.joined).take i).map (fun x => (x.1.clause x.2).entry) =
      (b.joined.take i).map Table.entry := by
    conv_rhs => rw [← sound.map_snd_zip, ← List.map_take, List.map_map]
    rfl
  rw [joinScope_eq sound (List.getElem?_zip_eq_some.1 h).2, entries]
  simp [Scope.extended, Scope.withFields, Table.entry]

/-- The records behind the joins are composed of the rows in scope. -/
theorem applyJoins_record (sound : b.Sound p tables) (plain : ∀ a ∈ b.scope.aliases, IsPlain a)
    {out : List Record} (h : p.applyJoins b = .ok out) :
    out = (p.environments tables).map Env.record ∧
      ∀ e ∈ p.environments tables, e.Fits b.scope.aliases := by
  obtain ⟨unnested, unnests, joins⟩ := bind_eq_ok.1 h
  obtain ⟨rfl, fits⟩ := unnests_record sound plain unnests
  have aliases := sound.aliases_eq
  have distinct := sound.distinct
  rw [aliases] at plain distinct
  have simulates : ∀ x ∈ p.joins.zip b.joined, Simulates (fun x : Join × Table => x.1.clause x.2)
      (fun scope x records => joinRecords (scope.extended x.2) x.1 records x.2) x := by
    rintro ⟨j, t⟩ hx
    have ht : t ∈ b.joined := (List.of_mem_zip hx).2
    exact Join.simulates (sound.aliasName_of_mem_zip hx) (plain _ (by simp [List.mem_map_of_mem ht]))
      (sound.rows t (List.mem_cons_of_mem _ ht))
  -- The scope behind the arrays grows by one table with each step of the fold.
  let scope : Scope := ⟨b.first.entry :: p.unnests.map Unnest.entry⟩
  have before : scope.aliases = b.first.aliasName :: p.unnests.map Unnest.aliasName := by
    simp [scope, Scope.aliases, Table.entry, Unnest.entry, Function.comp_def]
  have all : (scope.aliases ++ (p.joins.zip b.joined).map fun x => (x.1.clause x.2).entry.1) =
      b.scope.aliases := by
    rw [before, aliases]
    conv_rhs => rw [← sound.map_snd_zip, List.map_map]
    rfl
  rw [← before] at fits
  have stages (i : Nat) (x : Join × Table) (hi : (p.joins.zip b.joined)[i]? = some x)
      (records : List Record) :
      joinRecords (p.joinScope b.scope (0 + i)) x.1 records x.2 =
        joinRecords (Scope.extended ⟨scope.tables ++ ((p.joins.zip b.joined).take i).map
          fun x => (x.1.clause x.2).entry⟩ x.2) x.1 records x.2 := by
    rw [Nat.zero_add, joinScope_eq_extended sound hi]
  have run := foldlM_record simulates stages (by simp [before]) fits
    (all ▸ sound.distinct) joins
  rw [environments_eq sound, ← all]
  exact run

end Plan

end DocQuery
