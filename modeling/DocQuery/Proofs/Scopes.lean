/-
Module: DocQuery.Proofs.Scopes
Purpose: The scope of a query, and the part of it that each clause can refer to.
Main exports: Scope.locate_clause, Scope.subset_take, Plan.Bound.Sound, Plan.bind_sound
-/
import DocQuery.Proofs.Bindings
import DocQuery.Proofs.Outcome

namespace DocQuery

open Outcome

namespace Scope

/-! ### What a reference can mean

A case for each way in which a reference is located or refused, so that proofs about references go
through these instead of the search. -/

/-- A reference that names its table. -/
def Qualifies (scope : Scope) (ref : String) : Prop :=
  refPath ref ≠ [] ∧ refHead ref ∈ scope.aliases

/-- All that a reference can mean in a scope. -/
inductive Meaning (scope : Scope) (clause ref : String) : Except QueryError Location → Prop
  | qualified : scope.Qualifies ref →
      Meaning scope clause ref
        (.ok ⟨some (refHead ref), (refPath ref).headD "", (refPath ref).drop 1⟩)
  | owned (owner : String) : ¬ scope.Qualifies ref → scope.owners (refHead ref) = [owner] →
      Meaning scope clause ref (.ok ⟨some owner, refHead ref, refPath ref⟩)
  | alone (aliasName : String) : ¬ scope.Qualifies ref → scope.owners (refHead ref) = [] →
      scope.aliases = [aliasName] →
      Meaning scope clause ref (.ok ⟨some aliasName, refHead ref, refPath ref⟩)
  | nowhere : ¬ scope.Qualifies ref → scope.owners (refHead ref) = [] →
      1 < scope.aliases.length → refPath ref = [] →
      Meaning scope clause ref (.ok ⟨none, refHead ref, []⟩)
  | unknown : ¬ scope.Qualifies ref → scope.owners (refHead ref) = [] →
      1 < scope.aliases.length → refPath ref ≠ [] →
      Meaning scope clause ref (.error (.unboundAlias (refHead ref) clause))
  | ambiguous : ¬ scope.Qualifies ref → 1 < (scope.owners (refHead ref)).length →
      Meaning scope clause ref
        (.error (.ambiguousField (refHead ref) (scope.owners (refHead ref))))
  | noTable : ¬ scope.Qualifies ref → scope.owners (refHead ref) = [] → scope.aliases = [] →
      Meaning scope clause ref (.error .noTable)

/-- What a reference is located at is what it means. -/
theorem locate_meaning (scope : Scope) (clause ref : String) :
    Meaning scope clause ref (scope.locate clause ref) := by
  have qualifies : (!(refPath ref).isEmpty && scope.isBound (refHead ref)) = true ↔
      scope.Qualifies ref := by
    simp [Qualifies, isBound]
  rw [locate]
  by_cases named : scope.Qualifies ref
  · rw [if_pos (qualifies.2 named)]
    exact .qualified named
  · rw [if_neg (mt qualifies.1 named)]
    rcases owners : scope.owners (refHead ref) with _ | ⟨owner, _ | ⟨second, more⟩⟩
    · rcases aliases : scope.aliases with _ | ⟨aliasName, _ | ⟨second, more⟩⟩
      · exact .noTable named owners aliases
      · exact .alone aliasName named owners aliases
      · have several : 1 < scope.aliases.length := by
          simp [aliases]
        by_cases short : refPath ref = []
        · have means : Meaning scope clause ref _ := .nowhere named owners several short
          simpa [short] using means
        · have means : Meaning scope clause ref _ := .unknown named owners several short
          simpa [short] using means
    · exact .owned owner named owners
    · have several : 1 < (scope.owners (refHead ref)).length := by
        simp [owners]
      have means : Meaning scope clause ref _ := .ambiguous named several
      simpa [owners] using means

/-- What a reference means does not depend on the clause that it stands in. -/
theorem locate_clause {scope : Scope} {clause ref : String} {l : Location}
    (h : scope.locate clause ref = .ok l) (other : String) : scope.locate other ref = .ok l := by
  have here := scope.locate_meaning clause ref
  have there := scope.locate_meaning other ref
  rw [h] at here
  generalize scope.locate other ref = result at there
  cases here <;> cases there <;> simp_all

theorem mem_aliases_of_owners {scope : Scope} {name aliasName : String}
    (h : aliasName ∈ scope.owners name) : aliasName ∈ scope.aliases :=
  (List.mem_filter.1 h).1

/-- The table that a reference points at is bound. -/
theorem mem_aliases_of_locate {scope : Scope} {clause ref aliasName : String} {l : Location}
    (h : scope.locate clause ref = .ok l) (points : l.aliasName = some aliasName) :
    aliasName ∈ scope.aliases := by
  have means := scope.locate_meaning clause ref
  rw [h] at means
  cases means with
  | qualified named =>
      cases points
      exact named.2
  | owned owner _ owners =>
      cases points
      exact mem_aliases_of_owners (owners ▸ List.mem_singleton_self _)
  | alone only _ _ aliases =>
      cases points
      exact aliases ▸ List.mem_singleton_self _
  | nowhere => cases points

theorem partsText_ne_nil (mark : Char) (s : String) : Text.partsText mark s ≠ [] := by
  suffices ∀ cs : List Char, Text.partsAt mark cs ≠ [] by
    simpa [Text.partsText] using this s.toList
  intro cs
  unfold Text.partsAt Text.partsWhere
  cases cs with
  | nil => simp
  | cons c cs =>
      rw [List.foldr_cons]
      split
      · split <;> simp
      · simp

/-- The source of a row has a sort key that names its table, or that exactly one table has. -/
theorem knownInSource_iff (s : Sorting) (ref : String) :
    s.knownInSource ref = true ↔
      s.scope.Qualifies ref ∨ ∃ owner, s.scope.owners (refHead ref) = [owner] := by
  have back : ((Text.cutText '.' ref).2.any fun rest =>
      rest ≠ "" && s.scope.isBound (refHead ref)) = true ↔ s.scope.Qualifies ref := by
    unfold Qualifies refPath
    cases (Text.cutText '.' ref).2 with
    | none => simp
    | some rest =>
        by_cases empty : rest = ""
        · simp [Option.filter, empty]
        · simp [Option.filter, empty, partsText_ne_nil, isBound]
  have unfolded : s.knownInSource ref = (((Text.cutText '.' ref).2.any fun rest =>
      rest ≠ "" && s.scope.isBound (refHead ref)) ||
        (s.scope.owners (refHead ref)).length == 1) := rfl
  rw [unfolded, Bool.or_eq_true, back, beq_iff_eq, List.length_eq_one_iff]

/-- A sort key that is unknown or ambiguous is not known in the source. -/
theorem knownInSource_of_unlocated {s : Sorting} {clause ref : String} {e : QueryError}
    (h : s.scope.locate clause ref = .error e) : s.knownInSource ref = false := by
  have means := s.scope.locate_meaning clause ref
  rw [h] at means
  rw [Bool.eq_false_iff, ne_eq, knownInSource_iff]
  cases means with
  | unknown unqualified owners => simp [unqualified, owners]
  | ambiguous unqualified several =>
      rintro (qualified | ⟨owner, single⟩)
      · exact unqualified qualified
      · simp [single] at several
  | noTable unqualified owners => simp [unqualified, owners]

/-! ### Parts of a scope

The scope of a clause is cut out by the names of its tables.  Where no name is bound twice, the
names and the positions of tables come to the same. -/

@[simp] theorem aliases_withFields (scope : Scope) (aliasName : String) (names : List String) :
    (scope.withFields aliasName names).aliases = scope.aliases ++ [aliasName] := by
  simp [aliases, withFields]

/-- The fields of a table that is bound once. -/
theorem fieldsOf?_of_mem {scope : Scope} (distinct : scope.aliases.Nodup)
    {entry : String × List String} (h : entry ∈ scope.tables) :
    scope.fieldsOf? entry.1 = some entry.2 := by
  have distinct' : (Keyed.keys scope.tables.reverse).Nodup := by
    rw [Keyed.keys, List.map_reverse]
    exact List.nodup_reverse.2 distinct
  exact Keyed.get?_of_mem distinct' (List.mem_reverse.2 h)

/-- Restricted to the first names of its tables, a scope consists of its first tables. -/
theorem subset_take {scope : Scope} (distinct : scope.aliases.Nodup) (n : Nat) :
    scope.subset (scope.aliases.take n) = ⟨scope.tables.take n⟩ := by
  have wanted (entry : String × List String) (h : entry ∈ scope.tables.take n) :
      entry.1 ∈ scope.aliases.take n := by
    rw [aliases, ← List.map_take]
    exact List.mem_map_of_mem h
  have unwanted (entry : String × List String) (h : entry ∈ scope.tables.drop n) :
      entry.1 ∉ scope.aliases.take n := by
    intro taken
    have dropped : entry.1 ∈ scope.aliases.drop n := by
      rw [aliases, ← List.map_drop]
      exact List.mem_map_of_mem h
    rw [← List.take_append_drop n scope.aliases] at distinct
    exact (List.disjoint_of_nodup_append distinct) taken dropped
  have kept : scope.tables.filter (fun t => (scope.aliases.take n).contains t.1) =
      scope.tables.take n := by
    conv_lhs => rw [← List.take_append_drop n scope.tables, List.filter_append]
    rw [List.filter_eq_self.2 fun entry h => List.contains_iff_mem.2 (wanted entry h),
      List.filter_eq_nil_iff.2 fun entry h => by
        simpa using unwanted entry h, List.append_nil]
  rw [subset, kept]
  congr 1
  conv_rhs => rw [← List.map_id (scope.tables.take n)]
  refine List.map_congr_left fun entry h => ?_
  rw [fieldsOf?_of_mem distinct (List.mem_of_mem_take h)]
  rfl

end Scope

/-! ### What binding the tables of a plan makes sure of

Binding looks up tables, adds arrays and joins to the scope and refuses names that are taken.  The
theorem gathers all that later stages rely on. -/

/-- A table as an entry of a scope. -/
def Table.entry (t : Table) : String × List String :=
  (t.aliasName, t.fieldNames)

/-- The column of an unnested array as an entry of a scope. -/
def Unnest.entry (u : Unnest) : String × List String :=
  (u.aliasName, [u.column])

namespace Plan

/-- The names that a plan binds, in clause order. -/
def boundAliases (p : Plan) : List String :=
  p.table.effectiveAlias :: (p.unnests.map Unnest.aliasName ++ p.joins.map Join.aliasName)

/-- The tables found are those at hand under the aliases of a plan, none of which is used twice. -/
theorem lookUpTables_spec {tables : Tables} {clause : String} {seen : List String}
    {refs : List TableRef} {ts : List Table} (h : lookUpTables tables clause seen refs = .ok ts) :
    List.Forall₂ (fun ref t => Keyed.get? ref.effectiveAlias tables = some t) refs ts ∧
      (refs.map TableRef.effectiveAlias).Nodup ∧
      ∀ ref ∈ refs, ref.effectiveAlias ∉ seen := by
  induction refs generalizing clause seen ts with
  | nil =>
      cases h
      exact ⟨.nil, by simp⟩
  | cons ref refs ih =>
      simp only [lookUpTables] at h
      by_cases used : ref.effectiveAlias ∈ seen
      · simp [used] at h
      · rw [if_neg (by simpa using used)] at h
        cases found : Keyed.get? ref.effectiveAlias tables with
        | none => simp [found] at h
        | some t =>
            rw [found] at h
            obtain ⟨rest, hrest, h⟩ := bind_eq_ok.1 h
            cases h
            obtain ⟨all, distinct, fresh⟩ := ih hrest
            have fresh' (r : TableRef) (hr : r ∈ refs) :
                r.effectiveAlias ∉ seen ∧ r.effectiveAlias ≠ ref.effectiveAlias := by
              simpa [not_or] using fresh r hr
            refine ⟨.cons found all, List.nodup_cons.2 ⟨fun hr => ?_, distinct⟩, ?_⟩
            · obtain ⟨r, hr, same⟩ := List.mem_map.1 hr
              exact (fresh' r hr).2 same
            · intro r hr
              rcases List.mem_cons.1 hr with rfl | hr
              · exact used
              · exact (fresh' r hr).1

/-- The scope of unnested arrays has their columns behind what was bound before, all under new
names, and each array was located among what is bound before it. -/
theorem bindUnnests_spec {aliases : List String} {scope scope' : Scope} {us : List Unnest}
    (h : bindUnnests aliases scope us = .ok scope') :
    scope'.tables = scope.tables ++ us.map Unnest.entry ∧
      (us.map Unnest.aliasName).Nodup ∧
      (∀ u ∈ us, u.aliasName ∉ aliases ∧ u.aliasName ∉ scope.aliases) ∧
      ∀ (i : Nat) (u : Unnest), us[i]? = some u →
        ∃ l, Scope.locate ⟨scope'.tables.take (scope.tables.length + i)⟩ "UNNEST" u.arrayField =
          .ok l := by
  induction us generalizing scope with
  | nil =>
      cases h
      simp
  | cons u us ih =>
      simp only [bindUnnests] at h
      by_cases used : u.aliasName ∈ aliases ∨ u.aliasName ∈ scope.aliases
      · rw [if_pos (by simpa [Scope.isBound] using used)] at h
        cases h
      · rw [if_neg (by simpa [Scope.isBound] using used)] at h
        obtain ⟨l, located, h⟩ := bind_eq_ok.1 h
        obtain ⟨tables, distinct, fresh, arrays⟩ := ih h
        have tables' : scope'.tables = scope.tables ++ (u :: us).map Unnest.entry := by
          simp [tables, Scope.withFields, Unnest.entry]
        -- The later ones are bound in a scope that has `u`, so none of them has its name.
        have behind (v : Unnest) (hv : v ∈ us) :
            v.aliasName ∉ scope.aliases ∧ v.aliasName ≠ u.aliasName := by
          simpa [not_or] using (fresh v hv).2
        refine ⟨tables', ?_, ?_, ?_⟩
        · refine List.nodup_cons.2 ⟨fun hu => ?_, distinct⟩
          obtain ⟨v, hv, same⟩ := List.mem_map.1 hu
          exact (behind v hv).2 same
        · intro v hv
          rcases List.mem_cons.1 hv with rfl | hv
          · exact not_or.1 used
          · exact ⟨(fresh v hv).1, (behind v hv).1⟩
        · intro i v hi
          cases i with
          | zero =>
              cases hi
              exact ⟨l, by simpa [tables'] using located⟩
          | succ i =>
              have later := arrays i v hi
              simpa [Scope.withFields, Nat.add_assoc, Nat.add_comm 1] using later

/-- What binding a plan makes sure of: each table stands under its alias, the scope consists of the
first table, the unnested arrays and the joined tables, no name is bound twice, no row has two
fields of one name, and each array is located among what is bound before it. -/
structure Bound.Sound (p : Plan) (tables : Tables) (b : Bound) : Prop where
  found : List.Forall₂ (fun ref t => Keyed.get? ref.effectiveAlias tables = some t) p.tables
    (b.first :: b.joined)
  first : b.first.aliasName = p.table.effectiveAlias
  joined : b.joined.map Table.aliasName = p.joins.map Join.aliasName
  scope : b.scope.tables =
    b.first.entry :: (p.unnests.map Unnest.entry ++ b.joined.map Table.entry)
  distinct : b.scope.aliases.Nodup
  rows : ∀ t ∈ b.first :: b.joined, ∀ row ∈ t.rows, (Keyed.keys row).Nodup
  arrays (i : Nat) (u : Unnest) : p.unnests[i]? = some u →
    ∃ l, (unnestScope b.scope i).locate "UNNEST" u.arrayField = .ok l

theorem tables_foldl_extended (scope : Scope) (ts : List Table) :
    (ts.foldl Scope.extended scope).tables = scope.tables ++ ts.map Table.entry := by
  induction ts generalizing scope with
  | nil => simp
  | cons t ts ih => simp [ih, Scope.extended, Scope.withFields, Table.entry]

theorem aliasName_of_found {tables : Tables} (named : WellNamed tables) {refs : List TableRef}
    {ts : List Table}
    (h : List.Forall₂ (fun ref t => Keyed.get? ref.effectiveAlias tables = some t) refs ts) :
    ts.map Table.aliasName = refs.map TableRef.effectiveAlias := by
  induction h with
  | nil => rfl
  | cons found _ ih => rw [List.map_cons, List.map_cons, named.aliasName found, ih]

theorem nodup_of_found {tables : Tables} (named : WellNamed tables) {refs : List TableRef}
    {ts : List Table}
    (h : List.Forall₂ (fun ref t => Keyed.get? ref.effectiveAlias tables = some t) refs ts) :
    ∀ t ∈ ts, ∀ row ∈ t.rows, (Keyed.keys row).Nodup := by
  induction h with
  | nil => exact fun t ht => absurd ht List.not_mem_nil
  | cons found _ ih =>
      intro t ht
      rcases List.mem_cons.1 ht with rfl | later
      · exact named.rows found
      · exact ih t later

/-- Binding a plan finds its tables and tells all names apart. -/
theorem bind_sound {p : Plan} {tables : Tables} (named : WellNamed tables) {b : Bound}
    (h : p.bind tables = .ok b) : b.Sound p tables := by
  obtain ⟨ts, looked, h⟩ := bind_eq_ok.1 h
  cases ts with
  | nil => cases h
  | cons first joined =>
      obtain ⟨scope, unnested, h⟩ := bind_eq_ok.1 h
      cases h
      obtain ⟨found, distinct, _⟩ := lookUpTables_spec looked
      obtain ⟨entries, distinct', fresh, arrays⟩ := bindUnnests_spec unnested
      have names := aliasName_of_found named found
      obtain ⟨firstName, joinedNames⟩ := List.cons.inj names
      have joinedNames' : joined.map Table.aliasName = p.joins.map Join.aliasName := by
        rw [joinedNames, List.map_map]
        rfl
      have tables' : (joined.foldl Scope.extended scope).tables =
          first.entry :: (p.unnests.map Unnest.entry ++ joined.map Table.entry) := by
        rw [tables_foldl_extended, entries]
        simp [Scope.ofTables, Table.entry]
      have all : (joined.foldl Scope.extended scope).aliases =
          first.aliasName :: (p.unnests.map Unnest.aliasName ++ joined.map Table.aliasName) := by
        simp [Scope.aliases, tables', Table.entry, Unnest.entry, Function.comp_def]
      have distinctAll : (joined.foldl Scope.extended scope).aliases.Nodup := by
        rw [← names] at distinct fresh
        rw [all]
        -- The arrays stand between the tables, and are told apart from all of them.
        refine List.perm_middle.nodup_iff.1 (List.nodup_append.2 ⟨distinct', distinct, ?_⟩)
        rintro a ha _ ha' rfl
        obtain ⟨u, hu, rfl⟩ := List.mem_map.1 ha
        exact (fresh u hu).1 ha'
      refine ⟨found, firstName, joinedNames', tables', distinctAll, nodup_of_found named found,
        fun i u hi => ?_⟩
      obtain ⟨l, located⟩ := arrays i u hi
      refine ⟨l, ?_⟩
      -- The tables that are joined later stand behind the scope in which the array was located.
      have within : i < p.unnests.length := (List.getElem?_eq_some_iff.1 hi).1
      have same : scope.tables.take (i + 1) =
          (joined.foldl Scope.extended scope).tables.take (i + 1) := by
        rw [tables_foldl_extended, List.take_append_of_le_length]
        simp [entries, Scope.ofTables]
        omega
      rw [unnestScope, Scope.subset_take distinctAll, ← same]
      simpa [Scope.ofTables, Nat.add_comm 1] using located

end Plan

end DocQuery
