/-
Module: DocQuery.Proofs.ClauseScopes
Purpose: The scopes that are cut out for the arrays and joins of a plan are those that were built
  while its tables were bound.
Main exports: Plan.bindUnnests_append, Plan.Bound.ClauseScopes, Plan.bind_scopes
-/
import DocQuery.Proofs.EnvironmentJoins

namespace DocQuery

open Outcome

namespace Plan

variable {p : Plan} {tables : Tables} {b : Bound}

/-- Arrays are bound one after the other: the later ones in the scope that the earlier ones leave. -/
theorem bindUnnests_append (aliases : List String) (scope : Scope) (us vs : List Unnest) :
    bindUnnests aliases scope (us ++ vs) =
      bindUnnests aliases scope us >>= fun scope' => bindUnnests aliases scope' vs := by
  induction us generalizing scope with
  | nil => rfl
  | cons u us ih =>
      simp only [List.cons_append, bindUnnests]
      by_cases used : (aliases.contains u.aliasName || scope.isBound u.aliasName) = true
      · rw [if_pos used, if_pos used]
        rfl
      · rw [if_neg used, if_neg used]
        cases located : scope.locate "UNNEST" u.arrayField with
        | error e => rfl
        | ok l => exact ih (scope.withFields u.aliasName [u.column])

/-- What the clauses of a bound plan can refer to. -/
structure Bound.ClauseScopes (p : Plan) (tables : Tables) (b : Bound) : Prop where
  /-- Each table is the one at hand under its alias. -/
  found : List.Forall₂ (fun ref t => Keyed.get? ref.effectiveAlias tables = some t) p.tables
    (b.first :: b.joined)
  aliases : b.scope.aliases = p.table.effectiveAlias ::
    (p.unnests.map Unnest.aliasName ++ p.joins.map Join.aliasName)
  distinct : b.scope.aliases.Nodup
  /-- The scope of an array is the one that binding the arrays before it led to, in which its field
  was located. -/
  unnest : ∀ (i : Nat) (u : Unnest), p.unnests[i]? = some u →
    bindUnnests (p.tables.map TableRef.effectiveAlias) (Scope.ofTables [b.first])
        (p.unnests.take i) = .ok (unnestScope b.scope i) ∧
      ∃ l, (unnestScope b.scope i).locate "UNNEST" u.arrayField = .ok l
  /-- The scope of a join has the first table, all arrays, and the joined tables up to its own, each
  with its field names. -/
  join : ∀ i < p.joins.length, (p.joinScope b.scope i).tables =
    (p.table.effectiveAlias, b.first.fieldNames) ::
      (p.unnests.map (fun u => (u.aliasName, [u.column])) ++
        ((p.joins.zip b.joined).take (i + 1)).map fun (j, t) => (j.aliasName, t.fieldNames))

/-- The joined tables stand in a scope under the aliases of their joins. -/
theorem Bound.Sound.map_entry_joined (sound : b.Sound p tables) :
    b.joined.map Table.entry =
      (p.joins.zip b.joined).map fun (j, t) => (j.aliasName, t.fieldNames) := by
  conv_lhs => rw [← sound.map_snd_zip, List.map_map]
  refine List.map_congr_left fun x hx => ?_
  simp only [Function.comp_apply, Table.entry, sound.aliasName_of_mem_zip hx]

/-- The scope of a join ends with its own table. -/
theorem Bound.Sound.tables_joinScope (sound : b.Sound p tables) {i : Nat}
    (hi : i < p.joins.length) :
    (p.joinScope b.scope i).tables =
      (p.table.effectiveAlias, b.first.fieldNames) ::
        (p.unnests.map (fun u => (u.aliasName, [u.column])) ++
          ((p.joins.zip b.joined).take (i + 1)).map fun (j, t) => (j.aliasName, t.fieldNames)) := by
  have length : b.joined.length = p.joins.length := by
    simpa using congrArg List.length sound.joined
  obtain ⟨t, ht⟩ : ∃ t, b.joined[i]? = some t := ⟨_, List.getElem?_eq_getElem (length ▸ hi)⟩
  have joined : ((p.joins.zip b.joined).take (i + 1)).map
        (fun (j, t) => (j.aliasName, t.fieldNames)) =
      (b.joined.take i).map Table.entry ++ [t.entry] := by
    rw [List.map_take, ← sound.map_entry_joined, ← List.map_take, List.take_add_one, ht]
    simp
  have first : b.first.entry = (p.table.effectiveAlias, b.first.fieldNames) := by
    rw [Table.entry, sound.first]
  rw [joinScope_eq sound ht, joined, first, List.cons_append, List.append_assoc]
  rfl

/-- Where a plan is bound, its names are told apart and stand in clause order, and every clause is
carried out in the scope that it was bound in. -/
theorem bind_scopes {given : Bindings} (h : p.bind given.tables = .ok b) :
    b.ClauseScopes p given.tables := by
  have sound := bind_sound given.wellNamed h
  obtain ⟨ts, looked, h⟩ := bind_eq_ok.1 h
  cases ts with
  | nil => cases h
  | cons first joined =>
      obtain ⟨scope, unnested, h⟩ := bind_eq_ok.1 h
      cases h
      refine ⟨sound.found, ?_, sound.distinct, fun i u hi => ⟨?_, sound.arrays i u hi⟩,
        fun i hi => ?_⟩
      · rw [sound.aliases_eq, sound.first, sound.joined]
      · have within : i ≤ p.unnests.length := (List.getElem?_eq_some_iff.1 hi).1.le
        rw [← List.take_append_drop i p.unnests, bindUnnests_append] at unnested
        obtain ⟨before, arrays, -⟩ := bind_eq_ok.1 unnested
        obtain ⟨entries, -⟩ := bindUnnests_spec arrays
        have same : before = unnestScope (joined.foldl Scope.extended scope) i := by
          rw [unnestScope_eq sound within]
          exact congrArg Scope.mk entries
        rw [arrays, same]
      · exact sound.tables_joinScope hi

/-- The plan of the shop with two arrays, the second one inside the elements of the first. -/
def tagsOfShop : Plan :=
  { Sample.plan with unnests := [⟨"o.tags", "t", "tag"⟩, ⟨"tag.parts", "s", "part"⟩] }

theorem bind_scopes_tags :
    ∃ b, tagsOfShop.bind Sample.bindings.tables = .ok b ∧
      b.ClauseScopes tagsOfShop Sample.bindings.tables := by
  obtain ⟨b, bound⟩ : ∃ b, tagsOfShop.bind Sample.bindings.tables = .ok b := ⟨_, rfl⟩
  exact ⟨b, bound, bind_scopes bound⟩

/-- The second array is looked for before its own name and the products are bound. -/
example : (tagsOfShop.bind Sample.bindings.tables).map
      (fun b => ((unnestScope b.scope 1).aliases, (tagsOfShop.joinScope b.scope 0).aliases)) =
    .ok (["o", "t"], ["o", "t", "s", "p"]) := by rfl

end Plan

end DocQuery
