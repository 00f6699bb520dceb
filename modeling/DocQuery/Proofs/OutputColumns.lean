/-
Module: DocQuery.Proofs.OutputColumns
Purpose: The columns of a select list have names of their own, so that none is lost in the output.
Main exports: ColumnsApart, columnName, outputNames_eq, columnName_ne_of_unnamed,
  ColumnsApart.nodup_columnNames, ColumnsApart.projectRecord_eq, project_columns
-/
import DocQuery.Proofs.Entries
import DocQuery.Proofs.Outcome
import DocQuery.Query.Project
import Mathlib.Data.List.Perm.Subperm
import Mathlib.Data.List.TakeWhile

namespace DocQuery

open Outcome

/-! ### Names of columns

A column without a given name goes by the last component of its field, unless it shares that with
another one.  That no two names are the same is proved for each pair of kinds of columns. -/

/-- The columns of a select list without wildcards can be told apart: no field is selected twice
without a given name, no name is given twice, and a given name is neither the full name nor the last
component of a field that has none. -/
structure ColumnsApart (items : List SelectItem) : Prop where
  single : ∀ item ∈ items, item.isWildcard = false
  references : ((items.filter SelectItem.isUnnamed).map SelectItem.source).Nodup
  given : (items.filterMap fun item => givenAlias? item.aliasName).Nodup
  apart : ∀ name ∈ items.filterMap fun item => givenAlias? item.aliasName,
    ∀ item ∈ items.filter SelectItem.isUnnamed,
      name ≠ item.source ∧ name ≠ lastComponent item.source

/-- Several items without a given name have the last component of this one. -/
def sharesName (items : List SelectItem) (item : SelectItem) : Prop :=
  ((items.filter SelectItem.isUnnamed).map SelectItem.outputName).count item.outputName > 1

instance (items : List SelectItem) (item : SelectItem) : Decidable (sharesName items item) :=
  Nat.decLt _ _

/-- The name under which an item that is no wildcard is put out. -/
def columnName (items : List SelectItem) (item : SelectItem) : String :=
  if item.isUnnamed ∧ sharesName items item then item.source else item.outputName

theorem outputNames_eq {items : List SelectItem}
    (single : ∀ item ∈ items, item.isWildcard = false) :
    outputNames items = items.map fun item => some (columnName items item) := by
  refine List.map_congr_left fun item hitem => ?_
  simp only [single item hitem, columnName, sharesName, Bool.false_eq_true, if_false,
    Bool.and_eq_true, decide_eq_true_eq]
  exact (apply_ite some _ _ _).symm

/-- A last component has no point left in it. -/
theorem lastComponent_lastComponent (name : String) :
    lastComponent (lastComponent name) = lastComponent name := by
  simp [lastComponent, List.takeWhile_idem]

section

variable {items : List SelectItem} {a b : SelectItem}

theorem outputName_of_unnamed (h : a.isUnnamed = true) : a.outputName = lastComponent a.source := by
  simp only [SelectItem.isUnnamed, Bool.and_eq_true, Option.isNone_iff_eq_none] at h
  rw [SelectItem.outputName, h.2, Option.getD_none]

/-- Two items that have one last component share it. -/
theorem sharesName_of_two (ha : a ∈ items.filter SelectItem.isUnnamed)
    (hb : b ∈ items.filter SelectItem.isUnnamed) (different : a.source ≠ b.source)
    (same : a.outputName = b.outputName) : sharesName items a := by
  have distinct : [a, b].Nodup := by
    simpa using fun h : a = b => different (congrArg SelectItem.source h)
  have both : [a, b].Subperm (items.filter SelectItem.isUnnamed) :=
    List.subperm_of_subset distinct (by simp [ha, hb])
  have counted := both.countP_le fun item => item.outputName == a.outputName
  have two : [a, b].countP (fun item => item.outputName == a.outputName) = 2 := by
    simp [same]
  rw [sharesName, List.count_eq_countP, List.countP_map]
  exact Nat.lt_of_lt_of_le Nat.one_lt_two (two ▸ counted)

/-- Items without a given name that select different fields are put out under different names.  A
full name is no other item's last component: it would have no point in it, and be its own last
component. -/
theorem columnName_ne_of_unnamed (ha : a ∈ items.filter SelectItem.isUnnamed)
    (hb : b ∈ items.filter SelectItem.isUnnamed) (different : a.source ≠ b.source) :
    columnName items a ≠ columnName items b := by
  have unnamed := (List.mem_filter.1 ha).2
  have unnamed' := (List.mem_filter.1 hb).2
  have last := outputName_of_unnamed unnamed
  have last' := outputName_of_unnamed unnamed'
  simp only [columnName, unnamed, unnamed', true_and]
  intro same
  split at same <;> rename_i shares <;> split at same <;> rename_i shares'
  · exact different same
  · have component : a.outputName = b.outputName := by
      rw [last, same, last', lastComponent_lastComponent]
    exact shares' (sharesName_of_two hb ha different.symm component.symm)
  · have component : b.outputName = a.outputName := by
      rw [last', ← same, last, lastComponent_lastComponent]
    exact shares (sharesName_of_two ha hb different component.symm)
  · exact shares (sharesName_of_two ha hb different same)

theorem columnName_of_given {name : String} (h : givenAlias? a.aliasName = some name) :
    columnName items a = name := by
  simp [columnName, SelectItem.isUnnamed, SelectItem.outputName, h]

theorem columnName_of_unnamed (items : List SelectItem) (h : a.isUnnamed = true) :
    columnName items a = a.source ∨ columnName items a = lastComponent a.source := by
  rw [columnName, outputName_of_unnamed h]
  split
  · exact .inl rfl
  · exact .inr rfl

namespace ColumnsApart

/-- An item without a given name is one of those that are compared with each other. -/
theorem mem_unnamed (h : ColumnsApart items) (ha : a ∈ items)
    (notGiven : givenAlias? a.aliasName = none) : a ∈ items.filter SelectItem.isUnnamed := by
  simp [ha, SelectItem.isUnnamed, h.single a ha, notGiven]

/-- A given name is not the one under which an item without one is put out. -/
theorem ne_columnName (h : ColumnsApart items) (ha : a ∈ items) (hb : b ∈ items) {name : String}
    (given : givenAlias? a.aliasName = some name) (notGiven : givenAlias? b.aliasName = none) :
    name ≠ columnName items b := by
  have unnamed := h.mem_unnamed hb notGiven
  obtain ⟨full, component⟩ := h.apart name (List.mem_filterMap.2 ⟨a, ha, given⟩) b unnamed
  rcases columnName_of_unnamed items (List.mem_filter.1 unnamed).2 with same | same
  · rwa [same]
  · rwa [same]

theorem nodup_columnNames (h : ColumnsApart items) : (items.map (columnName items)).Nodup := by
  have references := List.pairwise_filter.1 (List.pairwise_map.1 h.references)
  have given := List.pairwise_filterMap.1 h.given
  refine List.pairwise_map.2 ((references.and given).imp_of_mem fun {a b} ha hb differ => ?_)
  obtain ⟨differ, differ'⟩ := differ
  cases first : givenAlias? a.aliasName with
  | some name =>
      rw [columnName_of_given first]
      cases second : givenAlias? b.aliasName with
      | some name' =>
          rw [columnName_of_given second]
          exact differ' name first name' second
      | none => exact h.ne_columnName ha hb first second
  | none =>
      cases second : givenAlias? b.aliasName with
      | some name' =>
          rw [columnName_of_given second]
          exact (h.ne_columnName hb ha second first).symm
      | none =>
          have unnamed := h.mem_unnamed ha first
          have unnamed' := h.mem_unnamed hb second
          exact columnName_ne_of_unnamed unnamed unnamed'
            (differ (List.mem_filter.1 unnamed).2 (List.mem_filter.1 unnamed').2)

end ColumnsApart

/-! ### The output record

The columns are set one after the other.  With names of their own, none of them overwrites
another. -/

/-- The columns of a select list are set one after the other. -/
theorem foldlM_projectItem {scope : Scope} {r : Record} (name : SelectItem → String)
    {values : List Value}
    (resolved : List.Forall₂ (fun item v => scope.resolve r item.source = .ok v) items values)
    (fields : Row) :
    (items.zip (items.map fun item => some (name item))).foldlM
        (fun fields (item, name) => projectItem scope r fields item name) fields =
      .ok (Keyed.update fields ((items.map name).zip values)) := by
  induction resolved generalizing fields with
  | nil => rfl
  | @cons item v items values found _ ih =>
      have set : projectItem scope r fields item (some (name item)) =
          .ok (Keyed.put (name item) v fields) := by
        rw [projectItem, found, ok_bind]
        rfl
      rw [List.map_cons, List.zip_cons_cons, List.foldlM_cons]
      exact bind_eq_ok.2 ⟨_, set, ih _⟩

/-- The output of columns that can be told apart has a field for each of them, in their order. -/
theorem ColumnsApart.projectRecord_eq (h : ColumnsApart items) {scope : Scope} {r : Record}
    {values : List Value}
    (resolved : List.Forall₂ (fun item v => scope.resolve r item.source = .ok v) items values) :
    ∃ aliasName, projectRecord scope items r =
      .ok ⟨(items.map (columnName items)).zip values, aliasName⟩ := by
  have keys : Keyed.keys ((items.map (columnName items)).zip values) =
      items.map (columnName items) := by
    rw [Keyed.keys, List.map_fst_zip]
    simp [resolved.length_eq]
  have gathered : Keyed.update [] ((items.map (columnName items)).zip values) = _ :=
    Keyed.ofList_of_nodup (keys.symm ▸ h.nodup_columnNames)
  have folded := foldlM_projectItem (columnName items) resolved []
  rw [gathered, ← outputNames_eq h.single] at folded
  exact ⟨_, bind_eq_ok.2 ⟨_, folded, rfl⟩⟩

/-- Columns that can be told apart have different names.  So on a record in which all of them can be
found, none is lost: the output has exactly their names, in the order of the select list, and under
each of them what the column refers to. -/
theorem project_columns (h : ColumnsApart items) :
    (outputNames items).Nodup ∧ ∀ scope r,
      (∀ item ∈ items, ∃ v, scope.resolve r item.source = .ok v) →
        ∃ output, project scope items r = .ok ⟨output, r⟩ ∧
          (Keyed.keys output.fields).map some = outputNames items ∧
          List.Forall₂ (fun item field => scope.resolve r item.source = .ok field.2) items
            output.fields ∧
          ∀ p : Projected, p.output = r → projectAgain scope items p = .ok ⟨output, p.source⟩ := by
  have names := outputNames_eq h.single
  refine ⟨?_, fun scope r resolves => ?_⟩
  · have named := h.nodup_columnNames.map fun _ _ => Option.some.inj
    rw [List.map_map] at named
    exact names ▸ named
  · obtain ⟨values, mapped⟩ := exists_mapM_eq_ok resolves
    have resolved := mapM_eq_ok_iff.1 mapped
    obtain ⟨aliasName, projected⟩ := h.projectRecord_eq resolved
    have length : items.length = values.length := resolved.length_eq
    refine ⟨⟨(items.map (columnName items)).zip values, aliasName⟩, ?_, ?_, ?_, ?_⟩
    · rw [project, projected, ok_bind]
      rfl
    · rw [names, Keyed.keys, List.map_fst_zip (by simp [length]), List.map_map]
      rfl
    · have second : ((items.map (columnName items)).zip values).map Prod.snd = values :=
        List.map_snd_zip (by simp [length])
      have each := resolved
      rw [← second, List.forall₂_map_right_iff] at each
      exact each
    · rintro p rfl
      rw [projectAgain, projected, ok_bind]
      rfl

end

/-- Two identifiers share their last component and keep their full names, a third column goes by its
last component, and a fourth has a name of its own. -/
theorem project_columns_shop :
    let items : List SelectItem :=
      [⟨"o.id", none⟩, ⟨"p.id", none⟩, ⟨"p.name", none⟩, ⟨"o.qty", some "count"⟩]
    let scope : Scope := ⟨[("o", ["id", "qty"]), ("p", ["id", "name"])]⟩
    let r : Record := ⟨[("o.id", .int 7), ("o.qty", .int 2), ("p.id", .int 1),
      ("p.name", .string "Widget")], none⟩
    ColumnsApart items ∧ (∀ item ∈ items, ∃ v, scope.resolve r item.source = .ok v) ∧
      ∃ output, project scope items r = .ok ⟨output, r⟩ ∧
        Keyed.keys output.fields = ["o.id", "p.id", "name", "count"] := by
  intro items scope r
  have apart : ColumnsApart items := ⟨by decide, by decide, by decide, by decide⟩
  have resolves : ∀ item ∈ items, ∃ v, scope.resolve r item.source = .ok v := by
    simp only [items, List.forall_mem_cons]
    exact ⟨⟨.int 7, rfl⟩, ⟨.int 1, rfl⟩, ⟨.string "Widget", rfl⟩, ⟨.int 2, rfl⟩,
      List.forall_mem_nil _⟩
  obtain ⟨output, projected, keys, _⟩ := (project_columns apart).2 scope r resolves
  refine ⟨apart, resolves, output, projected, ?_⟩
  have named : outputNames items = ["o.id", "p.id", "name", "count"].map some := by decide
  exact List.map_injective_iff.2 (fun _ _ => Option.some.inj) (keys.trans named)

end DocQuery
