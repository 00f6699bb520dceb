/-
Module: DocQuery.Proofs.JoinSymmetry
Purpose: It does not matter for a join in which order its condition names the two fields.
Main exports: Condition.fieldsEqual, Scope.IsNowhere, joinFields_swap, joinRecords_swap,
  joinRecords_of_nowhere, joinRecords_comm
-/
import DocQuery.Proofs.NestedLoop

namespace DocQuery

open Outcome

/-- The condition that two fields are equal. -/
def Condition.fieldsEqual (first second : String) : Condition :=
  .compare (.field first) .eq (.field second)

/-! ### References to no table

A field that no table has is not refused in a join condition; it is null in every record. -/

/-- A field of a join condition that no table has. -/
def Scope.IsNowhere (scope : Scope) (ref : String) : Prop :=
  ∃ l, scope.locate joinClause ref = .ok l ∧ l.aliasName = none

/-- A field that no table has is null in every record. -/
theorem Scope.IsNowhere.resolve {scope : Scope} {ref : String} (h : scope.IsNowhere ref)
    (r : Record) : scope.resolve r ref = .ok .null := by
  obtain ⟨l, located, nowhere⟩ := h
  rw [Scope.resolve, locate_clause located, ok_bind, Location.valueIn, nowhere]

theorem ofLocation_eq_none_iff {aliasName : String} {l : Location} :
    JoinSide.ofLocation aliasName l = none ↔ l.aliasName = none :=
  Option.map_eq_none_iff

/-! ### The fields that a join compares

Which field is on which side is decided by where the two are located, not by where they stand.  Only
if both are located nowhere does the order in which they are named decide. -/

variable {scope : Scope} {aliasName first second : String} {fields : String × String}
  {table : TableRef} {kind : JoinKind} {left out : List Record} {right : Table}

/-- Two fields are on different sides of a join in whichever order they are named.  Only two fields
that no table has are taken in the order in which they are named. -/
theorem joinFields_swap
    (h : joinFields scope aliasName (.fieldsEqual first second) = .ok fields) :
    joinFields scope aliasName (.fieldsEqual second first) = .ok fields ∨
      (fields = (first, second) ∧
        joinFields scope aliasName (.fieldsEqual second first) = .ok (second, first) ∧
        scope.IsNowhere first ∧ scope.IsNowhere second) := by
  simp only [Condition.fieldsEqual, joinFields] at h ⊢
  obtain ⟨l₁, located₁, h⟩ := bind_eq_ok.1 h
  obtain ⟨l₂, located₂, h⟩ := bind_eq_ok.1 h
  rw [located₁, located₂, ok_bind, ok_bind]
  have nowhere₁ (none₁ : JoinSide.ofLocation aliasName l₁ = none) : scope.IsNowhere first :=
    ⟨l₁, located₁, ofLocation_eq_none_iff.1 none₁⟩
  have nowhere₂ (none₂ : JoinSide.ofLocation aliasName l₂ = none) : scope.IsNowhere second :=
    ⟨l₂, located₂, ofLocation_eq_none_iff.1 none₂⟩
  generalize JoinSide.ofLocation aliasName l₁ = side₁ at h nowhere₁ ⊢
  generalize JoinSide.ofLocation aliasName l₂ = side₂ at h nowhere₂ ⊢
  rcases side₁ with _ | (_ | _) <;> rcases side₂ with _ | (_ | _) <;>
    simp_all [JoinSide.opposite]

/-- The fields that are compared are those that the condition names. -/
theorem joinFields_named
    (h : joinFields scope aliasName (.fieldsEqual first second) = .ok fields) :
    fields = (first, second) ∨ fields = (second, first) := by
  simp only [Condition.fieldsEqual, joinFields] at h
  obtain ⟨l₁, -, h⟩ := bind_eq_ok.1 h
  obtain ⟨l₂, -, h⟩ := bind_eq_ok.1 h
  split at h
  · exact .inl (Except.ok.inj h).symm
  · exact .inl (Except.ok.inj h).symm
  · exact .inr (Except.ok.inj h).symm
  · cases h

/-- Two fields that no table has are compared in the order in which they are named. -/
theorem joinFields_of_nowhere (none₁ : scope.IsNowhere first) (none₂ : scope.IsNowhere second) :
    joinFields scope aliasName (.fieldsEqual first second) = .ok (first, second) := by
  obtain ⟨l₁, located₁, points₁⟩ := none₁
  obtain ⟨l₂, located₂, points₂⟩ := none₂
  rw [Condition.fieldsEqual, joinFields, located₁, located₂, ok_bind, ok_bind,
    ofLocation_eq_none_iff.2 points₁, ofLocation_eq_none_iff.2 points₂]
  rfl

/-! ### Joining

A join depends on the values of its two fields and on nothing else about them. -/

/-- A join reads nothing but the values of its fields. -/
theorem joinWith_congr {other : String × String}
    (hleft : ∀ r, scope.resolve r fields.1 = scope.resolve r other.1)
    (hright : ∀ r, scope.resolve r fields.2 = scope.resolve r other.2) :
    joinWith scope kind fields left right = joinWith scope kind other left right := by
  have gathered : JoinIndex.gather scope fields.2 = JoinIndex.gather scope other.2 := by
    funext index r
    rw [JoinIndex.gather, JoinIndex.gather, hright r]
  simp only [joinWith, JoinIndex.build, gathered, hleft]

/-- Once the fields of a join are told apart, naming them the other way round gives the same. -/
theorem joinRecords_swap
    (h : joinFields scope table.effectiveAlias (.fieldsEqual first second) = .ok fields) :
    joinRecords scope ⟨table, kind, .fieldsEqual second first⟩ left right =
      joinRecords scope ⟨table, kind, .fieldsEqual first second⟩ left right := by
  have here : joinFields scope (Join.aliasName ⟨table, kind, .fieldsEqual first second⟩)
      (.fieldsEqual first second) = .ok fields := h
  rw [joinRecords, joinRecords, here, ok_bind]
  rcases joinFields_swap h with same | ⟨rfl, turned, none₁, none₂⟩
  · have there : joinFields scope (Join.aliasName ⟨table, kind, .fieldsEqual second first⟩)
        (.fieldsEqual second first) = .ok fields := same
    rw [there, ok_bind]
  · have there : joinFields scope (Join.aliasName ⟨table, kind, .fieldsEqual second first⟩)
        (.fieldsEqual second first) = .ok (second, first) := turned
    rw [there, ok_bind]
    -- the two fields differ here, but both are null everywhere
    exact joinWith_congr (fun r => (none₂.resolve r).trans (none₁.resolve r).symm)
      fun r => (none₁.resolve r).trans (none₂.resolve r).symm

theorem joinRecords_turned
    (h : joinRecords scope ⟨table, kind, .fieldsEqual first second⟩ left right = .ok out) :
    joinRecords scope ⟨table, kind, .fieldsEqual second first⟩ left right = .ok out := by
  obtain ⟨fields, told, -⟩ := bind_eq_ok.1 h
  exact (joinRecords_swap told).trans h

/-! ### Fields that no table has

Here the order does decide, but every value is null, and null has no partner.  So the answers agree
although the fields that are compared differ. -/

/-- What comes of a record without a partner: nothing, or in a left join the record merged with
nulls. -/
def JoinKind.unmatched (kind : JoinKind) (right : Table) (l : Record) : List Record :=
  match kind with
  | .inner => []
  | .left => [l.merge (nullRecord right)]

/-- Where no row of the table has the key of a record, it has no partner. -/
theorem joinOne_of_no_partner {index : JoinIndex} {field : String}
    (built : JoinIndex.build scope field right.records = .ok index) {v : Value} (l : Record)
    (h : ∀ r ∈ right.records, v.joins (scope.read r field) = false) :
    joinOne kind (nullRecord right) index l v.joinKey? = kind.unmatched right l := by
  have none' : right.records.filter (fun r => v.joins (scope.read r field)) = [] :=
    List.filter_eq_nil_iff.2 fun r hr => by simp [h r hr]
  unfold joinOne
  rw [JoinIndex.partners_eq built, none']
  cases kind <;> rfl

/-- If the condition of a join names a field that no table has, no record has a partner. -/
theorem joinRecords_of_nowhere (nowhere : scope.IsNowhere first ∨ scope.IsNowhere second)
    (h : joinRecords scope ⟨table, kind, .fieldsEqual first second⟩ left right = .ok out) :
    out = left.flatMap (kind.unmatched right) := by
  obtain ⟨fields, told, h⟩ := bind_eq_ok.1 h
  obtain ⟨index, built, h⟩ := bind_eq_ok.1 h
  obtain ⟨groups, joined, h⟩ := bind_eq_ok.1 h
  cases h
  have null : scope.IsNowhere fields.1 ∨ scope.IsNowhere fields.2 := by
    rcases joinFields_named told with rfl | rfl
    · exact nowhere
    · exact nowhere.symm
  have apart (l r : Record) : (scope.read l fields.1).joins (scope.read r fields.2) = false := by
    refine Value.joins_of_isNull (null.imp (fun none₁ => ?_) fun none₂ => ?_)
    · rw [← Scope.read_of_resolve (none₁.resolve l)]
      rfl
    · rw [← Scope.read_of_resolve (none₂.resolve r)]
      rfl
  rw [List.flatMap_def, eq_map_of_mapM joined fun l _ group hg => ?_]
  obtain ⟨v, read, hg⟩ := bind_eq_ok.1 hg
  cases hg
  rw [Scope.read_of_resolve read]
  exact joinOne_of_no_partner built l fun r _ => apart l r

/-- A join on two fields that no table has can be carried out. -/
theorem exists_joinRecords_of_nowhere (none₁ : scope.IsNowhere first)
    (none₂ : scope.IsNowhere second) :
    ∃ out, joinRecords scope ⟨table, kind, .fieldsEqual first second⟩ left right = .ok out := by
  have told : joinFields scope (Join.aliasName ⟨table, kind, .fieldsEqual first second⟩)
      (.fieldsEqual first second) = .ok (first, second) := joinFields_of_nowhere none₁ none₂
  obtain ⟨index, built⟩ : ∃ index, JoinIndex.build scope second right.records = .ok index :=
    JoinIndex.exists_build fun r _ => ⟨.null, none₂.resolve r⟩
  obtain ⟨groups, joined⟩ : ∃ groups, left.mapM (fun r => do
      let key := (← scope.resolve r first).joinKey?
      return joinOne kind (nullRecord right) index r key) = Except.ok groups := by
    refine exists_mapM_eq_ok fun l _ => ?_
    rw [none₁.resolve l]
    exact ⟨_, rfl⟩
  rw [joinRecords, told, ok_bind, joinWith, built, ok_bind, joined]
  exact ⟨_, rfl⟩

/-- The condition of a join may name its two fields in either order: either both joins fail, or they
give the same records in the same order, whatever tables the scope has.  If a field is one that no
table has, no record has a partner, and if both are, the join can be carried out. -/
theorem joinRecords_comm (scope : Scope) (table : TableRef) (kind : JoinKind)
    (first second : String) (left : List Record) (right : Table) :
    (∀ out, joinRecords scope ⟨table, kind, .fieldsEqual first second⟩ left right = .ok out ↔
      joinRecords scope ⟨table, kind, .fieldsEqual second first⟩ left right = .ok out) ∧
    (∀ out, scope.IsNowhere first ∨ scope.IsNowhere second →
      joinRecords scope ⟨table, kind, .fieldsEqual first second⟩ left right = .ok out →
      out = left.flatMap (kind.unmatched right)) ∧
    (scope.IsNowhere first → scope.IsNowhere second →
      ∃ out, joinRecords scope ⟨table, kind, .fieldsEqual first second⟩ left right = .ok out) :=
  ⟨fun _ => ⟨joinRecords_turned, joinRecords_turned⟩, fun _ => joinRecords_of_nowhere,
    exists_joinRecords_of_nowhere⟩

/-- Orders joined with products on two fields that neither has: in either order of the condition
every order is kept once, with nulls for the product. -/
theorem joinRecords_comm_missing :
    let scope : Scope := ⟨[("o", ["item"]), ("p", ["id"])]⟩
    let left : List Record := [⟨[("item", .int 1)], some "o"⟩, ⟨[("item", .null)], some "o"⟩]
    let right : Table := ⟨"p", [[("id", .int 1)], [("id", .null)]], none⟩
    scope.IsNowhere "sku" ∧ scope.IsNowhere "code" ∧
      ∃ out,
        joinRecords scope ⟨⟨"p", none⟩, .left, .fieldsEqual "sku" "code"⟩ left right = .ok out ∧
        joinRecords scope ⟨⟨"p", none⟩, .left, .fieldsEqual "code" "sku"⟩ left right = .ok out ∧
        out = left.flatMap (JoinKind.left.unmatched right) ∧ out.length = 2 := by
  intro scope left right
  have sku : scope.IsNowhere "sku" := ⟨⟨none, "sku", []⟩, rfl, rfl⟩
  have code : scope.IsNowhere "code" := ⟨⟨none, "code", []⟩, rfl, rfl⟩
  obtain ⟨turned, unmatched, carried⟩ :=
    joinRecords_comm scope ⟨"p", none⟩ .left "sku" "code" left right
  obtain ⟨out, joined⟩ := carried sku code
  have kept := unmatched out (.inl sku) joined
  exact ⟨sku, code, out, joined, (turned out).1 joined, kept, kept ▸ rfl⟩

end DocQuery
