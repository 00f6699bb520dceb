/-
Module: DocQuery.Proofs.NestedLoop
Purpose: A join through an index gives what comparing every record with every row gives.
Main exports: Join.matching, Join.loopOne, Join.nestedLoop, joinRecords_eq_nestedLoop
-/
import DocQuery.Proofs.EnvironmentJoins
import DocQuery.Proofs.JoinEquality

namespace DocQuery

open Outcome

/-! ### Field names -/

/-- Collecting names one by one, each once, keeps the first occurrence of each. -/
theorem Keyed.distinct_eq_eraseDups (names : List String) :
    Keyed.distinct names = names.eraseDups := by
  unfold Keyed.distinct
  suffices ∀ seen : List String,
      names.foldl (fun seen name => if seen.contains name then seen else seen ++ [name]) seen =
        seen ++ (names.filter fun name => !seen.contains name).eraseDups by
    simpa using this []
  induction names with
  | nil => simp
  | cons name names ih =>
      intro seen
      rw [List.foldl_cons, ih]
      by_cases known : name ∈ seen
      · simp [known]
      · have later : names.filter (fun other => !(seen ++ [name]).contains other) =
            (names.filter fun other => !seen.contains other).filter
              fun other => !other == name := by
          rw [List.filter_filter]
          refine List.filter_congr fun other _ => ?_
          rw [Bool.eq_iff_iff]
          simp [and_comm]
        simp only [List.contains_eq_mem, known, decide_false, Bool.false_eq_true,
          if_false] at later ⊢
        rw [List.filter_cons, later]
        simp [known, List.eraseDups_cons]

/-! ### Comparing every record with every row

The specification: no index, no key that is built once, only pairs. -/

/-- The rows of a joined table as records. -/
def Join.records (j : Join) (rows : List Row) : List Record :=
  rows.map fun row => ⟨row, some j.aliasName⟩

/-- The rows with which a record shares its join key, in table order. -/
def Join.matching (j : Join) (scope : Scope) (fields : String × String) (rows : List Row)
    (l : Record) : List Record :=
  (j.records rows).filter fun r => (scope.read l fields.1).joins (scope.read r fields.2)

/-- Null for every field that any of the rows has, in the order in which they first occur. -/
def Join.nulls (j : Join) (rows : List Row) : Record :=
  ⟨(rows.flatMap Keyed.keys).eraseDups.map fun name =>
    (Record.qualifiedName j.aliasName name, .null), none⟩

/-- What comes of one record: it is merged with each row that shares its key.  Without such a row
nothing comes of it, or in a left join the record itself, merged with nulls. -/
def Join.loopOne (j : Join) (scope : Scope) (fields : String × String) (rows : List Row)
    (l : Record) : List Record :=
  match j.kind, j.matching scope fields rows l with
  | .left, [] => [l.merge (j.nulls rows)]
  | _, partners => partners.map l.merge

/-- What comes of all records, one after the other. -/
def Join.nestedLoop (j : Join) (scope : Scope) (fields : String × String) (left : List Record)
    (rows : List Row) : List Record :=
  left.flatMap (j.loopOne scope fields rows)

/-! ### Joining through an index

The nulls of a left join are collected from all rows, in one reading name by name and in the other
by dropping repetitions. -/

/-- Null has no key, so it shares none. -/
theorem Value.joins_of_isNull {x y : Value} (h : x.isNull = true ∨ y.isNull = true) :
    x.joins y = false := by
  rcases h with h | h
  · cases x <;> simp_all [isNull, joins, joinKey?]
  · cases y <;> cases x <;> simp_all [isNull, joins, joinKey?]

variable {scope : Scope} {j : Join} {left : List Record} {rows : List Row} {name : Option String}
  {fields : String × String}

/-- The record of nulls has the fields of all rows in the order in which they first occur. -/
theorem nullRecord_eq_nulls : nullRecord ⟨j.aliasName, rows, name⟩ = j.nulls rows := by
  have names : Table.fieldNames ⟨j.aliasName, rows, name⟩ = (rows.flatMap Keyed.keys).eraseDups :=
    Keyed.distinct_eq_eraseDups _
  have fields := fields_nullRecord ⟨j.aliasName, rows, name⟩
  rw [Env.qualifiedRow, Table.nullRow, names, List.map_map] at fields
  exact congrArg (Record.mk · none) fields

/-- An index can be built if the key of every record can be read. -/
theorem JoinIndex.exists_build {field : String} {records : List Record}
    (h : ∀ r ∈ records, ∃ v, scope.resolve r field = .ok v) :
    ∃ index, build scope field records = .ok index := by
  refine exists_foldlM_eq_ok (fun r hr index => ?_) []
  obtain ⟨v, hv⟩ := h r hr
  rw [gather, hv, ok_bind]
  cases v.joinKey? with
  | none => exact ⟨_, rfl⟩
  | some key => exact ⟨_, rfl⟩

/-- What comes of one record through the index. -/
theorem joinOne_eq_loopOne {index : JoinIndex}
    (built : JoinIndex.build scope fields.2 (j.records rows) = .ok index) (l : Record) :
    joinOne j.kind (j.nulls rows) index l (scope.read l fields.1).joinKey? =
      j.loopOne scope fields rows l := by
  unfold joinOne Join.loopOne
  rw [JoinIndex.partners_eq built, ← Join.matching]
  cases j.kind <;> cases j.matching scope fields rows l <;> rfl

/-- A join of records with rows is the nested loop over both, in the order of the records and then
of the rows.  In a left join something comes of every record, and null is no key for any. -/
theorem joinRecords_eq_nestedLoop (hj : joinFields scope j.aliasName j.on = .ok fields)
    (hleft : ∀ l ∈ left, ∃ v, scope.resolve l fields.1 = .ok v)
    (hright : ∀ r ∈ j.records rows, ∃ v, scope.resolve r fields.2 = .ok v) :
    joinRecords scope j left ⟨j.aliasName, rows, name⟩ =
        .ok (j.nestedLoop scope fields left rows) ∧
      (j.kind = .left → ∀ l ∈ left, j.loopOne scope fields rows l ≠ []) ∧
      ∀ l r, (scope.read l fields.1).isNull = true ∨ (scope.read r fields.2).isNull = true →
        r ∉ j.matching scope fields rows l := by
  refine ⟨?_, fun kind l _ => ?_, fun l r null partner => ?_⟩
  · obtain ⟨index, built⟩ := JoinIndex.exists_build hright
    have each (l : Record) (hl : l ∈ left) :
        (do
          let key := (← scope.resolve l fields.1).joinKey?
          return joinOne j.kind (nullRecord ⟨j.aliasName, rows, name⟩) index l key) =
          Except.ok (j.loopOne scope fields rows l) := by
      obtain ⟨v, hv⟩ := hleft l hl
      rw [hv, ok_bind, ← joinOne_eq_loopOne built, ← nullRecord_eq_nulls,
        Scope.read_of_resolve hv]
      rfl
    have built' : JoinIndex.build scope fields.2
        (Table.records ⟨j.aliasName, rows, name⟩) = .ok index := built
    rw [joinRecords, hj, ok_bind, joinWith, built', ok_bind, mapM_eq_ok_map each, ok_bind,
      Join.nestedLoop, List.flatMap_def]
    rfl
  · unfold Join.loopOne
    rw [kind]
    cases j.matching scope fields rows l <;> simp
  · have joins := (List.mem_filter.1 partner).2
    rw [Value.joins_of_isNull null] at joins
    cases joins

/-- Three records and three rows: the first record has two partners, one of them with the key
written as `1.0`, the second has no key, and the third no partner. -/
theorem joinRecords_eq_nestedLoop_orders :
    let scope : Scope := ⟨[("o", ["item"]), ("p", ["id", "name"])]⟩
    let j : Join := ⟨⟨"p", none⟩, .left, .compare (.field "id") .eq (.field "o.item")⟩
    let left : List Record :=
      [⟨[("item", .int 1)], some "o"⟩, ⟨[("item", .null)], some "o"⟩, ⟨[("o.item", .int 7)], none⟩]
    let rows : List Row :=
      [[("id", .fractionOne), ("name", .string "W")], [("name", .null)], [("id", .int 1)]]
    joinFields scope j.aliasName j.on = .ok ("o.item", "id") ∧
      (j.nestedLoop scope ("o.item", "id") left rows).length = 4 ∧
      joinRecords scope j left ⟨j.aliasName, rows, none⟩ =
        .ok (j.nestedLoop scope ("o.item", "id") left rows) ∧
      (j.kind = .left → ∀ l ∈ left, j.loopOne scope ("o.item", "id") rows l ≠ []) ∧
      ∀ l r, (scope.read l "o.item").isNull = true ∨ (scope.read r "id").isNull = true →
        r ∉ j.matching scope ("o.item", "id") rows l := by
  intro scope j left rows
  have hleft : ∀ l ∈ left, ∃ v, scope.resolve l "o.item" = .ok v := by
    simp only [left, List.forall_mem_cons]
    exact ⟨⟨_, rfl⟩, ⟨_, rfl⟩, ⟨_, rfl⟩, by simp⟩
  have hright : ∀ r ∈ j.records rows, ∃ v, scope.resolve r "id" = .ok v := by
    simp only [rows, Join.records, List.map_cons, List.map_nil, List.forall_mem_cons]
    exact ⟨⟨_, rfl⟩, ⟨_, rfl⟩, ⟨_, rfl⟩, by simp⟩
  have hj : joinFields scope j.aliasName j.on = .ok ("o.item", "id") := rfl
  exact ⟨hj, rfl, joinRecords_eq_nestedLoop hj hleft hright⟩

end DocQuery
