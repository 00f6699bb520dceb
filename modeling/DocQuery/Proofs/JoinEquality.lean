/-
Module: DocQuery.Proofs.JoinEquality
Purpose: When a join takes two values for equal that a comparison takes for equal, and how many rows
  an inner join has.
Main exports: Value.respelled, Value.joins_eq, joins_eq_equal_iff, joinRecords_inner,
  joins_agreement, joins_ne_equal
-/
import DocQuery.Proofs.CanonicalText
import DocQuery.Proofs.Environment
import DocQuery.Condition.Eval
import Mathlib.Data.List.ProdSigma

namespace DocQuery

open Outcome

namespace Value

/-! ### Equality of keys and equality of values

The two agree on scalars but for not-a-number, and differ on arrays and objects, for which a key is
a text.  The cases in which they differ are named, and the rest of the module counts them. -/

/-- Not-a-number. -/
def isNan : Value → Bool
  | .number n => n.isNan
  | _ => false

/-- Two values that are not-a-number. -/
def bothNan (x y : Value) : Bool :=
  x.isNan && y.isNan

/-- Equal arrays or objects that are not identical: something inside is written in two ways. -/
def respelled (x y : Value) : Bool :=
  x.equal y && !x.type.isScalar && !x.identical y

/-- Identical arrays and objects are equal. -/
theorem equal_of_identical {x y : Value} (h : x.identical y = true)
    (nested : x.type.isScalar = false) : x.equal y = true := by
  have same := sameContent_of_identical x y h
  cases x <;> cases y <;> simp_all [type, ValueType.isScalar, equal, identical]

/-- Not-a-number equals nothing. -/
theorem not_equal_of_isNan {x y : Value} (h : x.isNan = true) : x.equal y = false := by
  cases x <;> cases y <;> simp_all [isNan, equal, Number.equal, Number.compare?, Number.isNan_iff]

/-- It does not matter for a join on which side a value stands. -/
theorem joins_comm (x y : Value) : x.joins y = y.joins x := by
  unfold joins
  cases x.joinKey? with
  | none => cases y.joinKey? <;> rfl
  | some k =>
      cases y.joinKey? with
      | none => rfl
      | some l =>
          rw [Bool.eq_iff_iff]
          exact ⟨JoinKey.same_symm, JoinKey.same_symm⟩

/-- A join takes arrays and objects for equal exactly if they are identical. -/
theorem joins_nested {x y : Value} (hx : x.WellFormed) (hy : y.WellFormed)
    (nested : x.type.isScalar = false) : x.joins y = x.identical y := by
  have texts := Json.canonicalText_eq_iff hx hy
  rw [joins_comm, Bool.eq_iff_iff]
  cases x <;> cases y <;>
    simp_all [type, ValueType.isScalar, joins, joinKey?, JoinKey.same, identical]

/-- A join takes scalars for equal exactly if they are equal or both not-a-number. -/
theorem joins_scalar {x y : Value} (scalar : x.type.isScalar = true) :
    x.joins y = (x.equal y || x.bothNan y) := by
  rw [joins_comm, Bool.eq_iff_iff]
  cases x <;> cases y <;>
    simp_all [type, ValueType.isScalar, joins, joinKey?, JoinKey.same, bothNan, isNan, equal,
      Number.same]

/-- A join takes values for equal that a comparison takes for equal, except for arrays and objects
in which something is written in two ways; and it takes not-a-number for itself. -/
theorem joins_eq {x y : Value} (hx : x.WellFormed) (hy : y.WellFormed) :
    x.joins y = (x.bothNan y || x.equal y && !x.respelled y) := by
  cases scalar : x.type.isScalar with
  | true => simp [joins_scalar scalar, respelled, scalar, Bool.or_comm]
  | false =>
      have number : x.bothNan y = false := by
        cases x <;> simp_all [type, ValueType.isScalar, bothNan, isNan]
      have spelled : x.identical y = true → x.equal y = true :=
        fun h => equal_of_identical h scalar
      rw [joins_nested hx hy scalar, number, respelled, scalar]
      revert spelled
      cases x.identical y <;> cases x.equal y <;> simp

/-- Values that are not-a-number are not equal, and respelled ones are. -/
theorem equal_cases (x y : Value) :
    (x.bothNan y = true → x.equal y = false) ∧ (x.respelled y = true → x.equal y = true) := by
  constructor
  · intro h
    exact not_equal_of_isNan (Bool.and_eq_true_iff.1 h).1
  · intro h
    simp only [respelled, Bool.and_eq_true] at h
    exact h.1.1

/-- A join and a comparison agree on two values exactly if these are not both not-a-number, and not
equal arrays or objects in which something is written in two ways. -/
theorem joins_eq_equal_iff {x y : Value} (hx : x.WellFormed) (hy : y.WellFormed) :
    x.joins y = x.equal y ↔ x.bothNan y = false ∧ x.respelled y = false := by
  rw [joins_eq hx hy]
  have cases := equal_cases x y
  revert cases
  cases x.bothNan y <;> cases x.respelled y <;> cases x.equal y <;> simp

/-- The number one, written with a fraction. -/
def fractionOne : Value :=
  .number (.float (.finite false ⟨1023, by decide⟩ ⟨0, by decide⟩))

/-- Arrays in which a number is written in two ways are equal, but not for a join. -/
theorem joins_ne_equal :
    ¬ ∀ x y : Value, x.WellFormed → y.WellFormed → x.joins y = x.equal y := by
  intro agree
  have hx : (Value.array [.int 1]).WellFormed := by
    simp [WellFormed, AllWellFormed, int]
  have hy : (Value.array [fractionOne]).WellFormed := by
    simp [WellFormed, AllWellFormed, fractionOne]
  have same := (joins_eq_equal_iff hx hy).1 (agree _ _ hx hy)
  revert same
  decide

/-! ### Pairs of values

The pairs on which the two tests differ are respelled ones, which only the comparison takes for
equal, and those of not-a-number, which only the join does.  Counting adds this up over a list of
pairs. -/

/-- Among pairs of values, those that a join takes for equal are as many as those that a comparison
takes for equal, less those that are respelled and more those that are not-a-number. -/
theorem count_joins {pairs : List (Value × Value)}
    (wellFormed : ∀ p ∈ pairs, p.1.WellFormed ∧ p.2.WellFormed) :
    pairs.countP (fun p => p.1.joins p.2) + pairs.countP (fun p => p.1.respelled p.2) =
      pairs.countP (fun p => p.1.equal p.2) + pairs.countP (fun p => p.1.bothNan p.2) := by
  induction pairs with
  | nil => rfl
  | cons p pairs ih =>
      obtain ⟨hx, hy⟩ := wellFormed p List.mem_cons_self
      have rest := ih fun p hp => wellFormed p (List.mem_cons_of_mem _ hp)
      have here : (if p.1.joins p.2 then 1 else 0) + (if p.1.respelled p.2 then 1 else 0) =
          (if p.1.equal p.2 then 1 else 0) + (if p.1.bothNan p.2 then 1 else 0) := by
        rw [joins_eq hx hy]
        have cases := equal_cases p.1 p.2
        revert cases
        cases p.1.bothNan p.2 <;> cases p.1.respelled p.2 <;> cases p.1.equal p.2 <;> simp
      simp only [List.countP_cons]
      omega

/-! ### Parts of well-formed values

Keys are only compared for values without repeated names, and reading a field does not leave
these. -/

/-- What a value holds under a name is well-formed if all it holds is. -/
theorem wellFormed_get? {fields : List (String × Value)} (h : FieldsWellFormed fields)
    (key : String) : ((Keyed.get? key fields).getD .null).WellFormed := by
  cases found : Keyed.get? key fields with
  | none => trivial
  | some v => exact fieldsWellFormed_iff.1 h _ (Keyed.mem_of_get? found)

/-- Whatever lies inside a well-formed value is well-formed. -/
theorem wellFormed_descend {path : List String} {v w : Value} (wellFormed : v.WellFormed)
    (h : v.descend path = .ok w) : w.WellFormed := by
  induction path generalizing v with
  | nil =>
      cases h
      exact wellFormed
  | cons part path ih =>
      cases v with
      | object fields => exact ih (wellFormed_get? wellFormed.2 part) h
      | array items =>
          rw [descend] at h
          split at h
          · cases h
          · cases h
            trivial
          · split at h
            · rename_i item found
              exact ih (allWellFormed_iff.1 wellFormed item (List.mem_of_getElem? found)) h
            · cases h
              trivial
      | null | bool _ | number _ | string _ =>
          cases h
          trivial

end Value

/-! ### Pairs of records

An inner join puts out one record for each pair that it relates.  So its length is a count over
pairs, and can be compared with the count of those for which the condition holds. -/

/-- The values of all fields of a record are well-formed. -/
def Record.WellFormed (r : Record) : Prop :=
  Value.FieldsWellFormed r.fields

namespace Scope

theorem wellFormed_read (scope : Scope) {r : Record} (wellFormed : r.WellFormed) (ref : String) :
    (scope.read r ref).WellFormed := by
  cases h : scope.resolve r ref with
  | error e => simp [read, h, Except.toOption, Value.WellFormed]
  | ok v =>
      rw [← read_of_resolve h]
      obtain ⟨l, -, h⟩ := bind_eq_ok.1 h
      unfold Location.valueIn at h
      split at h
      · cases h
        trivial
      · refine Value.wellFormed_descend ?_ h
        unfold Record.field
        split
        · split
          · exact Value.wellFormed_get? wellFormed _
          · trivial
        · exact Value.wellFormed_get? wellFormed _

end Scope

/-- The records that an index finds for a value are those with a value that joins it. -/
theorem JoinIndex.partners_eq {scope : Scope} {field : String} {records : List Record}
    {index : JoinIndex} (built : build scope field records = .ok index) (x : Value) :
    (x.joinKey?.map index.find).getD [] =
      records.filter fun r => x.joins (scope.read r field) := by
  have found := find_build (fun r _ _ hv => Scope.read_of_resolve hv) built
  cases key : x.joinKey? with
  | none => simp [Value.joins, key]
  | some k =>
      rw [Option.map_some, Option.getD_some, found]
      refine List.filter_congr fun r _ => ?_
      simp only [Value.joins, key]
      cases (scope.read r field).joinKey? <;> rfl

/-- An inner join gives the partners of a record and nothing else. -/
theorem joinOne_inner (nulls : Record) (index : JoinIndex) (r : Record) (key : Option JoinKey) :
    joinOne .inner nulls index r key = ((key.map index.find).getD []).map r.merge := by
  unfold joinOne
  cases (key.map index.find).getD [] <;> rfl

/-- An inner join merges the pairs of records that its fields relate: those of the first record in
the order of the table, then those of the second record, and so on. -/
theorem joinRecords_inner {scope : Scope} {j : Join} {left out : List Record} {t : Table}
    {fields : String × String} (inner : j.kind = .inner)
    (hj : joinFields scope j.aliasName j.on = .ok fields)
    (h : joinRecords scope j left t = .ok out) :
    out = ((left ×ˢ t.records).filter fun p =>
      (scope.read p.1 fields.1).joins (scope.read p.2 fields.2)).map fun p => p.1.merge p.2 := by
  obtain ⟨fields', hj', h⟩ := bind_eq_ok.1 h
  obtain rfl : fields' = fields := Except.ok.inj (hj'.symm.trans hj)
  obtain ⟨index, built, h⟩ := bind_eq_ok.1 h
  obtain ⟨groups, joined, h⟩ := bind_eq_ok.1 h
  cases h
  have each (r : Record) (group : List Record)
      (hg : (do
        let key := (← scope.resolve r fields'.1).joinKey?
        return joinOne j.kind (nullRecord t) index r key) = Except.ok group) :
      group = (t.records.filter fun s =>
        (scope.read r fields'.1).joins (scope.read s fields'.2)).map r.merge := by
    obtain ⟨v, hv, hg⟩ := bind_eq_ok.1 hg
    cases hg
    rw [Scope.read_of_resolve hv, inner, joinOne_inner, JoinIndex.partners_eq built]
  rw [eq_map_of_mapM joined fun r _ => each r, ← List.flatMap_def]
  simp only [SProd.sprod, List.product]
  rw [List.filter_flatMap, List.map_flatMap]
  simp only [List.filter_map, List.map_map, Function.comp_def]

/-- Equality as a condition. -/
theorem Comparator.holds_eq (x y : Value) : Comparator.eq.holds x y = .ok (x.equal y) := by
  cases x <;> cases y <;> rfl

/-- The values that a join compares, for each pair of records. -/
def comparedPairs (scope : Scope) (fields : String × String) (left right : List Record) :
    List (Value × Value) :=
  (left ×ˢ right).map fun p => (scope.read p.1 fields.1, scope.read p.2 fields.2)

/-- When a join agrees with a comparison.  They agree on two values unless these are both
not-a-number, or arrays or objects that are equal although something in them is written in two ways.
So an inner join has as many rows as there are pairs of records on which the comparison holds, more
those that match as not-a-number, and less those with equal values that are not written alike. -/
theorem joins_agreement {scope : Scope} {j : Join} {left out : List Record} {t : Table}
    {fields : String × String} (inner : j.kind = .inner) (hleft : ∀ r ∈ left, r.WellFormed)
    (hright : ∀ r ∈ t.records, r.WellFormed)
    (hj : joinFields scope j.aliasName j.on = .ok fields)
    (h : joinRecords scope j left t = .ok out) :
    (∀ x y : Value, x.WellFormed → y.WellFormed →
      (x.joins y = x.equal y ↔ x.bothNan y = false ∧ x.respelled y = false)) ∧
    let pairs := comparedPairs scope fields left t.records
    out.length + pairs.countP (fun p => p.1.respelled p.2) =
      pairs.countP (fun p => Comparator.eq.holds p.1 p.2 matches .ok true) +
        pairs.countP fun p => p.1.bothNan p.2 := by
  refine ⟨fun x y => Value.joins_eq_equal_iff, ?_⟩
  intro pairs
  have wellFormed (p : Value × Value) (hp : p ∈ pairs) : p.1.WellFormed ∧ p.2.WellFormed := by
    obtain ⟨⟨l, r⟩, hlr, rfl⟩ := List.mem_map.1 hp
    obtain ⟨hl, hr⟩ := List.mem_product.1 hlr
    exact ⟨scope.wellFormed_read (hleft l hl) _, scope.wellFormed_read (hright r hr) _⟩
  have rows : out.length = pairs.countP fun p => p.1.joins p.2 := by
    rw [joinRecords_inner inner hj h, List.length_map, ← List.countP_eq_length_filter]
    simp only [pairs, comparedPairs, List.countP_map, Function.comp_def]
  simp only [rows, Comparator.holds_eq, Value.count_joins wellFormed]
  congr 1
  refine List.countP_congr fun p _ => ?_
  cases p.1.equal p.2 <;> simp

/-- The table `name` with one row for each value of its only field `k`. -/
def keyTable (name : String) (values : List Value) : Table :=
  ⟨name, values.map fun v => .ofList [("k", v)], none⟩

/-- A number, an array of it and not-a-number on both sides.  The comparison holds of the numbers
and of the arrays, the join relates the numbers and what is not one. -/
theorem joins_agreement_numbers :
    let scope := Scope.ofTables [keyTable "l" [], keyTable "r" []]
    let j : Join := ⟨⟨"r", none⟩, .inner, .compare (.field "l.k") .eq (.field "r.k")⟩
    let left := (keyTable "l" [.int 1, .array [.int 1], .number (.float .nan)]).records
    let t := keyTable "r" [.fractionOne, .array [.fractionOne], .number (.float .nan)]
    let pairs := comparedPairs scope ("l.k", "r.k") left t.records
    ∃ out, joinRecords scope j left t = .ok out ∧ out.length = 2 ∧
      (∀ x y : Value, x.WellFormed → y.WellFormed →
        (x.joins y = x.equal y ↔ x.bothNan y = false ∧ x.respelled y = false)) ∧
      out.length + pairs.countP (fun p => p.1.respelled p.2) =
        pairs.countP (fun p => Comparator.eq.holds p.1 p.2 matches .ok true) +
          pairs.countP fun p => p.1.bothNan p.2 := by
  intro scope j left t pairs
  have hleft (r : Record) (hr : r ∈ left) : r.WellFormed := by
    revert r
    simp [left, keyTable, Table.records, Keyed.ofList, Keyed.update, Keyed.put, Record.WellFormed,
      Value.FieldsWellFormed, Value.WellFormed, Value.AllWellFormed, Value.int]
  have hright (r : Record) (hr : r ∈ t.records) : r.WellFormed := by
    revert r
    simp [t, keyTable, Table.records, Keyed.ofList, Keyed.update, Keyed.put, Record.WellFormed,
      Value.FieldsWellFormed, Value.WellFormed, Value.AllWellFormed, Value.fractionOne]
  have hj : joinFields scope j.aliasName j.on = .ok ("l.k", "r.k") := rfl
  exact ⟨_, rfl, rfl, joins_agreement (j := j) rfl hleft hright hj rfl⟩

end DocQuery
