/-
Module: DocQuery.Proofs.Membership
Purpose: Membership in a list of values is a chain of equalities, and which conditions are opposites
  where no operand is null.
Main exports: Condition.Opposite, Condition.eval_inList, Condition.eval_or_equalities,
  Condition.MembershipLaws, Condition.membershipLaws
-/
import DocQuery.Proofs.ComparisonLaws

namespace DocQuery

open Outcome

namespace Condition

/-- On a record exactly one of two conditions holds. -/
def Opposite (scope : Scope) (r : Record) (c d : Condition) : Prop :=
  ∃ holds, c.eval scope r = .ok holds ∧ d.eval scope r = .ok !holds

section

variable {scope : Scope} {r : Record} {x y : Operand} {a b : Value}

/-! ### Conditions on operands with values

What each condition comes to once the values of its operands are known.  The laws below are then
facts about truth values. -/

theorem eval_compare (hx : x.valueIn scope r = .ok a) (hy : y.valueIn scope r = .ok b)
    (c : Comparator) : (compare x c y).eval scope r = c.holds a b := by
  rw [eval, hx, hy]
  rfl

theorem eval_isNull (hx : x.valueIn scope r = .ok a) (negated : Bool) :
    (isNull x negated).eval scope r = .ok (a.isNull != negated) := by
  rw [eval, hx]
  rfl

theorem eval_inList (hx : x.valueIn scope r = .ok a) (values : List Value) (negated : Bool) :
    (inList x values negated).eval scope r =
      .ok (!a.isNull && values.any a.equal != negated) := by
  rw [eval, hx]
  rfl

/-- Null equals no value. -/
theorem equal_of_isNull (h : a.isNull = true) (v : Value) : a.equal v = false := by
  cases a with
  | null => rfl
  | _ => cases h

/-- A disjunction of equalities holds if one of the values is equal. -/
theorem eval_or_equalities (hx : x.valueIn scope r = .ok a) (values : List Value) :
    (or (values.map fun v => compare x .eq (.literal v))).eval scope r =
      .ok (values.any a.equal) := by
  rw [eval]
  induction values with
  | nil => rfl
  | cons v values ih =>
      have first : (compare x .eq (.literal v)).eval scope r = .ok (a.equal v) := by
        rw [eval_compare hx rfl, Comparator.holds_eq]
      rw [List.map_cons, evalAny, first, ih, List.any_cons]
      cases a.equal v <;> rfl

/-! ### Opposites -/

theorem opposite_compare (hx : x.valueIn scope r = .ok a) (hy : y.valueIn scope r = .ok b)
    (ha : a.isNull = false) (hb : b.isNull = false) :
    Opposite scope r (compare x .eq y) (compare x .ne y) := by
  refine ⟨a.equal b, ?_, ?_⟩
  · rw [eval_compare hx hy, Comparator.holds_eq]
  · rw [eval_compare hx hy, Comparator.holds, ha, hb]
    rfl

theorem opposite_inList (hx : x.valueIn scope r = .ok a) (ha : a.isNull = false)
    (values : List Value) : Opposite scope r (inList x values false) (inList x values true) := by
  refine ⟨values.any a.equal, ?_, ?_⟩
  · rw [eval_inList hx, ha]
    simp
  · rw [eval_inList hx, ha]
    simp

theorem opposite_isNull (hx : x.valueIn scope r = .ok a) :
    Opposite scope r (isNull x false) (isNull x true) := by
  refine ⟨a.isNull, ?_, ?_⟩
  · rw [eval_isNull hx, Bool.bne_false]
  · rw [eval_isNull hx, Bool.bne_true]

end

/-! ### Laws -/

/-- What membership in a list means, and which conditions on two operands are opposites.  The
operands have the values `a` and `b` on a record. -/
structure MembershipLaws (scope : Scope) (r : Record) (x y : Operand) (a b : Value)
    (values : List Value) : Prop where
  /-- Membership is a disjunction of equalities. -/
  member : (inList x values false).eval scope r =
    (or (values.map fun v => compare x .eq (.literal v))).eval scope r
  /-- What is no member is not null either. -/
  notMember : (inList x values true).eval scope r =
    (and [isNull x true, .not (inList x values false)]).eval scope r
  /-- A null in the list decides nothing, negated or not. -/
  nullElement : ∀ negated, (inList x (.null :: values) negated).eval scope r =
    (inList x values negated).eval scope r
  comparison : a.isNull = false → b.isNull = false →
    Opposite scope r (compare x .eq y) (compare x .ne y)
  membership : a.isNull = false → Opposite scope r (inList x values false) (inList x values true)
  /-- Whether an operand is null can be told even then. -/
  nullness : Opposite scope r (isNull x false) (isNull x true)
  /-- Null is neither equal to a value nor different from it. -/
  comparisonNull : a.isNull = true ∨ b.isNull = true →
    ∀ c ∈ [compare x .eq y, compare x .ne y], c.eval scope r = .ok false
  /-- Null is neither a member of a list nor no member of it. -/
  membershipNull : a.isNull = true →
    ∀ c ∈ [inList x values false, inList x values true], c.eval scope r = .ok false

theorem membershipLaws {scope : Scope} {r : Record} {x y : Operand} {a b : Value}
    (hx : x.valueIn scope r = .ok a) (hy : y.valueIn scope r = .ok b) (values : List Value) :
    MembershipLaws scope r x y a b values := by
  constructor
  case member =>
    rw [eval_inList hx, eval_or_equalities hx]
    cases null : a.isNull with
    | false => simp
    | true => simp [equal_of_isNull null]
  case notMember =>
    rw [eval_inList hx, eval, evalAll, eval_isNull hx, evalAll, eval, eval_inList hx]
    cases a.isNull with
    | false => cases values.any a.equal <;> rfl
    | true => rfl
  case nullElement =>
    intro negated
    have other : a.equal .null = false := by cases a <;> rfl
    rw [eval_inList hx, eval_inList hx, List.any_cons, other, Bool.false_or]
  case comparison => exact opposite_compare hx hy
  case membership =>
    intro ha
    exact opposite_inList hx ha values
  case nullness => exact opposite_isNull hx
  case comparisonNull =>
    intro null
    rw [List.forall_mem_cons, List.forall_mem_singleton, eval_compare hx hy, eval_compare hx hy]
    exact ⟨Value.holds_of_isNull rfl null, Value.holds_of_isNull rfl null⟩
  case membershipNull =>
    intro null
    rw [List.forall_mem_cons, List.forall_mem_singleton, eval_inList hx, eval_inList hx, null]
    exact ⟨rfl, rfl⟩

/-- A status that is neither in the list nor null is no member of it, although the list has a
null. -/
theorem membershipLaws_status :
    let r : Record := ⟨[("status", .string "open"), ("size", .number (.float .nan))], some "t"⟩
    let scope : Scope := ⟨[("t", ["status", "size"])]⟩
    let x : Operand := .field "status"
    let values : List Value := [.null, .string "held", .int 1]
    x.valueIn scope r = .ok (.string "open") ∧
      (Operand.field "t.size").valueIn scope r = .ok (.number (.float .nan)) ∧
      (inList x values true).eval scope r = .ok true ∧
      MembershipLaws scope r x (.field "t.size") (.string "open") (.number (.float .nan)) values := by
  intro r scope x values
  have hx : x.valueIn scope r = .ok (.string "open") := rfl
  have hy : (Operand.field "t.size").valueIn scope r = .ok (.number (.float .nan)) := rfl
  exact ⟨hx, hy, rfl, membershipLaws hx hy values⟩

end Condition

end DocQuery
