/-
Module: DocQuery.Proofs.NumberOrder
Purpose: Numbers are in the order of their exact values, but for not-a-number.
Main exports: BinaryFraction.toRat, Number.isNan_iff, Number.compare?_swap, Number.exists_place
-/
import DocQuery.Number.Basic
import Mathlib.Algebra.Order.Field.Rat
import Mathlib.Order.Compare
import Mathlib.Tactic.NormNum.Basic

namespace DocQuery

namespace BinaryFraction

/-- An exact value as a rational number. -/
def toRat (a : BinaryFraction) : ℚ :=
  a.numerator / 2 ^ a.halvings

/-- Cross multiplication tells which of two exact values is the smaller number. -/
theorem compare_eq_lt_iff (a b : BinaryFraction) : a.compare b = .lt ↔ a.toRat < b.toRat := by
  rw [BinaryFraction.compare, compare_lt_iff_lt, toRat, toRat,
    div_lt_div_iff₀ (pow_pos two_pos _) (pow_pos two_pos _)]
  norm_cast

instance : Std.OrientedCmp BinaryFraction.compare where
  eq_swap := Std.OrientedOrd.eq_swap

theorem isLE_compare_iff (a b : BinaryFraction) : (a.compare b).isLE ↔ a.toRat ≤ b.toRat := by
  rw [Ordering.isLE_iff_ne_gt, Std.OrientedCmp.gt_iff_lt, compare_eq_lt_iff, not_lt]

instance : Std.TransCmp BinaryFraction.compare where
  isLE_trans {a b c} hab hbc := by
    rw [isLE_compare_iff] at hab hbc ⊢
    exact hab.trans hbc

end BinaryFraction

namespace Number

instance : Std.TransCmp Place.compare where
  eq_swap {a b} := by
    cases a <;> cases b <;> simp only [Place.compare, Ordering.swap]
    exact Std.OrientedCmp.eq_swap
  isLE_trans {a b c} hab hbc := by
    cases a <;> cases b <;> cases c <;> simp_all [Place.compare]
    exact Std.TransCmp.isLE_trans hab hbc

/-- Only not-a-number lies nowhere. -/
theorem isNan_iff (a : Number) : a.isNan = true ↔ a.place? = none := by
  rcases a with n | (negative | ⟨negative, exponent, fraction⟩ | _) <;> simp [isNan, place?]

theorem compare?_swap (a b : Number) : b.compare? a = (a.compare? b).map Ordering.swap := by
  unfold compare?
  cases a.place? with
  | none => cases b.place? <;> rfl
  | some p =>
      cases b.place? with
      | none => rfl
      | some q => exact congrArg some Std.OrientedCmp.eq_swap

/-- Every other number than not-a-number has a place, by which it is compared. -/
theorem exists_place {a : Number} (h : a.isNan = false) : ∃ p, a.place? = some p := by
  rw [← Option.ne_none_iff_exists', ne_eq, ← isNan_iff, h]
  exact Bool.false_ne_true

theorem compare?_of_place {a b : Number} {p q : Place} (hp : a.place? = some p)
    (hq : b.place? = some q) : a.compare? b = some (p.compare q) := by
  rw [compare?, hp, hq]
  rfl

end Number

end DocQuery
