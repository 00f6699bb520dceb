/-
Module: DocQuery.Proofs.ComparisonLaws
Purpose: The laws of the six comparisons: equality is an equivalence of the values that are given,
  the others are one strict order of each type that has an order, and numbers are compared exactly.
Main exports: Number.exactValue?, Number.compare?_of_exactValue?, Value.Is, Value.is_iff_accepts,
  ComparisonLaws, Value.comparisonLaws
-/
import DocQuery.Proofs.ContentEquality
import DocQuery.Proofs.Evaluation
import DocQuery.Proofs.Rounding
import DocQuery.Proofs.ValueOrder
import Mathlib.Order.WithBotTop

namespace DocQuery

/-! ### Exact values of numbers

Both kinds of numbers are rational numbers, or infinite.  The comparison works on significands and
scales instead; that it comes to the same is shown through the place of a number. -/

namespace Number

/-- The exact value of a number: a rational number, or plus or minus infinity.  Not-a-number has
none. -/
def exactValue? : Number → Option (WithBotTop ℚ)
  | .integer n => some (.coe n)
  | .float .nan => none
  | .float (.infinite negative) => some (if negative then ⊥ else ⊤)
  | .float (.finite negative exponent fraction) =>
      let magnitude := Binary64.magnitude exponent fraction
      some (.coe (if negative then -magnitude else magnitude))

/-- The exact value at a place. -/
def Place.exactValue : Place → WithBotTop ℚ
  | .belowAll => ⊥
  | .at value => .coe value.toRat
  | .aboveAll => ⊤

theorem Place.compare_eq_lt_iff (p q : Place) :
    p.compare q = .lt ↔ p.exactValue < q.exactValue := by
  cases p <;> cases q <;>
    simp [Place.compare, Place.exactValue, BinaryFraction.compare_eq_lt_iff, bot_lt_iff_ne_bot,
      lt_top_iff_ne_top]

theorem Place.compare_eq_eq_iff (p q : Place) :
    p.compare q = .eq ↔ p.exactValue = q.exactValue := by
  have tied : p.compare q = .eq ↔ ¬ p.compare q = .lt ∧ ¬ p.compare q = .gt := by
    cases p.compare q <;> simp
  rw [tied, Std.OrientedCmp.gt_iff_lt, compare_eq_lt_iff, compare_eq_lt_iff, not_lt, not_lt,
    and_comm, ← le_antisymm_iff]

/-- The significand of a floating-point number, scaled by a power of two, is its exact value. -/
theorem toRat_scaled (m e : ℤ) : (BinaryFraction.mk (m * Int.pow 2 e.toNat) (-e).toNat).toRat =
    m * 2 ^ e := by
  rw [BinaryFraction.toRat, zpow_eq_div 2 e, Int.pow_eq]
  push_cast
  ring

theorem exactValue?_eq (m : Number) : m.exactValue? = m.place?.map Place.exactValue := by
  rcases m with n | (_ | negative | ⟨negative, exponent, fraction⟩)
  · simp [exactValue?, place?, Place.exactValue, BinaryFraction.toRat]
  · rfl
  · cases negative <;> rfl
  · simp only [exactValue?, place?, Option.map_some, Place.exactValue, toRat_scaled,
      Binary64.magnitude]
    cases negative <;> simp

/-- Numbers are compared exactly: neither is rounded to the precision of the other. -/
theorem compare?_of_exactValue? {m n : Number} {a b : WithBotTop ℚ} (hm : m.exactValue? = some a)
    (hn : n.exactValue? = some b) :
    (m.compare? n = some .lt ↔ a < b) ∧ (m.compare? n = some .eq ↔ a = b) := by
  rw [exactValue?_eq, Option.map_eq_some_iff] at hm hn
  obtain ⟨p, hp, rfl⟩ := hm
  obtain ⟨q, hq, rfl⟩ := hn
  rw [compare?_of_place hp hq, Option.some_inj, Option.some_inj]
  exact ⟨Place.compare_eq_lt_iff p q, Place.compare_eq_eq_iff p q⟩

end Number

/-! ### Operators

Three facts carry the rest: null is not compared, two values of one ordered type have exactly one of
three orders, and an operator holds if it accepts that order. -/

/-- The operators that ask for an order. -/
def Comparator.orderings : List Comparator :=
  [.lt, .le, .gt, .ge]

/-- Exactly one of three operators accepts an order. -/
theorem Comparator.existsUnique_accepts (o : Ordering) :
    ∃! c : Comparator, c ∈ [.lt, .eq, .gt] ∧ c.accepts o = true := by
  cases o with
  | lt => exact ⟨.lt, by simp [accepts]⟩
  | eq => exact ⟨.eq, by simp [accepts]⟩
  | gt => exact ⟨.gt, by simp [accepts]⟩

namespace Value

/-- A comparison holds of two values. -/
def Is (x : Value) (c : Comparator) (y : Value) : Prop :=
  c.holds x y = .ok true

/-- Null is not compared. -/
theorem given_of_compare {x y : Value} {o : Ordering} (h : x.compare y = .ok o) :
    (x.isNull || y.isNull) = false := by
  cases compares_iff.1 h <;> rfl

/-- An operator that asks for an order holds of the values that have one that it accepts. -/
theorem holds_of_mem_orderings {x y : Value} {c : Comparator} (asks : c ∈ Comparator.orderings) :
    c.holds x y = .ok ((x.compare y).toOption.any c.accepts) := by
  simp only [Comparator.orderings, List.mem_cons, List.not_mem_nil, or_false] at asks
  cases h : x.compare y with
  | ok o => rcases asks with rfl | rfl | rfl | rfl <;>
      simp [Comparator.holds, given_of_compare h, h, Except.toOption]
  | error fault => rcases asks with rfl | rfl | rfl | rfl <;>
      simp [Comparator.holds, h, Except.toOption]

/-- Equality and order are coherent: two values that can be compared are equal if neither is below
the other. -/
theorem equal_eq_of_compare {x y : Value} {o : Ordering} (hx : x.isNan = false)
    (hy : y.isNan = false) (h : x.compare y = .ok o) : x.equal y = (o == .eq) := by
  cases compares_iff.1 h with
  | strings s t => rw [equal, Bool.eq_iff_iff, beq_iff_eq, beq_iff_eq, compare_eq_iff_eq]
  | numbers m n =>
      obtain ⟨p, hp⟩ := Number.exists_place hx
      obtain ⟨q, hq⟩ := Number.exists_place hy
      rw [equal, Number.equal, Number.compare?_of_place hp hq]
      rfl
  | bools a b => cases a <;> cases b <;> rfl

/-- Of two values that can be compared, an operator holds exactly if it accepts their order. -/
theorem is_iff_accepts {x y : Value} {o : Ordering} (hx : x.isNan = false) (hy : y.isNan = false)
    (h : x.compare y = .ok o) {c : Comparator} (known : c.isSupported = true) :
    x.Is c y ↔ c.accepts o = true := by
  have equal := equal_eq_of_compare hx hy h
  rw [Is]
  cases c with
  | unsupported text => cases known
  | eq | ne => simp [Comparator.holds, Comparator.accepts, given_of_compare h, equal]
  | gt | lt | ge | le =>
      rw [holds_of_mem_orderings (by decide), h, Except.toOption, Option.any_some, Except.ok.injEq]

/-- No operator holds of null. -/
theorem holds_of_isNull {x y : Value} {c : Comparator} (known : c.isSupported = true)
    (null : x.isNull = true ∨ y.isNull = true) : c.holds x y = .ok false := by
  rw [← Bool.or_eq_true] at null
  cases c with
  | unsupported text => cases known
  | eq | ne | gt | lt | ge | le => simp [Comparator.holds, null]

/-- Without an order, no operator that asks for one holds. -/
theorem holds_of_unordered {x y : Value} {c : Comparator} (asks : c ∈ Comparator.orderings)
    (unordered : x.type ≠ y.type ∨ x.type.isOrderable = false) : c.holds x y = .ok false := by
  rw [holds_of_mem_orderings asks]
  cases h : x.compare y with
  | ok o =>
      obtain ⟨same, orderable⟩ := (exists_compare_eq_ok_iff x y).1 ⟨o, h⟩
      rcases unordered with other | not
      · exact absurd same other
      · cases not.symm.trans orderable
  | error fault => rfl

theorem is_eq_iff {x y : Value} : x.Is .eq y ↔ x.equal y = true := by
  rw [Is, Comparator.holds_eq, Except.ok.injEq]

theorem is_lt_iff {x y : Value} : x.Is .lt y ↔ x.compare y = .ok .lt := by
  rw [Is, holds_of_mem_orderings (by decide)]
  cases x.compare y <;> simp [Except.toOption, Comparator.accepts]

/-- What holds of two values of one type that has an order can be read off that order. -/
theorem exists_order {x y : Value} (hx : x.isNan = false) (hy : y.isNan = false)
    (same : x.type = y.type) (orderable : x.type.isOrderable = true) :
    ∃ o : Ordering, ∀ c : Comparator, c.isSupported = true → (x.Is c y ↔ c.accepts o = true) := by
  obtain ⟨o, h⟩ := (exists_compare_eq_ok_iff x y).2 ⟨same, orderable⟩
  exact ⟨o, fun c known => is_iff_accepts hx hy h known⟩

section Ordered

variable {x y : Value} (hx : x.isNan = false) (hy : y.isNan = false) (same : x.type = y.type)
  (orderable : x.type.isOrderable = true)

include hx hy same orderable

/-- Of two values of one type that has an order, one is below the other or they are equal, and never
two of that. -/
theorem existsUnique_is : ∃! c : Comparator, c ∈ [.lt, .eq, .gt] ∧ x.Is c y := by
  obtain ⟨o, holds⟩ := exists_order hx hy same orderable
  have known : ∀ c ∈ [Comparator.lt, .eq, .gt], c.isSupported = true := by decide
  obtain ⟨c, ⟨member, accepted⟩, unique⟩ := Comparator.existsUnique_accepts o
  refine ⟨c, ⟨member, (holds c (known c member)).2 accepted⟩, ?_⟩
  intro d ⟨member', h⟩
  exact unique d ⟨member', (holds d (known d member')).1 h⟩

theorem is_le_iff : x.Is .le y ↔ x.Is .lt y ∨ x.Is .eq y := by
  obtain ⟨o, holds⟩ := exists_order hx hy same orderable
  rw [holds .le rfl, holds .lt rfl, holds .eq rfl]
  cases o <;> decide

theorem is_ge_iff : x.Is .ge y ↔ x.Is .gt y ∨ x.Is .eq y := by
  obtain ⟨o, holds⟩ := exists_order hx hy same orderable
  rw [holds .ge rfl, holds .gt rfl, holds .eq rfl]
  cases o <;> decide

end Ordered

theorem is_lt_trans {x y z : Value} (hx : x.isNan = false) (hy : y.isNan = false)
    (hz : z.isNan = false) (hxy : x.Is .lt y) (hyz : y.Is .lt z) : x.Is .lt z := by
  rw [is_lt_iff] at hxy hyz ⊢
  exact compare_ranks.trans hx hy hz hxy hyz rfl rfl

/-- Comparing two numbers compares their exact values. -/
theorem number_is_iff {m n : Number} {a b : WithBotTop ℚ} (hm : m.exactValue? = some a)
    (hn : n.exactValue? = some b) :
    ((number m).Is .lt (number n) ↔ a < b) ∧ ((number m).Is .eq (number n) ↔ a = b) := by
  obtain ⟨below, tied⟩ := Number.compare?_of_exactValue? hm hn
  constructor
  · rw [is_lt_iff, Value.compare, Except.ok.injEq, ← below]
    cases m.compare? n <;> simp
  · rw [is_eq_iff, equal, Number.equal_iff, tied]

end Value

/-! ### The laws

One structure with a field for each law, so that what holds of the comparisons can be read in one
place. -/

/-- The laws that the comparisons of three values obey. -/
structure ComparisonLaws (x y z : Value) : Prop where
  /-- Each of the six operators has an answer. -/
  decided : ∀ c : Comparator, c.isSupported = true → ∃ holds, c.holds x y = .ok holds
  /-- No operator holds of null. -/
  null : x.isNull = true ∨ y.isNull = true →
    ∀ c : Comparator, c.isSupported = true → c.holds x y = .ok false
  refl : x.isNull = false → x.Is .eq x
  symm : x.Is .eq y → y.Is .eq x
  trans : x.Is .eq y → y.Is .eq z → x.Is .eq z
  trichotomy : x.type = y.type → x.type.isOrderable = true →
    ∃! c : Comparator, c ∈ [.lt, .eq, .gt] ∧ x.Is c y
  le_iff : x.type = y.type → x.type.isOrderable = true → (x.Is .le y ↔ x.Is .lt y ∨ x.Is .eq y)
  ge_iff : x.type = y.type → x.type.isOrderable = true → (x.Is .ge y ↔ x.Is .gt y ∨ x.Is .eq y)
  lt_trans : x.Is .lt y → y.Is .lt z → x.Is .lt z
  /-- Without an order, no operator that asks for one holds. -/
  unordered : x.type ≠ y.type ∨ x.type.isOrderable = false →
    ∀ c ∈ Comparator.orderings, c.holds x y = .ok false
  /-- Numbers are compared by their exact values. -/
  numbers : ∀ m n a b, x = .number m → y = .number n →
    m.exactValue? = some a → n.exactValue? = some b →
    (x.Is .lt y ↔ a < b) ∧ (x.Is .eq y ↔ a = b)

/-- The comparisons of values obey their laws, but for not-a-number.  Inside an array or object
not-a-number does no harm, since it equals itself there. -/
theorem Value.comparisonLaws {x y z : Value} (hx : x.WellFormed) (hy : y.WellFormed)
    (number : ∀ v ∈ [x, y, z], v.isNan = false) : ComparisonLaws x y z := by
  obtain ⟨nx, ny, nz⟩ : x.isNan = false ∧ y.isNan = false ∧ z.isNan = false := by
    simpa using number
  constructor
  case decided =>
    intro c known
    exact Comparator.exists_holds known x y
  case null =>
    intro null c known
    exact holds_of_isNull known null
  case refl =>
    intro given
    exact is_eq_iff.2 (equal_refl hx given nx)
  case symm =>
    intro h
    exact is_eq_iff.2 (equal_symm hx hy (is_eq_iff.1 h))
  case trans =>
    intro hxy hyz
    exact is_eq_iff.2 (equal_trans (is_eq_iff.1 hxy) (is_eq_iff.1 hyz))
  case trichotomy => exact existsUnique_is nx ny
  case le_iff => exact is_le_iff nx ny
  case ge_iff => exact is_ge_iff nx ny
  case lt_trans => exact is_lt_trans nx ny nz
  case unordered =>
    intro unordered c asks
    exact holds_of_unordered asks unordered
  case numbers =>
    intro m n a b hm hn ha hb
    rw [hm, hn]
    exact number_is_iff ha hb

/-- The floating-point number to which the integer `2 ^ 53 + 1` is rounded. -/
def roundedInteger : Value :=
  .number (.float (.ofRatio false 9007199254740993 1))

/-- The integer itself is above that number, which is `2 ^ 53`. -/
theorem Value.comparisonLaws_roundedInteger :
    ComparisonLaws roundedInteger (.int 9007199254740993) (.number (.float (.infinite false))) ∧
      roundedInteger.Is .lt (.int 9007199254740993) ∧
      roundedInteger.Is .lt (.number (.float (.infinite false))) := by
  have laws : ComparisonLaws roundedInteger (.int 9007199254740993)
      (.number (.float (.infinite false))) :=
    comparisonLaws (by simp [roundedInteger, WellFormed]) (by simp [int, WellFormed]) (by decide)
  have below : roundedInteger.Is .lt (.int 9007199254740993) := rfl
  exact ⟨laws, below, laws.lt_trans below rfl⟩

end DocQuery
