/-
Module: DocQuery.Proofs.ValueOrder
Purpose: Comparing the values of sort keys ranks records, as far as they can be compared, and fails
  exactly where two values have no order.
Main exports: Ranks, Value.compare_ranks, compareKey_ranks, compareKeys_ranks,
  compareKeys_eq_error_iff
-/
import DocQuery.Proofs.JoinEquality
import DocQuery.Query.Sort
import Mathlib.Data.String.Basic

/-!
Values of different types are not compared, so there is no order of all values.  What a comparison
of two values tells is still enough to compare others: if one value is at most another and that is
at most a third, then the first and the third can be compared, and the two answers say how.
-/

namespace DocQuery

open Outcome

/-- A comparison ranks things of a kind, as far as it compares them: turned round it gives the
opposite answer, and two steps up can be made as one. -/
structure Ranks {α ε : Type} (cmp : α → α → Except ε Ordering) (kind : α → Prop) : Prop where
  swap : ∀ {x y o}, cmp x y = .ok o → cmp y x = .ok o.swap
  trans : ∀ {x y z o p}, kind x → kind y → kind z → cmp x y = .ok o → cmp y z = .ok p →
    o.isLE → p.isLE → cmp x z = .ok (o.then p)

/-- Things are ranked by what they have that is ranked. -/
theorem Ranks.comap {α β ε : Type} {cmp : α → α → Except ε Ordering} {kind : α → Prop}
    (ranks : Ranks cmp kind) (f : β → α) :
    Ranks (fun x y => cmp (f x) (f y)) fun x => kind (f x) where
  swap := ranks.swap
  trans := ranks.trans

/-- In a total order, two steps up can be made as one. -/
theorem then_of_isLE {α : Type} {cmp : α → α → Ordering} [Std.TransCmp cmp] {x y z : α}
    (hxy : (cmp x y).isLE) (hyz : (cmp y z).isLE) : cmp x z = (cmp x y).then (cmp y z) := by
  cases first : cmp x y with
  | lt => rw [Std.TransCmp.lt_of_lt_of_isLE first hyz, Ordering.lt_then]
  | eq => rw [Std.TransCmp.congr_left first, Ordering.eq_then]
  | gt => simp [first] at hxy

/-! ### Values

Comparing values is a partial function.  Where it is defined both values are of one type, and the
values of that type are ordered totally, but for not-a-number. -/

instance : Std.TransCmp boolOrder where
  eq_swap := Std.OrientedOrd.eq_swap
  isLE_trans := Std.TransOrd.isLE_trans

namespace Value

theorem compare_string (s t : String) :
    (Value.string s).compare (.string t) = .ok (Ord.compare s t) :=
  congrArg Except.ok (cmp_eq_compare s t)

/-- The order of two values that can be compared: two strings, two numbers or two booleans. -/
inductive Compares : Value → Value → Ordering → Prop where
  | strings (s t : String) : Compares (.string s) (.string t) (Ord.compare s t)
  | numbers (m n : Number) : Compares (.number m) (.number n) ((m.compare? n).getD .eq)
  | bools (a b : Bool) : Compares (.bool a) (.bool b) (boolOrder a b)

theorem compares_iff {x y : Value} {o : Ordering} : x.compare y = .ok o ↔ Compares x y o := by
  constructor
  · intro h
    unfold Value.compare at h
    split at h
    · next s t =>
        rw [← Value.compare, compare_string] at h
        cases h
        exact .strings s t
    · cases h
      exact .numbers _ _
    · cases h
      exact .bools _ _
    · split at h <;> cases h
  · rintro (⟨s, t⟩ | ⟨m, n⟩ | ⟨a, b⟩)
    · exact compare_string s t
    · rfl
    · rfl

/-- Values are compared if they are of one type that is orderable. -/
theorem exists_compare_eq_ok_iff (x y : Value) :
    (∃ o, x.compare y = .ok o) ↔ x.type = y.type ∧ x.type.isOrderable = true := by
  cases x <;> cases y <;> simp [Value.compare, type, ValueType.isOrderable]

theorem compare_swap {x y : Value} {o : Ordering} (h : x.compare y = .ok o) :
    y.compare x = .ok o.swap := by
  cases compares_iff.1 h with
  | strings s t => rw [compare_string, Std.OrientedOrd.eq_swap]
  | numbers m n =>
      rw [Value.compare, Number.compare?_swap m n]
      cases m.compare? n <;> rfl
  | bools a b => rw [Value.compare, (Std.OrientedCmp.eq_swap : boolOrder b a = (boolOrder a b).swap)]

/-- Comparing values ranks them, but for not-a-number. -/
theorem compare_ranks : Ranks Value.compare fun x => x.isNan = false where
  swap := compare_swap
  trans {x y z o p} hx hy hz hxy hyz ho hp := by
    rw [compares_iff] at hxy hyz
    cases hxy with
    | strings s t =>
        cases hyz with
        | strings _ u => rw [compare_string, then_of_isLE ho hp]
    | numbers m n =>
        cases hyz with
        | numbers _ l =>
            obtain ⟨p, hp'⟩ := Number.exists_place hx
            obtain ⟨q, hq'⟩ := Number.exists_place hy
            obtain ⟨r, hr'⟩ := Number.exists_place hz
            rw [Number.compare?_of_place hp' hq'] at ho ⊢
            rw [Number.compare?_of_place hq' hr'] at hp ⊢
            rw [Value.compare, Number.compare?_of_place hp' hr']
            have placed : p.compare r = (p.compare q).then (q.compare r) := then_of_isLE ho hp
            exact congrArg Except.ok placed
    | bools a b =>
        cases hyz with
        | bools _ c => exact congrArg Except.ok (then_of_isLE ho hp)

end Value

/-! ### Key values

A key adds null, which comes first in either direction, and the direction for all other values. -/

/-- The order of two values of one key: null comes first, and the direction of the key applies to
other values only. -/
def compareKey (key : OrderKey) (x y : Value) : Except QueryError Ordering :=
  match x.isNull, y.isNull with
  | true, true => .ok .eq
  | true, false => .ok .lt
  | false, true => .ok .gt
  | false, false =>
      match x.compare y with
      | .error fault => .error (.sortKey key.field fault)
      | .ok o => .ok (key.direction.apply o)

theorem Direction.apply_swap (d : Direction) (o : Ordering) :
    d.apply o.swap = (d.apply o).swap := by
  cases d <;> simp [Direction.apply]

/-- The order of two values of one key that can be compared. -/
inductive ComparesBy (key : OrderKey) (x y : Value) : Ordering → Prop where
  | nulls : x.isNull = true → y.isNull = true → ComparesBy key x y .eq
  | nullFirst : x.isNull = true → y.isNull = false → ComparesBy key x y .lt
  | nullLast : x.isNull = false → y.isNull = true → ComparesBy key x y .gt
  | values {o : Ordering} : x.isNull = false → y.isNull = false → x.compare y = .ok o →
      ComparesBy key x y (key.direction.apply o)

theorem comparesBy_iff {key : OrderKey} {x y : Value} {o : Ordering} :
    compareKey key x y = .ok o ↔ ComparesBy key x y o := by
  constructor
  · intro h
    unfold compareKey at h
    split at h
    · next hx hy =>
        cases h
        exact .nulls hx hy
    · next hx hy =>
        cases h
        exact .nullFirst hx hy
    · next hx hy =>
        cases h
        exact .nullLast hx hy
    · next hx hy =>
        split at h
        · cases h
        · next compared =>
            cases h
            exact .values hx hy compared
  · rintro (⟨hx, hy⟩ | ⟨hx, hy⟩ | ⟨hx, hy⟩ | ⟨hx, hy, compared⟩)
    · rw [compareKey, hx, hy]
    · rw [compareKey, hx, hy]
    · rw [compareKey, hx, hy]
    · rw [compareKey, hx, hy, compared]

theorem compareKey_swap {key : OrderKey} {x y : Value} {o : Ordering}
    (h : compareKey key x y = .ok o) : compareKey key y x = .ok o.swap := by
  rw [comparesBy_iff] at h ⊢
  cases h with
  | nulls hx hy => exact .nulls hy hx
  | nullFirst hx hy => exact .nullLast hy hx
  | nullLast hx hy => exact .nullFirst hy hx
  | values hx hy compared =>
      rw [← Direction.apply_swap]
      exact .values hy hx (Value.compare_swap compared)

theorem then_comm_of_isLE {o p : Ordering} (ho : o.isLE) (hp : p.isLE) : o.then p = p.then o := by
  cases o <;> cases p <;> simp_all

/-- Two steps up can be made as one in either direction. -/
theorem Value.compare_directed (d : Direction) {x y z : Value} {o p : Ordering}
    (hx : x.isNan = false) (hy : y.isNan = false) (hz : z.isNan = false)
    (hxy : x.compare y = .ok o) (hyz : y.compare z = .ok p) (ho : (d.apply o).isLE)
    (hp : (d.apply p).isLE) :
    ∃ q, x.compare z = .ok q ∧ (d.apply o).then (d.apply p) = d.apply q := by
  cases d with
  | ascending => exact ⟨_, Value.compare_ranks.trans hx hy hz hxy hyz ho hp, rfl⟩
  | descending =>
      have down := Value.compare_ranks.trans hz hy hx (compare_swap hyz) (compare_swap hxy) hp ho
      refine ⟨_, compare_swap down, ?_⟩
      rw [Direction.apply, Direction.apply, Direction.apply, Ordering.swap_swap]
      exact then_comm_of_isLE ho hp

/-- Comparing the values of one key ranks them, but for not-a-number. -/
theorem compareKey_ranks (key : OrderKey) : Ranks (compareKey key) fun x => x.isNan = false where
  swap := compareKey_swap
  trans {x y z o p} hx hy hz hxy hyz ho hp := by
    rw [comparesBy_iff] at hxy hyz ⊢
    cases hxy with
    | nulls nx ny =>
        cases hyz with
        | nulls _ nz => exact .nulls nx nz
        | nullFirst _ nz => exact .nullFirst nx nz
        | nullLast ny' => simp [ny] at ny'
        | values ny' => simp [ny] at ny'
    | nullFirst nx ny =>
        cases hyz with
        | nulls ny' => simp [ny] at ny'
        | nullFirst ny' => simp [ny] at ny'
        | nullLast => simp at hp
        | values _ nz => exact .nullFirst nx nz
    | nullLast => simp at ho
    | values nx ny hxy =>
        cases hyz with
        | nulls ny' => simp [ny] at ny'
        | nullFirst ny' => simp [ny] at ny'
        | nullLast => simp at hp
        | values _ nz hyz =>
            obtain ⟨q, hxz, same⟩ := Value.compare_directed key.direction hx hy hz hxy hyz ho hp
            exact same ▸ .values nx nz hxz

/-! ### Vectors of key values

The first key that is not tied decides.  So the induction is on the keys, and it uses the ranking of
one key at a time. -/

/-- The keys decide one after the other. -/
theorem compareKeys_cons (x y : Value) (xs ys : List Value) (key : OrderKey)
    (keys : List OrderKey) :
    compareKeys (x :: xs) (y :: ys) (key :: keys) = do
      let o ← compareKey key x y
      if o = .eq then compareKeys xs ys keys else return o := by
  simp only [compareKeys, compareKey]
  cases x.isNull with
  | true => cases y.isNull <;> simp
  | false =>
      cases y.isNull with
      | true => simp
      | false =>
          cases x.compare y with
          | error fault => simp
          | ok o => cases o <;> cases key.direction <;> simp [Direction.apply]

@[simp] theorem compareKeys_nil_left (ys : List Value) (keys : List OrderKey) :
    compareKeys [] ys keys = .ok .eq := by
  simp [compareKeys]

@[simp] theorem compareKeys_nil_right (xs : List Value) (keys : List OrderKey) :
    compareKeys xs [] keys = .ok .eq := by
  simp [compareKeys]

@[simp] theorem compareKeys_nil_keys (xs ys : List Value) : compareKeys xs ys [] = .ok .eq := by
  simp [compareKeys]

theorem compareKeys_cons_eq_ok_iff {x y : Value} {xs ys : List Value} {key : OrderKey}
    {keys : List OrderKey} {o : Ordering} :
    compareKeys (x :: xs) (y :: ys) (key :: keys) = .ok o ↔
      (compareKey key x y = .ok .eq ∧ compareKeys xs ys keys = .ok o) ∨
      (compareKey key x y = .ok o ∧ o ≠ .eq) := by
  rw [compareKeys_cons]
  cases compareKey key x y with
  | error e => simp
  | ok p =>
      by_cases tied : p = .eq
      · simp [tied, eq_comm]
      · have other : p = o → o ≠ .eq := fun same => same ▸ tied
        simpa [tied] using other

theorem compareKeys_swap {xs ys : List Value} {keys : List OrderKey} {o : Ordering}
    (h : compareKeys xs ys keys = .ok o) : compareKeys ys xs keys = .ok o.swap := by
  induction keys generalizing xs ys with
  | nil =>
      rw [compareKeys_nil_keys] at h ⊢
      cases h
      rfl
  | cons key keys ih =>
      rcases xs with _ | ⟨x, xs⟩
      · cases h
        simp
      rcases ys with _ | ⟨y, ys⟩
      · cases h
        simp
      rw [compareKeys_cons_eq_ok_iff] at h ⊢
      rcases h with ⟨tied, rest⟩ | ⟨decided, ne⟩
      · exact .inl ⟨compareKey_swap tied, ih rest⟩
      · exact .inr ⟨compareKey_swap decided, by cases o <;> simp_all⟩

/-- One value for each of some keys, none of which is not-a-number. -/
structure KeyVector (keys : List OrderKey) (xs : List Value) : Prop where
  length : xs.length = keys.length
  numbers : ∀ x ∈ xs, x.isNan = false

theorem KeyVector.exists_cons {key : OrderKey} {keys : List OrderKey} {xs : List Value}
    (h : KeyVector (key :: keys) xs) :
    ∃ x xs', xs = x :: xs' ∧ x.isNan = false ∧ KeyVector keys xs' := by
  rcases xs with _ | ⟨x, xs⟩
  · cases h.length
  · obtain ⟨number, numbers⟩ := List.forall_mem_cons.1 h.numbers
    exact ⟨x, xs, rfl, number, Nat.succ.inj h.length, numbers⟩

theorem eq_lt_of_isLE {o : Ordering} (h : o.isLE) (ne : o ≠ .eq) : o = .lt := by
  cases o <;> simp_all

theorem isLE_then_lt {o : Ordering} (h : o.isLE) : o.then .lt = .lt := by
  cases o <;> simp_all

/-- Comparing vectors of key values ranks them. -/
theorem compareKeys_ranks (keys : List OrderKey) :
    Ranks (fun xs ys => compareKeys xs ys keys) (KeyVector keys) where
  swap := compareKeys_swap
  trans {xs ys zs o p} hx hy hz hxy hyz ho hp := by
    induction keys generalizing xs ys zs o p with
    | nil =>
        rw [compareKeys_nil_keys] at hxy hyz ⊢
        cases hxy
        exact hyz
    | cons key keys ih =>
        obtain ⟨x, xs, rfl, hx, hxs⟩ := hx.exists_cons
        obtain ⟨y, ys, rfl, hy, hys⟩ := hy.exists_cons
        obtain ⟨z, zs, rfl, hz, hzs⟩ := hz.exists_cons
        -- Whichever of the two steps is decided by the first key also decides the step over both.
        have first {o p : Ordering} := (compareKey_ranks key).trans (o := o) (p := p) hx hy hz
        rw [compareKeys_cons_eq_ok_iff] at hxy hyz ⊢
        rcases hxy with ⟨tied, hxy⟩ | ⟨decided, ne⟩
        · rcases hyz with ⟨tied', hyz⟩ | ⟨decided', ne'⟩
          · exact .inl ⟨first tied tied' rfl rfl, ih hxs hys hzs hxy hyz ho hp⟩
          · obtain rfl := eq_lt_of_isLE hp ne'
            rw [isLE_then_lt ho]
            exact .inr ⟨first tied decided' rfl rfl, ne'⟩
        · obtain rfl := eq_lt_of_isLE ho ne
          rcases hyz with ⟨tied', hyz⟩ | ⟨decided', ne'⟩
          · exact .inr ⟨(first decided tied' rfl rfl :), ne⟩
          · exact .inr ⟨(first decided decided' rfl hp :), ne⟩

/-- Comparing two vectors compares the values of each key on whose predecessors they are tied. -/
theorem compareKeys_take {xs ys : List Value} {keys : List OrderKey} {o : Ordering}
    (h : compareKeys xs ys keys = .ok o) (ho : o.isLE) {k : Nat} {x y : Value} {key : OrderKey}
    (hx : xs[k]? = some x) (hy : ys[k]? = some y) (hkey : keys[k]? = some key)
    (tied : compareKeys xs ys (keys.take k) = .ok .eq) :
    ∃ p, compareKey key x y = .ok p ∧ p.isLE := by
  induction keys generalizing xs ys k with
  | nil => simp at hkey
  | cons key' keys ih =>
      rcases xs with _ | ⟨x', xs⟩
      · simp at hx
      rcases ys with _ | ⟨y', ys⟩
      · simp at hy
      rw [compareKeys_cons_eq_ok_iff] at h
      cases k with
      | zero =>
          cases hx
          cases hy
          cases hkey
          rcases h with ⟨first, _⟩ | ⟨first, _⟩
          · exact ⟨.eq, first, rfl⟩
          · exact ⟨o, first, ho⟩
      | succ k =>
          rw [List.take_succ_cons, compareKeys_cons_eq_ok_iff] at tied
          obtain ⟨first, rest⟩ | ⟨_, ne⟩ := tied
          · rcases h with ⟨_, h⟩ | ⟨first', ne⟩
            · exact ih h hx hy hkey rest
            · exact absurd (Except.ok.inj (first'.symm.trans first)) ne
          · exact absurd rfl ne

/-! ### Vectors that cannot be compared

Failure is located: it happens at the first key on which the vectors are not tied, and depends on
the two values there. -/

/-- Two values have no order: neither is null, and their types differ or are not orderable. -/
def Unordered (x y : Value) : Prop :=
  x.isNull = false ∧ y.isNull = false ∧ (x.type ≠ y.type ∨ x.type.isOrderable = false)

/-- Two vectors clash: they are tied on the keys before some key, and the values there have no
order. -/
def Clash (keys : List OrderKey) (xs ys : List Value) : Prop :=
  ∃ k x y, k < keys.length ∧ xs[k]? = some x ∧ ys[k]? = some y ∧
    compareKeys xs ys (keys.take k) = .ok .eq ∧ Unordered x y

theorem compareKey_eq_error_iff (key : OrderKey) (x y : Value) :
    (∃ e, compareKey key x y = .error e) ↔ Unordered x y := by
  have ordered := Value.exists_compare_eq_ok_iff x y
  unfold compareKey Unordered
  cases x.isNull with
  | true => cases y.isNull <;> simp
  | false =>
      cases y.isNull with
      | true => simp
      | false =>
          cases compared : x.compare y with
          | error fault =>
              rw [compared] at ordered
              simpa [imp_iff_not_or] using ordered
          | ok o =>
              rw [compared] at ordered
              simpa using ordered

theorem clash_cons (key : OrderKey) (keys : List OrderKey) (x y : Value) (xs ys : List Value) :
    Clash (key :: keys) (x :: xs) (y :: ys) ↔
      Unordered x y ∨ (compareKey key x y = .ok .eq ∧ Clash keys xs ys) := by
  constructor
  · rintro ⟨k, u, v, hk, hu, hv, tied, unordered⟩
    cases k with
    | zero =>
        cases hu
        cases hv
        exact .inl unordered
    | succ k =>
        rw [List.take_succ_cons, compareKeys_cons_eq_ok_iff] at tied
        rcases tied with ⟨first, rest⟩ | ⟨_, ne⟩
        · exact .inr ⟨first, k, u, v, Nat.lt_of_succ_lt_succ hk, hu, hv, rest, unordered⟩
        · exact absurd rfl ne
  · rintro (unordered | ⟨first, k, u, v, hk, hu, hv, tied, unordered⟩)
    · exact ⟨0, x, y, Nat.succ_pos _, rfl, rfl, compareKeys_nil_keys _ _, unordered⟩
    · refine ⟨k + 1, u, v, Nat.succ_lt_succ hk, hu, hv, ?_, unordered⟩
      rw [List.take_succ_cons, compareKeys_cons_eq_ok_iff]
      exact .inl ⟨first, tied⟩

/-- Comparing two vectors fails exactly if they clash. -/
theorem compareKeys_eq_error_iff (keys : List OrderKey) (xs ys : List Value) :
    (∃ e, compareKeys xs ys keys = .error e) ↔ Clash keys xs ys := by
  induction keys generalizing xs ys with
  | nil => simp [Clash]
  | cons key keys ih =>
      rcases xs with _ | ⟨x, xs⟩
      · simp [Clash]
      rcases ys with _ | ⟨y, ys⟩
      · simp [Clash]
      rw [clash_cons, ← ih, ← compareKey_eq_error_iff key, compareKeys_cons]
      cases compareKey key x y with
      | error e => simp
      | ok o =>
          by_cases tied : o = .eq
          · simp [tied]
          · simp [tied]

end DocQuery
