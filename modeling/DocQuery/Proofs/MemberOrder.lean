/-
Module: DocQuery.Proofs.MemberOrder
Purpose: Arrays and objects have one join key exactly if they are the same up to the order of
  members, with every scalar in them written in the same way.
Main exports: Value.WrittenAlike, Value.Reordered, Value.identical_iff, Value.joinKey?_eq_iff,
  Value.nestedKeys
-/
import DocQuery.Proofs.ContentEquality

namespace DocQuery

namespace Keyed

variable {α β : Type} {R : α → β → Prop}

/-! ### Entries in another order

Two lists of entries with different names match by name exactly if one is a permutation of the
other, up to the values.  One direction builds the permutation entry by entry. -/

/-- Entries that each find one of their name on the other side are paired with these in order. -/
theorem exists_paired {xs : Keyed α} {ys : Keyed β}
    (found : ∀ entry ∈ xs, ∃ y, get? entry.1 ys = some y ∧ R entry.2 y) :
    ∃ zs : Keyed β, (∀ entry ∈ zs, entry ∈ ys) ∧ keys xs = keys zs ∧
      List.Forall₂ R (xs.map Prod.snd) (zs.map Prod.snd) := by
  induction xs with
  | nil => exact ⟨[], List.forall_mem_nil _, rfl, .nil⟩
  | cons entry xs ih =>
      obtain ⟨⟨y, hy, related⟩, rest⟩ := List.forall_mem_cons.1 found
      obtain ⟨zs, within, names, values⟩ := ih rest
      exact ⟨(entry.1, y) :: zs, List.forall_mem_cons.2 ⟨mem_of_get? hy, within⟩,
        congrArg (entry.1 :: ·) names, .cons related values⟩

/-- Entries that are paired in order have a partner each. -/
theorem exists_partner {xs : Keyed α} {zs : Keyed β} (names : keys xs = keys zs)
    (values : List.Forall₂ R (xs.map Prod.snd) (zs.map Prod.snd)) :
    ∀ entry ∈ xs, ∃ z, (entry.1, z) ∈ zs ∧ R entry.2 z := by
  induction xs generalizing zs with
  | nil => exact List.forall_mem_nil _
  | cons entry xs ih =>
      cases zs with
      | nil => cases names
      | cons partner zs =>
          obtain ⟨name, names⟩ := List.cons.inj names
          obtain ⟨related, values⟩ := List.forall₂_cons.1 values
          refine List.forall_mem_cons.2 ⟨⟨partner.2, ?_, related⟩, fun other hother => ?_⟩
          · rw [show entry.1 = partner.1 from name]
            exact List.mem_cons_self
          · obtain ⟨z, hz, related⟩ := ih names values other hother
            exact ⟨z, List.mem_cons_of_mem _ hz, related⟩

/-- The entries of two lists of one length match by name exactly if they are paired in some order of
the second list. -/
theorem matched_iff {xs : Keyed α} {ys : Keyed β} (hx : (keys xs).Nodup) (hy : (keys ys).Nodup) :
    (xs.length = ys.length ∧ ∀ entry ∈ xs, ∃ y, get? entry.1 ys = some y ∧ R entry.2 y) ↔
      ∃ zs : Keyed β, zs.Perm ys ∧ keys xs = keys zs ∧
        List.Forall₂ R (xs.map Prod.snd) (zs.map Prod.snd) := by
  constructor
  · rintro ⟨long, found⟩
    obtain ⟨zs, within, names, values⟩ := exists_paired found
    -- The partners are different entries of `ys` and as many, so they are all of them.
    have distinct : zs.Nodup := List.Nodup.of_map Prod.fst (show (keys zs).Nodup from names ▸ hx)
    have sizes : xs.length = zs.length := by
      simpa using values.length_eq
    have perm : zs.Perm ys :=
      (List.subperm_of_subset distinct within).perm_of_length_le (by omega)
    exact ⟨zs, perm, names, values⟩
  · rintro ⟨zs, perm, names, values⟩
    have sizes : xs.length = zs.length := by
      simpa using values.length_eq
    refine ⟨sizes.trans perm.length_eq, fun entry hentry => ?_⟩
    obtain ⟨z, hz, related⟩ := exists_partner names values entry hentry
    exact ⟨z, get?_of_mem hy (perm.mem_iff.1 hz), related⟩

end Keyed

/-- There is a single not-a-number. -/
theorem Number.eq_nan_of_isNan {n : Number} (h : n.isNan = true) : n = .float .nan := by
  rcases n with n | _ | negative | ⟨negative, exponent, fraction⟩
  · cases h
  · rfl
  · cases h
  · cases h

namespace Value

/-- Two values have the same JSON text. -/
def WrittenAlike (x y : Value) : Prop :=
  Json.compactText x = Json.compactText y

/-- Values that are the same up to the order of an object's members at every depth, with scalars
that are written alike. -/
inductive Reordered : Value → Value → Prop where
  | scalars {x y : Value} : x.type.isScalar = true → y.type.isScalar = true → WrittenAlike x y →
      Reordered x y
  | arrays {xs ys : List Value} : List.Forall₂ Reordered xs ys → Reordered (.array xs) (.array ys)
  | objects {xs ys zs : List (String × Value)} : zs.Perm ys → Keyed.keys xs = Keyed.keys zs →
      List.Forall₂ Reordered (xs.map Prod.snd) (zs.map Prod.snd) →
        Reordered (.object xs) (.object ys)

/-! ### Scalars

Scalars are compared by the text that is written for them.  Since the text reads back, scalars with
one text are the same. -/

theorem wellFormed_of_isScalar {x : Value} (scalar : x.type.isScalar = true) : x.WellFormed := by
  cases x with
  | array items => cases scalar
  | object fields => cases scalar
  | null | bool _ | number _ | string _ => trivial

/-- Scalars are written alike only if they are the same. -/
theorem writtenAlike_iff {x y : Value} (hx : x.type.isScalar = true) (hy : y.type.isScalar = true) :
    WrittenAlike x y ↔ x = y :=
  ⟨Json.write_injective Json.compact_sound (wellFormed_of_isScalar hx) (wellFormed_of_isScalar hy),
    congrArg Json.compactText⟩

theorem identical_scalar_iff {x y : Value} (hx : x.type.isScalar = true) :
    x.identical y = true ↔ x = y := by
  cases x <;> cases y <;> simp_all [identical, type, ValueType.isScalar]

/-! ### Arrays and objects

Items are compared in order, members by name.  Both are lists of smaller values, and the induction
is over the parts of the first value. -/

theorem identicalItems_iff {xs ys : List Value} :
    identicalItems xs ys = true ↔ List.Forall₂ (fun x y => x.identical y = true) xs ys := by
  induction xs generalizing ys with
  | nil => cases ys <;> simp [identicalItems]
  | cons x xs ih => cases ys <;> simp [identicalItems, ih]

theorem identicalFields_iff {xs ys : List (String × Value)} :
    identicalFields xs ys = true ↔
      ∀ field ∈ xs, ∃ y, Keyed.get? field.1 ys = some y ∧ field.2.identical y = true := by
  induction xs with
  | nil => simp [identicalFields]
  | cons field xs ih =>
      rcases field with ⟨name, x⟩
      rw [identicalFields, Bool.and_eq_true, ih, List.forall_mem_cons, Keyed.get?]
      cases ys.lookup name <;> simp

theorem reordered_array_iff {xs : List Value} {y : Value} :
    Reordered (.array xs) y ↔ ∃ ys, y = .array ys ∧ List.Forall₂ Reordered xs ys := by
  constructor
  · rintro (⟨scalar, -, -⟩ | items)
    · cases scalar
    · exact ⟨_, rfl, items⟩
  · rintro ⟨ys, rfl, items⟩
    exact .arrays items

theorem reordered_object_iff {xs : List (String × Value)} {y : Value} :
    Reordered (.object xs) y ↔ ∃ ys zs, y = .object ys ∧ zs.Perm ys ∧
      Keyed.keys xs = Keyed.keys zs ∧
        List.Forall₂ Reordered (xs.map Prod.snd) (zs.map Prod.snd) := by
  constructor
  · rintro (⟨scalar, -, -⟩ | _ | ⟨perm, names, values⟩)
    · cases scalar
    · exact ⟨_, _, rfl, perm, names, values⟩
  · rintro ⟨ys, zs, rfl, perm, names, values⟩
    exact .objects perm names values

theorem reordered_scalar_iff {x y : Value} (scalar : x.type.isScalar = true) :
    Reordered x y ↔ x = y := by
  constructor
  · rintro (⟨hx, hy, alike⟩ | _ | _)
    · exact (writtenAlike_iff hx hy).1 alike
    · cases scalar
    · cases scalar
  · rintro rfl
    exact .scalars scalar scalar rfl

/-- Lists are related item by item if each two of their items are. -/
theorem forall₂_congr_of_mem {α : Type} {R S : α → α → Prop} {xs ys : List α}
    (h : ∀ x ∈ xs, ∀ y ∈ ys, R x y ↔ S x y) : List.Forall₂ R xs ys ↔ List.Forall₂ S xs ys := by
  rw [List.forall₂_iff_zip, List.forall₂_iff_zip]
  refine and_congr_right fun _ => forall₂_congr fun x y => ?_
  refine forall_congr' fun pair => ?_
  exact h x (List.of_mem_zip pair).1 y (List.of_mem_zip pair).2

/-- Identical values are those that are the same up to the order of members. -/
theorem identical_iff {x y : Value} (hx : x.WellFormed) (hy : y.WellFormed) :
    x.identical y = true ↔ x.Reordered y := by
  induction x using byParts generalizing y with
  | step x ih =>
      cases x with
      | array xs =>
          rw [reordered_array_iff]
          cases y with
          | array ys =>
              have items := forall₂_congr_of_mem fun u hu v hv =>
                ih u hu (wellFormed_of_mem_parts hx hu) (wellFormed_of_mem_parts hy hv)
              rw [identical, identicalItems_iff]
              exact items.trans (by simp [parts])
          | null | bool _ | number _ | string _ | object _ => simp [identical]
      | object xs =>
          rw [reordered_object_iff]
          cases y with
          | object ys =>
              -- The names find their partners wherever these stand; values are compared only then.
              have values (zs : List (String × Value)) (perm : zs.Perm ys) :=
                forall₂_congr_of_mem fun u hu v hv => ih u hu (wellFormed_of_mem_parts hx hu)
                  (wellFormed_of_mem_parts hy ((perm.map Prod.snd).mem_iff.1 hv))
              have matched := Keyed.matched_iff (R := fun u v => u.identical v = true) hx.1 hy.1
              rw [identical, Bool.and_eq_true, beq_iff_eq, identicalFields_iff, matched]
              simp only [object.injEq, exists_eq_left', exists_and_left]
              refine exists_congr fun zs => and_congr_right fun perm => and_congr_right fun _ => ?_
              exact values zs perm
          | null | bool _ | number _ | string _ | array _ => simp [identical]
      | null | bool _ | number _ | string _ =>
          rw [identical_scalar_iff rfl, reordered_scalar_iff rfl]

/-! ### Join keys

The key of an array or object is its canonical text, so that what is known about such texts is now
said of keys. -/

/-- Arrays and objects have one join key exactly if they are identical. -/
theorem joinKey?_eq_iff {x y : Value} (hx : x.WellFormed) (hy : y.WellFormed)
    (nestedX : x.type.isScalar = false) (nestedY : y.type.isScalar = false) :
    x.joinKey? = y.joinKey? ↔ x.identical y = true := by
  have texts := Json.canonicalText_eq_iff hx hy
  cases x <;> cases y <;> simp_all [type, ValueType.isScalar, joinKey?, identical]

theorem writtenAlike_numbers_iff {m n : Number} :
    WrittenAlike (.number m) (.number n) ↔ m = n := by
  rw [writtenAlike_iff rfl rfl, number.injEq]

/-- Arrays and objects have one join key exactly if they are the same up to the order of members
with all scalars written alike.  Integers and floating-point numbers are not, nor are booleans and
numbers; not-a-number is always written in one way. -/
theorem nestedKeys {x y : Value} (hx : x.WellFormed) (hy : y.WellFormed)
    (nestedX : x.type.isScalar = false) (nestedY : y.type.isScalar = false) :
    (x.joinKey? = y.joinKey? ↔ x.Reordered y) ∧
      (∀ (n : Int) (f : Binary64), ¬ WrittenAlike (.number (.integer n)) (.number (.float f))) ∧
      (∀ (b : Bool) (n : Number), ¬ WrittenAlike (.bool b) (.number n)) ∧
      ∀ m n : Number, m.isNan = true → n.isNan = true → WrittenAlike (.number m) (.number n) := by
  refine ⟨?_, fun n f => ?_, fun b n => ?_, fun m n hm hn => ?_⟩
  · rw [joinKey?_eq_iff hx hy nestedX nestedY, identical_iff hx hy]
  · rw [writtenAlike_numbers_iff]
    nofun
  · rw [writtenAlike_iff rfl rfl]
    nofun
  · rw [writtenAlike_numbers_iff, Number.eq_nan_of_isNan hm, Number.eq_nan_of_isNan hn]

/-- The order of members does not matter to a key, but how a number is written does. -/
theorem nestedKeys_members :
    let x : Value := .object
      [("a", .array [.int 1, .object [("p", .number (.float .nan)), ("q", .null)]]),
        ("b", .bool true)]
    let y : Value := .object
      [("b", .bool true),
        ("a", .array [.int 1, .object [("q", .null), ("p", .number (.float .nan))]])]
    x.WellFormed ∧ y.WellFormed ∧ x.type.isScalar = false ∧ y.type.isScalar = false ∧
      x.joinKey? = y.joinKey? ∧
      (Value.array [.int 1]).joinKey? ≠ (Value.array [fractionOne]).joinKey? ∧ x.Reordered y := by
  intro x y
  have hx : x.WellFormed := by
    simp [x, WellFormed, AllWellFormed, FieldsWellFormed, int, Keyed.keys]
  have hy : y.WellFormed := by
    simp [y, WellFormed, AllWellFormed, FieldsWellFormed, int, Keyed.keys]
  have one : (Value.array [.int 1]).WellFormed := by
    simp [WellFormed, AllWellFormed, int]
  have fraction : (Value.array [fractionOne]).WellFormed := by
    simp [WellFormed, AllWellFormed, fractionOne]
  have same : x.joinKey? = y.joinKey? := (joinKey?_eq_iff hx hy rfl rfl).2 (by decide)
  refine ⟨hx, hy, rfl, rfl, same, fun h => ?_, (nestedKeys hx hy rfl rfl).1.1 same⟩
  have written := (joinKey?_eq_iff one fraction rfl rfl).1 h
  revert written
  decide

end Value

end DocQuery
