/-
Module: DocQuery.Proofs.CanonicalText
Purpose: Two arrays or objects have one canonical text exactly if they are identical up to the order
  of members.
Main exports: Value.identical, sortFields_eq_iff, canonicalText_eq_iff, sameContent_of_identical
-/
import DocQuery.Proofs.JoinKeys
import DocQuery.Proofs.JsonRoundTrip

namespace DocQuery

/-! ### Identical values

The relation that the canonical text decides.  It is finer than sameness of content, since the
integer one, the number one and true are written in three ways. -/

namespace Value

mutual

/-- Equality of values up to the order of an object's members: every part of the one is written as
that of the other. -/
def identical : Value → Value → Bool
  | .null, .null => true
  | .bool b, .bool c => b == c
  | .number m, .number n => m == n
  | .string s, .string t => s == t
  | .array xs, .array ys => identicalItems xs ys
  | .object xs, .object ys => xs.length == ys.length && identicalFields xs ys
  | _, _ => false

/-- Identical arrays, item by item. -/
def identicalItems : List Value → List Value → Bool
  | [], [] => true
  | x :: xs, y :: ys => identical x y && identicalItems xs ys
  | _, _ => false

/-- Every member on the left has an identical one of its name on the right. -/
def identicalFields : List (String × Value) → List (String × Value) → Bool
  | [], _ => true
  | (key, x) :: xs, ys =>
      (match ys.lookup key with
        | some y => identical x y
        | none => false) && identicalFields xs ys

end

end Value

/-- A number is the same as itself, also if it is not a number. -/
theorem Number.same_refl (n : Number) : n.same n = true := by
  rw [Number.same_iff]
  cases place : n.place? with
  | none => exact .inr ⟨rfl, rfl⟩
  | some p =>
      exact .inl ⟨p, p, rfl, rfl, Std.ReflCmp.compare_self⟩

namespace Value

mutual

/-- What is identical has the same content. -/
theorem sameContent_of_identical : ∀ x y : Value, x.identical y = true → x.sameContent y = true
  | .null, y, h => by
      cases y <;> simp_all [identical, sameContent]
  | .bool b, y, h => by
      cases y <;> simp_all [identical, sameContent, contentNumber?, Number.same_refl]
  | .number n, y, h => by
      cases y <;> simp_all [identical, sameContent, contentNumber?, Number.same_refl]
  | .string s, y, h => by
      cases y <;> simp_all [identical, sameContent]
  | .array xs, y, h => by
      cases y with
      | array ys =>
          rw [sameContent]
          exact sameItems_of_identicalItems xs ys (by simpa [identical] using h)
      | _ => simp [identical] at h
  | .object xs, y, h => by
      cases y with
      | object ys =>
          obtain ⟨long, fields⟩ : xs.length = ys.length ∧ identicalFields xs ys = true := by
            simpa [identical] using h
          simp [sameContent, long, sameFields_of_identicalFields xs ys fields]
      | _ => simp [identical] at h

theorem sameItems_of_identicalItems : ∀ xs ys : List Value,
    identicalItems xs ys = true → sameItems xs ys = true
  | [], [], _ => rfl
  | [], _ :: _, h => by simp [identicalItems] at h
  | _ :: _, [], h => by simp [identicalItems] at h
  | x :: xs, y :: ys, h => by
      obtain ⟨first, rest⟩ : x.identical y = true ∧ identicalItems xs ys = true := by
        simpa [identicalItems] using h
      simp [sameItems, sameContent_of_identical x y first, sameItems_of_identicalItems xs ys rest]

theorem sameFields_of_identicalFields : ∀ xs ys : List (String × Value),
    identicalFields xs ys = true → sameFields xs ys = true
  | [], _, _ => rfl
  | (key, x) :: xs, ys, h => by
      simp only [identicalFields, Bool.and_eq_true] at h
      obtain ⟨first, rest⟩ := h
      cases found : ys.lookup key with
      | none => simp [found] at first
      | some y =>
          rw [found] at first
          simp [sameFields, found, sameContent_of_identical x y first,
            sameFields_of_identicalFields xs ys rest]

end

end Value

namespace Json

open Value

/-! ### Sorted members

The text is written from a value whose members are sorted at every depth.  Sorting permutes the
members of one object and touches nothing else, so that an object with names of its own is sorted to
one list, however its members stood. -/

theorem sortMembers_eq_map (fields : List (String × Value)) :
    sortMembers fields = fields.map fun field => (field.1, sortFields field.2) := by
  induction fields with
  | nil => rfl
  | cons field fields ih => rw [sortMembers, ih, List.map_cons]

theorem keys_sortMembers (fields : List (String × Value)) :
    Keyed.keys (sortMembers fields) = Keyed.keys fields := by
  simp [sortMembers_eq_map, Keyed.keys, Function.comp_def]

theorem mem_sortMembers {key : String} {v : Value} {fields : List (String × Value)} :
    (key, v) ∈ sortMembers fields ↔ ∃ x, (key, x) ∈ fields ∧ sortFields x = v := by
  simp [sortMembers_eq_map]

/-- Members sorted by name. -/
def byName (fields : List (String × Value)) : List (String × Value) :=
  fields.mergeSort fun a b => decide (a.1 ≤ b.1)

theorem byName_perm (fields : List (String × Value)) : (byName fields).Perm fields :=
  List.mergeSort_perm _ _

theorem byName_pairwise (fields : List (String × Value)) :
    (byName fields).Pairwise fun a b => decide (a.1 ≤ b.1) = true :=
  List.pairwise_mergeSort
    (fun _ _ _ hab hbc => by simpa using String.le_trans (by simpa using hab) (by simpa using hbc))
    (fun a b => by simpa using String.le_total a.1 b.1) fields

/-- Sorting forgets the order of members that have different names. -/
theorem byName_congr {xs ys : List (String × Value)} (distinct : (Keyed.keys xs).Nodup)
    (perm : xs.Perm ys) : byName xs = byName ys := by
  have all : (byName xs).Perm (byName ys) :=
    ((byName_perm xs).trans perm).trans (byName_perm ys).symm
  refine List.Perm.eq_of_pairwise ?_ (byName_pairwise xs) (byName_pairwise ys) all
  rintro ⟨key, x⟩ ⟨key', y⟩ hx hy hxy hyx
  obtain rfl : key = key' := String.le_antisymm (by simpa using hxy) (by simpa using hyx)
  have hx' := (byName_perm xs).mem_iff.1 hx
  have hy' := (byName_perm xs).mem_iff.1 (all.mem_iff.2 hy)
  have same := (Keyed.get?_of_mem distinct hx').symm.trans (Keyed.get?_of_mem distinct hy')
  rw [Option.some.inj same]

mutual

/-- Sorting members keeps their names different. -/
theorem wellFormed_sortFields : ∀ v : Value, v.WellFormed → (sortFields v).WellFormed
  | .null, h | .bool _, h | .number _, h | .string _, h => h
  | .array items, h => allWellFormed_sortItems items h
  | .object fields, h => by
      have perm : (byName (sortMembers fields)).Perm (sortMembers fields) := byName_perm _
      have names : (Keyed.keys (byName (sortMembers fields))).Nodup := by
        have names : (Keyed.keys (sortMembers fields)).Nodup := by
          rw [keys_sortMembers]
          exact h.1
        exact (perm.map Prod.fst).nodup_iff.2 names
      have values := fieldsWellFormed_iff.1 (fieldsWellFormed_sortMembers fields h.2)
      exact ⟨names, fieldsWellFormed_iff.2 fun field hf => values field (perm.mem_iff.1 hf)⟩

theorem allWellFormed_sortItems : ∀ items : List Value,
    AllWellFormed items → AllWellFormed (sortItems items)
  | [], h => h
  | x :: xs, h => ⟨wellFormed_sortFields x h.1, allWellFormed_sortItems xs h.2⟩

theorem fieldsWellFormed_sortMembers : ∀ fields : List (String × Value),
    FieldsWellFormed fields → FieldsWellFormed (sortMembers fields)
  | [], h => h
  | (_, x) :: xs, h => ⟨wellFormed_sortFields x h.1, fieldsWellFormed_sortMembers xs h.2⟩

end

/-! ### Values with the same sorted form

Both directions are by mutual recursion on the first value, its items and its members.  Since the
text of the sorted form tells that form, the last theorem is about texts. -/

mutual

/-- Values that are the same with all members sorted are identical. -/
theorem identical_of_sortFields : ∀ x y : Value, y.WellFormed → sortFields x = sortFields y →
    x.identical y = true
  | .null, y, _, h | .bool _, y, _, h | .number _, y, _, h | .string _, y, _, h => by
      cases y <;> simp_all [sortFields, identical]
  | .array xs, y, wellFormed, h => by
      cases y with
      | array ys =>
          rw [identical]
          exact identicalItems_of_sortItems xs ys wellFormed (by simpa [sortFields] using h)
      | _ => simp [sortFields] at h
  | .object xs, y, wellFormed, h => by
      cases y with
      | object ys =>
          have same : byName (sortMembers xs) = byName (sortMembers ys) :=
            Value.object.inj h
          have perm : (sortMembers xs).Perm (sortMembers ys) :=
            (byName_perm _).symm.trans (same ▸ byName_perm _)
          have long : xs.length = ys.length := by
            simpa [sortMembers_eq_map] using perm.length_eq
          have fields := identicalFields_of_sortMembers xs ys wellFormed.1 wellFormed.2
            fun field hf => perm.mem_iff.1 hf
          simp [identical, long, fields]
      | _ => simp [sortFields] at h

theorem identicalItems_of_sortItems : ∀ xs ys : List Value, AllWellFormed ys →
    sortItems xs = sortItems ys → identicalItems xs ys = true
  | [], [], _, _ => rfl
  | [], _ :: _, _, h => by simp [sortItems] at h
  | _ :: _, [], _, h => by simp [sortItems] at h
  | x :: xs, y :: ys, wellFormed, h => by
      obtain ⟨first, rest⟩ := List.cons.inj h
      simp [identicalItems, identical_of_sortFields x y wellFormed.1 first,
        identicalItems_of_sortItems xs ys wellFormed.2 rest]

theorem identicalFields_of_sortMembers : ∀ xs ys : List (String × Value),
    (Keyed.keys ys).Nodup → FieldsWellFormed ys →
      (∀ field ∈ sortMembers xs, field ∈ sortMembers ys) → identicalFields xs ys = true
  | [], _, _, _, _ => rfl
  | (key, x) :: xs, ys, distinct, wellFormed, h => by
      obtain ⟨y, hy, same⟩ := mem_sortMembers.1 (h (key, sortFields x) List.mem_cons_self)
      have found : ys.lookup key = some y := Keyed.get?_of_mem distinct hy
      have first := identical_of_sortFields x y (fieldsWellFormed_iff.1 wellFormed _ hy) same.symm
      have rest := identicalFields_of_sortMembers xs ys distinct wellFormed
        fun field hf => h field (List.mem_cons_of_mem _ hf)
      simp [identicalFields, found, first, rest]

end

mutual

/-- Identical values are the same with all members sorted. -/
theorem sortFields_of_identical : ∀ x y : Value, x.WellFormed → x.identical y = true →
    sortFields x = sortFields y
  | .null, y, _, h | .bool _, y, _, h | .number _, y, _, h | .string _, y, _, h => by
      cases y <;> simp_all [sortFields, identical]
  | .array xs, y, wellFormed, h => by
      cases y with
      | array ys =>
          simpa [sortFields] using
            sortItems_of_identicalItems xs ys wellFormed (by simpa [identical] using h)
      | _ => simp [identical] at h
  | .object xs, y, wellFormed, h => by
      cases y with
      | object ys =>
          obtain ⟨long, fields⟩ : xs.length = ys.length ∧ identicalFields xs ys = true := by
            simpa [identical] using h
          have distinct : (Keyed.keys (sortMembers xs)).Nodup := by
            rw [keys_sortMembers]
            exact wellFormed.1
          have within : (sortMembers xs).Subperm (sortMembers ys) :=
            List.subperm_of_subset (List.Nodup.of_map Prod.fst distinct)
              (mem_sortMembers_of_identicalFields xs ys wellFormed.2 fields)
          have perm : (sortMembers xs).Perm (sortMembers ys) :=
            within.perm_of_length_le (by simp [sortMembers_eq_map, long])
          exact congrArg Value.object (byName_congr distinct perm)
      | _ => simp [identical] at h

theorem sortItems_of_identicalItems : ∀ xs ys : List Value, AllWellFormed xs →
    identicalItems xs ys = true → sortItems xs = sortItems ys
  | [], [], _, _ => rfl
  | [], _ :: _, _, h => by simp [identicalItems] at h
  | _ :: _, [], _, h => by simp [identicalItems] at h
  | x :: xs, y :: ys, wellFormed, h => by
      obtain ⟨first, rest⟩ : x.identical y = true ∧ identicalItems xs ys = true := by
        simpa [identicalItems] using h
      rw [sortItems, sortItems, sortFields_of_identical x y wellFormed.1 first,
        sortItems_of_identicalItems xs ys wellFormed.2 rest]

theorem mem_sortMembers_of_identicalFields : ∀ xs ys : List (String × Value),
    FieldsWellFormed xs → identicalFields xs ys = true →
      ∀ field ∈ sortMembers xs, field ∈ sortMembers ys
  | [], _, _, _ => fun _ hf => absurd hf List.not_mem_nil
  | (key, x) :: xs, ys, wellFormed, h => by
      simp only [identicalFields, Bool.and_eq_true] at h
      obtain ⟨first, rest⟩ := h
      cases found : ys.lookup key with
      | none => simp [found] at first
      | some y =>
          rw [found] at first
          have same := sortFields_of_identical x y wellFormed.1 first
          intro field hf
          rcases List.mem_cons.1 hf with rfl | later
          · exact mem_sortMembers.2 ⟨y, Keyed.mem_of_get? found, same.symm⟩
          · exact mem_sortMembers_of_identicalFields xs ys wellFormed.2 rest field later

end

/-- Two values are the same with all members sorted exactly if they are identical. -/
theorem sortFields_eq_iff {x y : Value} (hx : x.WellFormed) (hy : y.WellFormed) :
    sortFields x = sortFields y ↔ x.identical y = true :=
  ⟨identical_of_sortFields x y hy, sortFields_of_identical x y hx⟩

/-- Two values have one canonical text exactly if they are identical. -/
theorem canonicalText_eq_iff {x y : Value} (hx : x.WellFormed) (hy : y.WellFormed) :
    canonicalText x = canonicalText y ↔ x.identical y = true := by
  rw [← sortFields_eq_iff hx hy]
  constructor
  · exact write_injective spacedAscii_sound (wellFormed_sortFields x hx)
      (wellFormed_sortFields y hy)
  · exact congrArg (write spacedAscii)

end Json

end DocQuery
