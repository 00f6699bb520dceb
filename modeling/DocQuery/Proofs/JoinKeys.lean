/-
Module: DocQuery.Proofs.JoinKeys
Purpose: Join keys are equal or not, and an index of records finds those with an equal key.
Main exports: Number.same_trans, JoinKey.same_symm, JoinKey.same_trans, JoinIndex.find_add,
  JoinIndex.find_build
-/
import DocQuery.Proofs.NumberOrder
import DocQuery.Proofs.Outcome
import DocQuery.Query.Join

namespace DocQuery

open Outcome

/-! ### Sameness of numbers -/

namespace Number

/-- Two numbers are the same if they lie at one place, or if both lie nowhere. -/
theorem same_iff (a b : Number) :
    a.same b = true ↔
      (∃ p q, a.place? = some p ∧ b.place? = some q ∧ p.compare q = .eq) ∨
        (a.place? = none ∧ b.place? = none) := by
  rw [same, Bool.or_eq_true, Bool.and_eq_true, isNan_iff, isNan_iff, equal, compare?]
  cases a.place? with
  | none => simp
  | some p =>
      cases b.place? with
      | none => simp
      | some q => simp

theorem same_symm {a b : Number} (h : a.same b = true) : b.same a = true := by
  rw [same_iff] at h ⊢
  rcases h with ⟨p, q, hp, hq, same⟩ | ⟨ha, hb⟩
  · exact .inl ⟨q, p, hq, hp, Std.OrientedCmp.eq_symm same⟩
  · exact .inr ⟨hb, ha⟩

theorem same_trans {a b c : Number} (hab : a.same b = true) (hbc : b.same c = true) :
    a.same c = true := by
  rw [same_iff] at hab hbc ⊢
  rcases hab with ⟨p, q, hp, hq, same⟩ | ⟨ha, hb⟩
  · rcases hbc with ⟨q', r, hq', hr, same'⟩ | ⟨hb, _⟩
    · obtain rfl : q' = q := Option.some.inj (hq'.symm.trans hq)
      exact .inl ⟨p, r, hp, hr, Std.TransCmp.eq_trans same same'⟩
    · rw [hb] at hq
      cases hq
  · rcases hbc with ⟨q, r, hq, _, _⟩ | ⟨_, hc⟩
    · rw [hb] at hq
      cases hq
    · exact .inr ⟨ha, hc⟩

end Number

/-! ### Join keys

Equality of keys is symmetric and transitive.  Unlike a comparison it takes not-a-number for the
same as itself. -/

namespace JoinKey

theorem same_symm {a b : JoinKey} (h : a.same b = true) : b.same a = true := by
  cases a <;> cases b <;> simp_all [same, Number.same_symm]

theorem same_trans {a b c : JoinKey} (hab : a.same b = true) (hbc : b.same c = true) :
    a.same c = true := by
  cases a with
  | number m =>
      cases b <;> cases c <;> simp_all [same]
      exact Number.same_trans hab hbc
  | _ => cases b <;> cases c <;> simp_all [same]

/-- Equal keys are equal to the same keys. -/
theorem same_congr {a b : JoinKey} (h : a.same b = true) (c : JoinKey) : a.same c = b.same c := by
  rw [Bool.eq_iff_iff]
  constructor
  · exact same_trans (same_symm h)
  · exact same_trans h

end JoinKey

namespace JoinIndex

/-! ### The index of a join

The index is a list of groups with different keys.  Adding a record puts it into the group of its
key, so that searching for a key gives the records with that key in the order in which they came. -/

/-- A record that is added is found under every key that equals its own, behind those found there
before. -/
theorem find_add (key : JoinKey) (r : Record) (index : JoinIndex) (wanted : JoinKey) :
    (index.add key r).find wanted =
      if key.same wanted then index.find wanted ++ [r] else index.find wanted := by
  induction index with
  | nil =>
      by_cases h : key.same wanted
      · simp [add, find, h]
      · simp [add, find, h]
  | cons entry rest ih =>
      rcases entry with ⟨k, records⟩
      by_cases hk : k.same key
      · have same := JoinKey.same_congr hk wanted
        by_cases h : key.same wanted
        · simp [add, find, hk, same, h]
        · simp [add, find, hk, same, h]
      · by_cases h : k.same wanted
        · have other : key.same wanted = false := by
            rw [Bool.eq_false_iff]
            intro hw
            exact hk (JoinKey.same_trans h (JoinKey.same_symm hw))
          simp [add, find, hk, h, other]
        · simpa [add, find, hk, h] using ih

/-- An index finds the records whose key equals the wanted one, in their order. -/
theorem find_build {scope : Scope} {field : String} {records : List Record} {index : JoinIndex}
    {value : Record → Value}
    (reads : ∀ r ∈ records, ∀ v, scope.resolve r field = .ok v → v = value r)
    (h : build scope field records = .ok index) (wanted : JoinKey) :
    index.find wanted = records.filter fun r => (value r).joinKey?.any (·.same wanted) := by
  -- The induction is on the records, over any index that was built from those before them.
  suffices ∀ start : JoinIndex,
      records.foldlM (gather scope field) start = .ok index →
      index.find wanted =
        start.find wanted ++ records.filter fun r => (value r).joinKey?.any (·.same wanted) by
    simpa [find] using this [] h
  clear h
  induction records with
  | nil =>
      intro start h
      cases h
      simp
  | cons r records ih =>
      intro start h
      rw [List.foldlM_cons] at h
      obtain ⟨next, added, h⟩ := bind_eq_ok.1 h
      obtain ⟨v, hv, added⟩ := bind_eq_ok.1 added
      have rest := ih (fun r' hr' => reads r' (List.mem_cons_of_mem r hr')) next h
      obtain rfl := reads r List.mem_cons_self v hv
      rw [rest, List.filter_cons]
      cases key : (value r).joinKey? with
      | none =>
          rw [key] at added
          cases added
          simp
      | some k =>
          rw [key] at added
          cases added
          rw [find_add]
          by_cases same : k.same wanted
          · simp [same]
          · simp [same]

end JoinIndex

end DocQuery
