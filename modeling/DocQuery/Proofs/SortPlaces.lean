/-
Module: DocQuery.Proofs.SortPlaces
Purpose: A search finds a place whose two neighbours were both tested: the element before it goes
  first, and the one behind it does not.
Main exports: Ends, StableSort.Splits, StableSort.binarySearch_ends, StableSort.gallop_ends
-/
import DocQuery.Proofs.Outcome
import DocQuery.StableSort.Search

namespace DocQuery

open Outcome

/-- A computation ends with a result that has one property, or with an error that has another. -/
structure Ends {α ε : Type} (P : ε → Prop) (Q : α → Prop) (x : Except ε α) : Prop where
  fails : FailsOnly P x
  yields : ∀ a, x = .ok a → Q a

namespace Ends

variable {α β ε : Type} {P : ε → Prop} {Q : α → Prop} {R : β → Prop}

theorem ok {a : α} (h : Q a) : Ends P Q (.ok a) :=
  ⟨.ok a, fun _ hb => Except.ok.inj hb ▸ h⟩

/-- Of a result nothing is known but that it is the result. -/
theorem self {x : Except ε α} (h : FailsOnly P x) : Ends P (fun a => x = .ok a) x :=
  ⟨h, fun _ ha => ha⟩

theorem mono {Q' : α → Prop} {x : Except ε α} (h : Ends P Q x) (hQ : ∀ a, Q a → Q' a) :
    Ends P Q' x :=
  ⟨h.fails, fun a ha => hQ a (h.yields a ha)⟩

theorem bind {x : Except ε α} {f : α → Except ε β} (hx : Ends P Q x)
    (hf : ∀ a, Q a → Ends P R (f a)) : Ends P R (x >>= f) := by
  refine ⟨hx.fails.bind fun a ha => (hf a (hx.yields a ha)).fails, fun b hb => ?_⟩
  obtain ⟨a, ha, hb⟩ := bind_eq_ok.1 hb
  exact (hf a (hx.yields a ha)).yields b hb

end Ends

namespace StableSort

variable {α ε : Type} {P : ε → Prop} {goes : α → Except ε Bool} {xs : List α}

/-- The element at an index, if there is one, was found to go first or not to. -/
def Tested (goes : α → Except ε Bool) (xs : List α) (i : Nat) (first : Bool) : Prop :=
  ∀ x ∈ xs[i]?, goes x = .ok first

theorem Tested.of_getElem {xs : Array α} {i : Nat} {inside : i < xs.size} {first : Bool}
    (h : goes xs[i] = .ok first) : Tested goes xs.toList i first := by
  intro x hx
  rw [Array.getElem?_toList, Array.getElem?_eq_getElem inside, Option.mem_some_iff] at hx
  exact hx ▸ h

theorem Tested.outside {i : Nat} (h : xs.length ≤ i) (first : Bool) : Tested goes xs i first := by
  intro x hx
  rw [List.getElem?_eq_none h] at hx
  cases hx

/-- A place splits a sequence: the last element before it was found to go first, and the next one
not to. -/
structure Splits (goes : α → Except ε Bool) (xs : List α) (place : Nat) : Prop where
  inside : place ≤ xs.length
  last : ∀ x ∈ (xs.take place).getLast?, goes x = .ok true
  next : ∀ x ∈ (xs.drop place).head?, goes x = .ok false

theorem Splits.of_tested {place : Nat} (inside : place ≤ xs.length)
    (last : 0 < place → Tested goes xs (place - 1) true) (next : Tested goes xs place false) :
    Splits goes xs place := by
  refine ⟨inside, fun x hx => ?_, fun x hx => next x (List.head?_drop ▸ hx)⟩
  by_cases first : place = 0
  · simp [first] at hx
  · have found : xs[place - 1]? = some xs[place - 1] := List.getElem?_eq_getElem (by omega)
    rw [List.getLast?_take, if_neg first, found, Option.some_or, ← found] at hx
    exact last (by omega) x hx

/-- What halving a stretch finds: a place in it whose neighbours in the stretch were tested. -/
structure Halved (goes : α → Except ε Bool) (xs : List α) (low high place : Nat) : Prop where
  low_le : low ≤ place
  le_high : place ≤ high
  last : low < place → Tested goes xs (place - 1) true
  next : place < high → Tested goes xs place false

theorem binarySearch_ends {xs : Array α} (h : ∀ x ∈ xs, FailsOnly P (goes x)) {low high : Nat}
    (stretch : low ≤ high) (inside : high ≤ xs.size) :
    Ends P (Halved goes xs.toList low high) (binarySearch goes xs low high) := by
  induction low, high using binarySearch.induct xs with
  | case1 low high within middle inside' ihUp ihDown =>
      unfold binarySearch
      rw [dif_pos within]
      refine (Ends.self (h _ (Array.getElem_mem inside'))).bind fun first tested => ?_
      cases first with
      | true =>
          refine (ihUp (by omega) inside).mono fun place halved => ?_
          refine ⟨by have := halved.low_le; omega, halved.le_high, fun _ => ?_, halved.next⟩
          by_cases here : place = middle + 1
          · exact here ▸ .of_getElem tested
          · exact halved.last (by have := halved.low_le; omega)
      | false =>
          refine (ihDown (by omega) (by omega)).mono fun place halved => ?_
          refine ⟨halved.low_le, by have := halved.le_high; omega, halved.last, fun _ => ?_⟩
          by_cases here : place = middle
          · exact here ▸ .of_getElem tested
          · exact halved.next (by have := halved.le_high; omega)
  | case2 low high outside =>
      unfold binarySearch
      rw [dif_neg outside]
      have same : low = high := by omega
      exact .ok ⟨Nat.le_refl _, stretch, fun h => by omega, fun h => by omega⟩

theorem stepUp_ends {xs : Array α} (h : ∀ x ∈ xs, FailsOnly P (goes x)) {start last distance : Nat}
    (apart : last < distance) (inside : start + last < xs.size)
    (tested : Tested goes xs.toList (start + last) true) :
    Ends P (fun reached => reached.1 < reached.2 ∧ start + reached.2 ≤ xs.size ∧
        Tested goes xs.toList (start + reached.1) true ∧
        Tested goes xs.toList (start + reached.2) false)
      (stepUp goes xs start last distance) := by
  induction last, distance using stepUp.induct xs start with
  | case1 last distance inside' ih =>
      unfold stepUp
      rw [dif_pos inside']
      refine (Ends.self (h _ (Array.getElem_mem inside'))).bind fun first next => ?_
      cases first with
      | true => exact ih (by omega) inside' (.of_getElem next)
      | false => exact .ok ⟨apart, by omega, tested, .of_getElem next⟩
  | case2 last distance outside =>
      unfold stepUp
      rw [dif_neg outside]
      exact .ok ⟨by omega, by omega, tested, .outside (by simp; omega) false⟩

theorem stepDown_ends {xs : Array α} (h : ∀ x ∈ xs, FailsOnly P (goes x))
    {start last distance : Nat} (apart : last < distance) (inside : start < xs.size)
    (within : last ≤ start) (tested : Tested goes xs.toList (start - last) false) :
    Ends P (fun reached => reached.1 < reached.2 ∧ reached.2 ≤ start + 1 ∧
        Tested goes xs.toList (start - reached.1) false ∧
        (reached.2 ≤ start → Tested goes xs.toList (start - reached.2) true))
      (stepDown goes xs start last distance) := by
  induction last, distance using stepDown.induct xs start with
  | case1 last distance inside' at' ih =>
      unfold stepDown
      rw [dif_pos inside']
      refine (Ends.self (h _ (Array.getElem_mem at'))).bind fun first next => ?_
      cases first with
      | true => exact .ok ⟨apart, by omega, tested, fun _ => .of_getElem next⟩
      | false => exact ih (by omega) inside'.1 (.of_getElem next)
  | case2 last distance outside =>
      have past : start < distance := Nat.lt_of_not_le fun near => outside ⟨near, inside⟩
      unfold stepDown
      rw [dif_neg outside]
      exact .ok ⟨by omega, by omega, tested, fun h => by omega⟩

/-- Halving a stretch whose ends were tested on the outside finds a place that splits the whole. -/
theorem Halved.splits {low high place : Nat} (h : Halved goes xs low high place)
    (inside : high ≤ xs.length) (before : 0 < low → Tested goes xs (low - 1) true)
    (behind : Tested goes xs high false) : Splits goes xs place := by
  refine .of_tested (Nat.le_trans h.le_high inside) (fun some' => ?_) ?_
  · by_cases at' : place = low
    · exact at' ▸ before (at' ▸ some')
    · exact h.last (by have := h.low_le; omega)
  · by_cases at' : place = high
    · exact at' ▸ behind
    · exact h.next (by have := h.le_high; omega)

/-- Galloping from inside a sequence finds a place that splits it. -/
theorem gallop_ends {xs : Array α} (h : ∀ x ∈ xs, FailsOnly P (goes x)) {start : Nat}
    (inside : start < xs.size ∨ xs.size = 0) :
    Ends P (Splits goes xs.toList) (gallop goes xs start) := by
  unfold gallop
  by_cases some' : start < xs.size
  · rw [dif_pos some']
    refine (Ends.self (h _ (Array.getElem_mem some'))).bind fun first tested => ?_
    cases first with
    | true =>
        refine (stepUp_ends h Nat.one_pos some' (.of_getElem tested)).bind ?_
        rintro ⟨last, distance⟩ ⟨apart, bound, before, behind⟩
        refine (binarySearch_ends h (by omega) bound).mono fun place halved => ?_
        exact halved.splits (by simpa using bound) (fun _ => before) behind
    | false =>
        refine (stepDown_ends h Nat.one_pos some' (Nat.zero_le _) (.of_getElem tested)).bind ?_
        rintro ⟨last, distance⟩ ⟨apart, bound, behind, before⟩
        refine (binarySearch_ends h (by omega) (by omega)).mono fun place halved => ?_
        refine halved.splits (by simp; omega) (fun low => ?_) behind
        rw [show start + 1 - distance - 1 = start - distance by omega]
        exact before (by omega)
  · rw [dif_neg some']
    have none' : xs.size = 0 := inside.resolve_left some'
    refine .ok (.of_tested (by simp) (fun some'' => by omega) (.outside ?_ false))
    simp

end StableSort

end DocQuery
