/-
Module: DocQuery.Proofs.Outcome
Purpose: When computations that may fail succeed, and what they may fail with.
Main exports: Outcome.bind_eq_ok, Outcome.mapM_eq_ok_iff, Outcome.FailsOnly,
  filterFirst_of_filterAll
-/
import DocQuery.Query.Limit
import Mathlib.Data.List.Forall2

namespace DocQuery

namespace Outcome

variable {α β γ ε : Type}

/-! ### Success -/

/-- A sequence of two computations succeeds exactly if both do. -/
theorem bind_eq_ok {x : Except ε α} {f : α → Except ε β} {b : β} :
    x >>= f = .ok b ↔ ∃ a, x = .ok a ∧ f a = .ok b := by
  cases x with
  | error e => simp [bind, Except.bind]
  | ok a => simp [bind, Except.bind]

/-- A sequence of two computations fails where one of them does. -/
theorem bind_eq_error {x : Except ε α} {f : α → Except ε β} {e : ε} :
    x >>= f = .error e ↔ x = .error e ∨ ∃ a, x = .ok a ∧ f a = .error e := by
  cases x with
  | error e' => simp [bind, Except.bind]
  | ok a => simp [bind, Except.bind]

@[simp] theorem ok_bind (a : α) (f : α → Except ε β) : (.ok a : Except ε α) >>= f = f a :=
  rfl

@[simp] theorem error_bind (e : ε) (f : α → Except ε β) :
    (.error e : Except ε α) >>= f = .error e :=
  rfl

@[simp] theorem pure_eq_ok (a : α) : (pure a : Except ε α) = .ok a :=
  rfl

@[simp] theorem throw_eq_error (e : ε) : (throw e : Except ε α) = .error e :=
  rfl

@[simp] theorem discard_eq_ok {x : Except ε α} {u : Unit} :
    discard x = .ok u ↔ ∃ a, x = .ok a := by
  cases x <;> simp [discard, Functor.mapConst, Except.map]

@[simp] theorem map_eq_ok {x : Except ε α} {f : α → β} {b : β} :
    f <$> x = .ok b ↔ ∃ a, x = .ok a ∧ f a = b := by
  cases x <;> simp [Functor.map, Except.map]

/-- A function maps all items of a list exactly if it maps each of them. -/
theorem mapM_eq_ok_iff {f : α → Except ε β} {xs : List α} {ys : List β} :
    xs.mapM f = .ok ys ↔ List.Forall₂ (fun x y => f x = .ok y) xs ys := by
  induction xs generalizing ys with
  | nil =>
      cases ys <;> simp
  | cons x xs ih =>
      simp only [List.mapM_cons, bind_eq_ok, pure_eq_ok, Except.ok.injEq, ih]
      constructor
      · rintro ⟨y, hy, ys', hys, rfl⟩
        exact .cons hy hys
      · rintro (_ | ⟨hy, hys⟩)
        exact ⟨_, hy, _, hys, rfl⟩

/-- A list is mapped if each of its items is. -/
theorem exists_mapM_eq_ok {f : α → Except ε β} {xs : List α} (h : ∀ x ∈ xs, ∃ y, f x = .ok y) :
    ∃ ys, xs.mapM f = .ok ys := by
  induction xs with
  | nil => exact ⟨[], rfl⟩
  | cons x xs ih =>
      obtain ⟨⟨y, hy⟩, rest⟩ := List.forall_mem_cons.1 h
      obtain ⟨ys, hys⟩ := ih rest
      exact ⟨y :: ys, mapM_eq_ok_iff.2 (.cons hy (mapM_eq_ok_iff.1 hys))⟩

/-- If a list is mapped, then so is each of its items. -/
theorem exists_of_mapM_eq_ok {f : α → Except ε β} {xs : List α} {ys : List β}
    (h : xs.mapM f = .ok ys) {x : α} (hx : x ∈ xs) : ∃ y, f x = .ok y := by
  rw [mapM_eq_ok_iff] at h
  induction h with
  | nil => cases hx
  | cons hxy _ ih =>
      rcases List.mem_cons.1 hx with rfl | later
      · exact ⟨_, hxy⟩
      · exact ih later

/-- What is mapped from the first items of a list is the first part of what is mapped from all. -/
theorem mapM_take {f : α → Except ε β} {xs : List α} {ys : List β} (n : Nat)
    (h : xs.mapM f = .ok ys) : (xs.take n).mapM f = .ok (ys.take n) :=
  mapM_eq_ok_iff.2 (List.forall₂_take n (mapM_eq_ok_iff.1 h))

/-- Whatever is mapped from a list is mapped from one of its items. -/
theorem exists_of_mem_mapM {f : α → Except ε β} {xs : List α} {ys : List β} (h : xs.mapM f = .ok ys)
    {y : β} (hy : y ∈ ys) : ∃ x ∈ xs, f x = .ok y := by
  rw [mapM_eq_ok_iff] at h
  induction h with
  | nil => cases hy
  | cons hxy _ ih =>
      rcases List.mem_cons.1 hy with rfl | later
      · exact ⟨_, List.mem_cons_self, hxy⟩
      · obtain ⟨x, hx, same⟩ := ih later
        exact ⟨x, List.mem_cons_of_mem _ hx, same⟩

/-- If each item is mapped to `g` of it, then the list is mapped to `g` of its items. -/
theorem eq_map_of_mapM {f : α → Except ε β} {g : α → β} {xs : List α} {ys : List β}
    (h : xs.mapM f = .ok ys) (hg : ∀ x ∈ xs, ∀ y, f x = .ok y → y = g x) : ys = xs.map g := by
  rw [mapM_eq_ok_iff] at h
  induction h with
  | nil => rfl
  | cons hxy _ ih =>
      rw [List.map_cons, hg _ (by simp) _ hxy,
        ih fun x hx y hy => hg x (List.mem_cons_of_mem _ hx) y hy]

/-- A list whose items are all mapped is mapped to what they are mapped to. -/
theorem mapM_eq_ok_map {f : α → Except ε β} {g : α → β} {xs : List α}
    (h : ∀ x ∈ xs, f x = .ok (g x)) : xs.mapM f = .ok (xs.map g) :=
  mapM_eq_ok_iff.2 (List.forall₂_map_right_iff.2 (List.forall₂_same.2 h))

/-- A list is folded if each turn can be taken, whatever was folded before. -/
theorem exists_foldlM_eq_ok {f : β → α → Except ε β} {xs : List α}
    (h : ∀ x ∈ xs, ∀ b, ∃ b', f b x = .ok b') (b : β) : ∃ c, xs.foldlM f b = .ok c := by
  induction xs generalizing b with
  | nil => exact ⟨b, rfl⟩
  | cons x xs ih =>
      obtain ⟨b', hx⟩ := h x List.mem_cons_self b
      obtain ⟨c, hc⟩ := ih (fun x' hx' => h x' (List.mem_cons_of_mem x hx')) b'
      exact ⟨c, by rw [List.foldlM_cons, hx, ok_bind, hc]⟩

/-- If each turn of a fold gives what `g` gives, then so does the fold. -/
theorem eq_foldl_of_foldlM {f : β → α → Except ε β} {g : β → α → β} {xs : List α} {b c : β}
    (h : xs.foldlM f b = .ok c) (hg : ∀ x ∈ xs, ∀ b b', f b x = .ok b' → b' = g b x) :
    c = xs.foldl g b := by
  induction xs generalizing b with
  | nil =>
      cases h
      rfl
  | cons x xs ih =>
      rw [List.foldlM_cons] at h
      obtain ⟨b', hx, h⟩ := bind_eq_ok.1 h
      rw [List.foldl_cons, ← hg x List.mem_cons_self b b' hx]
      exact ih h fun x' hx' => hg x' (List.mem_cons_of_mem x hx')

/-- Looping over a list succeeds exactly if every turn does. -/
theorem forM_eq_ok_iff {f : α → Except ε Unit} {xs : List α} :
    xs.forM f = .ok () ↔ ∀ x ∈ xs, f x = .ok () := by
  rw [List.forM_eq_forM]
  induction xs with
  | nil => simp
  | cons x xs ih =>
      simp only [List.forM_cons, bind_eq_ok, ih, List.mem_cons, forall_eq_or_imp]
      constructor
      · rintro ⟨_, hx, hxs⟩
        exact ⟨hx, hxs⟩
      · rintro ⟨hx, hxs⟩
        exact ⟨(), hx, hxs⟩

/-! ### Failure

`FailsOnly` says nothing about success.  It is preserved by everything that computations are put
together from, so that it is proved along the structure of a computation. -/

/-- A computation fails exactly if it has no result. -/
theorem exists_eq_error_iff {x : Except ε α} : (∃ e, x = .error e) ↔ ¬ ∃ a, x = .ok a := by
  cases x <;> simp

/-- Every error that a computation can end with has a property. -/
def FailsOnly (P : ε → Prop) (x : Except ε α) : Prop :=
  ∀ e, x = .error e → P e

namespace FailsOnly

variable {P : ε → Prop}

theorem ok (a : α) : FailsOnly P (.ok a) := by
  intro e h
  cases h

theorem error {e : ε} (h : P e) : FailsOnly P (.error e : Except ε α) := by
  intro e' h'
  cases h'
  exact h

theorem of_eq_ok {x : Except ε α} {a : α} (h : x = .ok a) : FailsOnly P x :=
  h ▸ ok a

theorem mono {Q : ε → Prop} {x : Except ε α} (h : FailsOnly P x) (hPQ : ∀ e, P e → Q e) :
    FailsOnly Q x :=
  fun e he => hPQ e (h e he)

theorem bind {x : Except ε α} {f : α → Except ε β} (hx : FailsOnly P x)
    (hf : ∀ a, x = .ok a → FailsOnly P (f a)) : FailsOnly P (x >>= f) := by
  intro e h
  rcases bind_eq_error.1 h with h | ⟨a, ha, h⟩
  · exact hx e h
  · exact hf a ha e h

theorem map {x : Except ε α} (f : α → β) (hx : FailsOnly P x) : FailsOnly P (f <$> x) := by
  cases x with
  | ok a => exact ok (f a)
  | error e => exact error (hx e rfl)

theorem mapM {f : α → Except ε β} {xs : List α} (h : ∀ x ∈ xs, FailsOnly P (f x)) :
    FailsOnly P (xs.mapM f) := by
  induction xs with
  | nil => exact ok []
  | cons x xs ih =>
      rw [List.mapM_cons]
      refine (h x (by simp)).bind fun y _ => ?_
      refine (ih fun x' hx' => h x' (List.mem_cons_of_mem x hx')).bind fun ys _ => ?_
      exact ok _

theorem forM {f : α → Except ε Unit} {xs : List α} (h : ∀ x ∈ xs, FailsOnly P (f x)) :
    FailsOnly P (xs.forM f) := by
  rw [List.forM_eq_forM]
  induction xs with
  | nil => exact ok ()
  | cons x xs ih =>
      rw [List.forM_cons]
      refine (h x (by simp)).bind fun _ _ => ?_
      exact ih fun x' hx' => h x' (List.mem_cons_of_mem x hx')

/-- The turns of a fold matter only for its items; what is folded so far may be anything. -/
theorem foldlM {f : β → α → Except ε β} {xs : List α} (b : β)
    (h : ∀ x ∈ xs, ∀ b, FailsOnly P (f b x)) : FailsOnly P (xs.foldlM f b) := by
  induction xs generalizing b with
  | nil => exact ok b
  | cons x xs ih =>
      rw [List.foldlM_cons]
      refine (h x (by simp) b).bind fun b' _ => ?_
      exact ih b' fun x' hx' => h x' (List.mem_cons_of_mem x hx')

end FailsOnly

end Outcome

/-! ### Rows that pass a test

The search for rows stops at a limit.  It then has found the first of the rows that a search without
a limit finds, but fails less often. -/

section Filter

open Outcome

variable {α : Type}

private theorem filterAuxM_eq (test : α → Except QueryError Bool) (xs acc : List α) :
    xs.filterAuxM test acc = (fun ys => ys ++ acc) <$> xs.filterAuxM test [] := by
  induction xs generalizing acc with
  | nil => rfl
  | cons x xs ih =>
      simp only [List.filterAuxM]
      cases test x with
      | error e => rfl
      | ok passes =>
          rw [ok_bind, ok_bind, ih (cond passes (x :: acc) acc), ih (cond passes [x] [])]
          cases List.filterAuxM test xs [] with
          | error e => rfl
          | ok ys => cases passes <;> simp [Functor.map, Except.map]

/-- The rows of a list that pass are its first row, if it passes, and the others that do. -/
theorem filterAll_cons (test : α → Except QueryError Bool) (x : α) (xs : List α) :
    filterAll test (x :: xs) = do
      let passes ← test x
      let rest ← filterAll test xs
      return if passes then x :: rest else rest := by
  simp only [filterAll, List.filterM, List.filterAuxM]
  cases test x with
  | error e => rfl
  | ok passes =>
      rw [ok_bind, ok_bind, filterAuxM_eq test xs (cond passes [x] [])]
      cases List.filterAuxM test xs [] with
      | error e => rfl
      | ok ys => cases passes <;> simp [Functor.map, Except.map]

/-- Filtering fails only where the test does. -/
theorem filterAll_failsOnly {P : QueryError → Prop} {test : α → Except QueryError Bool}
    {xs : List α} (h : ∀ x ∈ xs, FailsOnly P (test x)) : FailsOnly P (filterAll test xs) := by
  induction xs with
  | nil => exact .ok []
  | cons x xs ih =>
      rw [filterAll_cons]
      refine (h x (by simp)).bind fun passes _ => ?_
      refine (ih fun x' hx' => h x' (List.mem_cons_of_mem x hx')).bind fun rest _ => ?_
      exact .ok _

/-- Looking for the first rows fails only where the test does. -/
theorem filterFirst_failsOnly {P : QueryError → Prop} {test : α → Except QueryError Bool}
    {xs : List α} (n : Nat) (h : ∀ x ∈ xs, FailsOnly P (test x)) :
    FailsOnly P (filterFirst test n xs) := by
  induction xs generalizing n with
  | nil => cases n <;> exact .ok []
  | cons x xs ih =>
      have rest (m : Nat) := ih m fun x' hx' => h x' (List.mem_cons_of_mem x hx')
      cases n with
      | zero => exact .ok []
      | succ n =>
          refine (h x (by simp)).bind fun passes _ => ?_
          cases passes with
          | false => exact rest (n + 1)
          | true => exact (rest n).bind fun ys _ => .ok _

/-- If all rows can be tested, then the first rows found are the first of those that pass. -/
theorem filterFirst_of_filterAll {test : α → Except QueryError Bool} {xs ys : List α} (n : Nat)
    (h : filterAll test xs = .ok ys) : filterFirst test n xs = .ok (ys.take n) := by
  induction xs generalizing ys n with
  | nil =>
      cases h
      cases n <;> rfl
  | cons x xs ih =>
      cases n with
      | zero => rfl
      | succ n =>
          rw [filterAll_cons] at h
          obtain ⟨passes, hx, h⟩ := bind_eq_ok.1 h
          obtain ⟨rest, hrest, h⟩ := bind_eq_ok.1 h
          cases h
          cases passes with
          | false => simpa [filterFirst, hx] using ih (n + 1) hrest
          | true => simp [filterFirst, hx, ih n hrest]

/-- Where a test gives what `holds` says, the rows that pass are those for which it holds. -/
theorem eq_filter_of_filterAll {β : Type} {test : α → Except QueryError Bool} {f : β → α}
    {holds : β → Bool} {xs : List β} {ys : List α}
    (agree : ∀ x ∈ xs, ∀ passes, test (f x) = .ok passes → passes = holds x)
    (h : filterAll test (xs.map f) = .ok ys) : ys = (xs.filter holds).map f := by
  induction xs generalizing ys with
  | nil =>
      cases h
      rfl
  | cons x xs ih =>
      rw [List.map_cons, filterAll_cons] at h
      obtain ⟨passes, hx, h⟩ := bind_eq_ok.1 h
      obtain ⟨rest, hrest, h⟩ := bind_eq_ok.1 h
      cases h
      rw [List.filter_cons, ← agree x List.mem_cons_self passes hx,
        ih (fun x' hx' => agree x' (List.mem_cons_of_mem x hx')) hrest]
      cases passes <;> rfl

/-- Where a test gives what `holds` says, the first rows found are the first for which it holds. -/
theorem eq_filter_of_filterFirst {β : Type} {test : α → Except QueryError Bool} {f : β → α}
    {holds : β → Bool} {xs : List β} {ys : List α} {n : Nat}
    (agree : ∀ x ∈ xs, ∀ passes, test (f x) = .ok passes → passes = holds x)
    (h : filterFirst test n (xs.map f) = .ok ys) : ys = ((xs.filter holds).take n).map f := by
  induction xs generalizing ys n with
  | nil =>
      cases n <;> cases h <;> rfl
  | cons x xs ih =>
      cases n with
      | zero =>
          cases h
          rfl
      | succ n =>
          have later (x' : β) (hx' : x' ∈ xs) := agree x' (List.mem_cons_of_mem x hx')
          obtain ⟨passes, hx, h⟩ := bind_eq_ok.1 h
          rw [List.filter_cons, ← agree x List.mem_cons_self passes hx]
          cases passes with
          | false => exact ih later h
          | true =>
              obtain ⟨rest, hrest, h⟩ := bind_eq_ok.1 h
              cases h
              rw [ih later hrest]
              rfl

end Filter

end DocQuery
