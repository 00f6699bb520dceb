/-
Module: DocQuery.Proofs.SortRuns
Purpose: Sorting permutes a list, compares the elements of every two places that become neighbours,
  and compares no element with itself.
Main exports: StableSort.RunStack.Stacked, StableSort.sortBy_ends
-/
import DocQuery.Proofs.SortMerges
import DocQuery.StableSort.Runs

namespace DocQuery.StableSort

open Outcome
open scoped List

variable {α ε : Type} {P : ε → Prop} {below : α → α → Except ε Bool} {before : α → α → Prop}

/-! ### Finding runs

A run is found by comparing neighbours, or grows by inserting elements between two that they were
compared with.  Either way it is a chain. -/

/-- The elements that are counted continue the run, each related to the one before it. -/
theorem runLength_ends {related : α → α → Except ε Bool}
    (h : ∀ x y, before x y → FailsOnly P (related x y)) {last : α} {xs : List α}
    (places : (last :: xs).Pairwise before) :
    Ends P (fun n => (last :: xs.take n).IsChain fun x y => before x y ∧ related x y = .ok true)
      (runLength related last xs) := by
  induction xs generalizing last with
  | nil => exact .ok (by simp)
  | cons x xs ih =>
      have earlier : before last x := List.rel_of_pairwise_cons places List.mem_cons_self
      refine (Ends.self (h last x earlier)).bind fun continues tested => ?_
      cases continues with
      | true =>
          refine (ih places.of_cons).bind fun n chain => .ok ?_
          rw [List.take_succ_cons, List.isChain_cons_cons]
          exact ⟨⟨earlier, tested⟩, chain⟩
      | false => exact .ok (by simp)

/-- An element is put between two that it was compared with. -/
theorem insertSorted_ends (compares : ComparesWith P below before) {sorted : Array α} {x : α}
    (chain : sorted.toList.IsChain (MayPrecede below before))
    (earlier : ∀ y ∈ sorted, before y x) :
    Ends P (fun out => out.toList.Perm (sorted.toList ++ [x]) ∧
        out.toList.IsChain (MayPrecede below before))
      (insertSorted below sorted x) := by
  refine (binarySearch_ends (fun y hy => ?_) (Nat.zero_le _) (Nat.le_refl _)).bind
    fun place halved => .ok ⟨?_, ?_⟩
  · exact (compares y x (earlier y hy)).2.bind fun b _ => .ok _
  · have moved : ([x] ++ sorted.toList.drop place).Perm (sorted.toList.drop place ++ [x]) :=
      List.perm_append_comm
    simpa [← List.append_assoc] using moved.append_left (sorted.toList.take place)
  · have split : Splits _ sorted.toList place :=
      halved.splits (by simp) (fun h => absurd h (Nat.lt_irrefl 0)) (.outside (by simp) false)
    refine List.isChain_append.2 ⟨chain.take place, ?_, fun y hy z hz => ?_⟩
    · have next (y : α) (hy : y ∈ (sorted.toList.drop place).head?) :
          MayPrecede below before x y := .inr (not_eq_ok.1 (split.next y hy))
      exact List.isChain_cons.2 ⟨next, chain.drop place⟩
    · obtain rfl : x = z := by simpa using hz
      have mem : y ∈ sorted := by
        simpa using List.mem_of_mem_take (List.mem_of_getLast? hy)
      exact .inl ⟨earlier y mem, not_eq_ok.1 (split.last y hy)⟩

/-- Elements behind a run are inserted into it one after the other. -/
theorem fill_ends (compares : ComparesWith P below before) {sorted : Array α} {xs : List α}
    (chain : sorted.toList.IsChain (MayPrecede below before))
    (earlier : ∀ y ∈ sorted.toList, ∀ x ∈ xs, before y x) (places : xs.Pairwise before) :
    Ends P (fun out => out.toList.Perm (sorted.toList ++ xs) ∧
        out.toList.IsChain (MayPrecede below before))
      (xs.foldlM (insertSorted below) sorted) := by
  induction xs generalizing sorted with
  | nil => exact .ok ⟨by simp, chain⟩
  | cons x xs ih =>
      rw [List.foldlM_cons]
      refine (insertSorted_ends compares chain fun y hy => ?_).bind fun next ⟨perm, chain'⟩ => ?_
      · exact earlier y hy.val x List.mem_cons_self
      · refine (ih chain' (fun y hy z hz => ?_) places.of_cons).mono fun out ⟨perm', chain''⟩ => ?_
        · rcases List.mem_append.1 (perm.mem_iff.1 hy) with old | new
          · exact earlier y old z (List.mem_cons_of_mem x hz)
          · obtain rfl := List.mem_singleton.1 new
            exact List.rel_of_pairwise_cons places hz
        · refine ⟨perm'.trans ?_, chain''⟩
          simpa using perm.append_right xs

/-- However a run was found, the elements that it lacks are inserted behind it. -/
theorem filled_ends (compares : ComparesWith P below before) (least more : Nat) {x y : α}
    {rest run : List α} (places : (x :: y :: rest).Pairwise before)
    (perm : run.Perm (x :: y :: rest.take more)) (chain : run.IsChain (MayPrecede below before)) :
    Ends P (fun out => out.1.Perm (x :: (y :: rest).take out.2) ∧
        out.1.IsChain (MayPrecede below before))
      (do
        let full ← ((rest.drop more).take (least - run.length)).foldlM (insertSorted below)
          run.toArray
        return (full.toList, 1 + more + (least - run.length))) := by
  have split : (x :: y :: rest.take more ++ rest.drop more).Pairwise before := by
    simpa using places
  rw [List.pairwise_append] at split
  refine (fill_ends compares chain (fun z hz w hw => ?_) ?_).bind
    fun full ⟨perm', chain'⟩ => .ok ⟨?_, chain'⟩
  · exact split.2.2 z (perm.mem_iff.1 hz) w (List.mem_of_mem_take hw)
  · exact split.2.1.take
  · refine perm'.trans ((perm.append_right _).trans (.of_eq ?_))
    rw [show 1 + more + (least - run.length) = more + (least - run.length) + 1 by omega,
      List.take_succ_cons, List.take_add]
    rfl

/-- The next run has the elements that it takes. -/
theorem nextRun_ends (compares : ComparesWith P below before) (least : Nat) {x : α} {xs : List α}
    (places : (x :: xs).Pairwise before) :
    Ends P (fun out => out.1.Perm (x :: xs.take out.2) ∧
        out.1.IsChain (MayPrecede below before))
      (nextRun below least x xs) := by
  cases xs with
  | nil => exact .ok ⟨.refl _, by simp⟩
  | cons y rest =>
      have earlier : before x y := List.rel_of_pairwise_cons places List.mem_cons_self
      refine (Ends.self (compares x y earlier).2).bind fun descends tested => ?_
      cases descends with
      | true =>
          -- A strictly descending run is turned around, so that each element is below the next.
          refine (runLength_ends (fun a b h => (compares a b h).2) places.of_cons).bind
            fun more chain => filled_ends compares least more places (List.reverse_perm _)
              (List.isChain_reverse.2 ?_)
          exact List.isChain_cons_cons.2 ⟨.inr tested, chain.imp fun a b h => .inr h.2⟩
      | false =>
          refine (runLength_ends (fun a b h => ?_) places.of_cons).bind
            fun more chain => filled_ends compares least more places (.refl _) ?_
          · exact (compares a b h).2.bind fun c _ => .ok _
          · refine List.isChain_cons_cons.2 ⟨.inl ⟨earlier, tested⟩, chain.imp fun a b h => ?_⟩
            exact .inl ⟨h.1, not_eq_ok.1 h.2⟩

/-! ### Stacks of runs

Runs that were found are put on a stack and merged with their neighbours.  The invariant keeps each
of them a chain and their elements in the order of the list, run by run. -/

namespace RunStack

variable {runs : List (Run α)}

/-- All elements of a stack of runs. -/
def elements (runs : List (Run α)) : List α :=
  runs.flatMap Run.elements

/-- Runs that are sorted, each with elements that came before those of the later runs. -/
structure Stacked (below : α → α → Except ε Bool) (before : α → α → Prop) (runs : List (Run α)) :
    Prop where
  chains : ∀ run ∈ runs, run.elements.IsChain (MayPrecede below before)
  ordered : runs.Pairwise fun later earlier =>
    ∀ x ∈ earlier.elements, ∀ y ∈ later.elements, before x y

theorem Stacked.cons (h : Stacked below before runs) {run : Run α}
    (chain : run.elements.IsChain (MayPrecede below before))
    (earlier : ∀ x ∈ elements runs, ∀ y ∈ run.elements, before x y) :
    Stacked below before (run :: runs) := by
  refine ⟨List.forall_mem_cons.2 ⟨chain, h.chains⟩, List.pairwise_cons.2 ⟨?_, h.ordered⟩⟩
  exact fun r hr x hx => earlier x (List.mem_flatMap_of_mem hr hx)

theorem Stacked.of_cons {run : Run α} (h : Stacked below before (run :: runs)) :
    Stacked below before runs :=
  ⟨fun r hr => h.chains r (List.mem_cons_of_mem run hr), h.ordered.of_cons⟩

theorem Stacked.earlier {run : Run α} (h : Stacked below before (run :: runs)) :
    ∀ x ∈ elements runs, ∀ y ∈ run.elements, before x y := by
  intro x hx
  obtain ⟨r, hr, hx⟩ := List.mem_flatMap.1 hx
  exact List.rel_of_pairwise_cons h.ordered hr x hx

/-- Two neighbouring runs of a stack are merged into one in their place. -/
theorem Stacked.mergeRuns_ends (compares : ComparesWith P below before) (patience power : Nat)
    {later earlier : Run α} (h : Stacked below before (later :: earlier :: runs)) :
    Ends P (fun out => Stacked below before (⟨out.1, power⟩ :: runs) ∧
        (elements (⟨out.1, power⟩ :: runs)).Perm (elements (later :: earlier :: runs)))
      (mergeRuns below patience earlier.elements later.elements) := by
  refine (StableSort.mergeRuns_ends compares patience (h.chains earlier (by simp))
    (h.chains later (by simp)) fun x hx => ?_).mono ?_
  · exact h.earlier x (List.mem_append_left _ hx)
  · rintro out ⟨perm, chain⟩
    constructor
    · refine h.of_cons.of_cons.cons chain fun x hx y hy => ?_
      rcases List.mem_append.1 (perm.mem_iff.1 hy) with old | new
      · exact h.of_cons.earlier x hx y old
      · exact h.earlier x (List.mem_append_right _ hx) y new
    · simp only [elements, List.flatMap_cons]
      rw [← List.append_assoc]
      exact (perm.trans List.perm_append_comm).append_right _

section Compares

variable (compares : ComparesWith P below before)

include compares

/-- Merging away boundaries leaves a stack with the same elements. -/
theorem collapse_ends (power patience : Nat) (h : Stacked below before runs) :
    Ends P (fun out => Stacked below before out.runs ∧ (elements out.runs).Perm (elements runs))
      (collapse below power patience runs) := by
  induction size : runs.length using Nat.strongRecOn generalizing patience runs with
  | ind n ih =>
      rcases runs with _ | ⟨last, _ | ⟨previous, runs⟩⟩
      · unfold collapse
        exact .ok ⟨h, .refl _⟩
      · unfold collapse
        exact .ok ⟨h, .refl _⟩
      · unfold collapse
        by_cases deeper : power < last.power
        · rw [if_pos deeper]
          refine (h.mergeRuns_ends compares patience previous.power).bind fun out merged => ?_
          refine (ih _ (by simp [← size]) out.2 merged.1 rfl).mono fun stack collapsed => ?_
          exact ⟨collapsed.1, collapsed.2.trans merged.2⟩
        · rw [if_neg deeper]
          exact .ok ⟨h, .refl _⟩

/-- A run that is added comes last. -/
theorem push_ends (total : Nat) {stack : RunStack α} {run : List α}
    (h : Stacked below before stack.runs) (chain : run.IsChain (MayPrecede below before))
    (earlier : ∀ x ∈ elements stack.runs, ∀ y ∈ run, before x y) :
    Ends P (fun out => Stacked below before out.runs ∧
        (elements out.runs).Perm (run ++ elements stack.runs))
      (stack.push below total run) := by
  rcases stack with ⟨_ | ⟨last, runs⟩, patience⟩
  · exact .ok ⟨h.cons chain earlier, .refl _⟩
  · refine (collapse_ends compares _ patience h).bind fun out ⟨stacked, perm⟩ => .ok ⟨?_, ?_⟩
    · exact stacked.cons chain fun x hx => earlier x (perm.mem_iff.1 hx)
    · exact perm.append_left run

/-- Merging all runs of a stack makes one chain of them. -/
theorem finish_ends (patience : Nat) (h : Stacked below before runs) :
    Ends P (fun out => out.Perm (elements runs) ∧ out.IsChain (MayPrecede below before))
      (finish below patience runs) := by
  induction size : runs.length using Nat.strongRecOn generalizing patience runs with
  | ind n ih =>
      rcases runs with _ | ⟨last, _ | ⟨previous, _ | ⟨earlier, runs⟩⟩⟩
      · unfold finish
        exact .ok ⟨.refl _, .nil⟩
      · unfold finish
        exact .ok ⟨by simp [elements], h.chains last List.mem_cons_self⟩
      · unfold finish
        refine (h.mergeRuns_ends compares patience 0).bind fun out ⟨stacked, perm⟩ => .ok ⟨?_, ?_⟩
        · simpa [elements] using perm
        · exact stacked.chains _ List.mem_cons_self
      · unfold finish
        by_cases shorter : earlier.elements.length < last.elements.length
        · rw [if_pos shorter]
          refine (h.of_cons.mergeRuns_ends compares patience earlier.power).bind
            fun out ⟨stacked, perm⟩ => ?_
          have stacked' := stacked.cons (h.chains last List.mem_cons_self)
            fun x hx => h.earlier x (perm.mem_iff.1 hx)
          refine (ih _ (by simp [← size]) out.2 stacked' rfl).mono fun ys finished => ?_
          exact ⟨finished.1.trans (perm.append_left last.elements), finished.2⟩
        · rw [if_neg shorter]
          refine (h.mergeRuns_ends compares patience previous.power).bind
            fun out ⟨stacked, perm⟩ => ?_
          refine (ih _ (by simp [← size]) out.2 stacked rfl).mono fun ys finished => ?_
          exact ⟨finished.1.trans perm, finished.2⟩

end Compares

end RunStack

/-- Gathering the runs of a list puts all its elements on the stack. -/
theorem gatherRuns_ends (compares : ComparesWith P below before) (least total : Nat)
    {stack : RunStack α} {xs : List α} (h : RunStack.Stacked below before stack.runs)
    (earlier : ∀ x ∈ RunStack.elements stack.runs, ∀ y ∈ xs, before x y)
    (places : xs.Pairwise before) :
    Ends P (fun out => RunStack.Stacked below before out.runs ∧
        (RunStack.elements out.runs).Perm (RunStack.elements stack.runs ++ xs))
      (gatherRuns below least total stack xs) := by
  -- Each run takes at least one element, so that the list behind it is shorter.
  induction size : xs.length using Nat.strongRecOn generalizing stack xs with
  | ind n ih =>
      cases xs with
      | nil =>
          unfold gatherRuns
          exact .ok ⟨h, by simp⟩
      | cons x xs =>
          unfold gatherRuns
          refine (nextRun_ends compares least places).bind fun run ⟨perm, chain⟩ => ?_
          have whole : x :: xs.take run.2 ++ xs.drop run.2 = x :: xs := by
            simp
          have split := List.pairwise_append.1 (whole ▸ places)
          refine (RunStack.push_ends compares total h chain fun y hy z hz => ?_).bind
            fun pushed ⟨stacked, perm'⟩ => ?_
          · exact earlier y hy z (whole ▸ List.mem_append_left _ (perm.mem_iff.1 hz))
          · have less : (xs.drop run.2).length < n := by
              rw [← size, List.length_drop, List.length_cons]
              omega
            refine (ih _ less stacked (fun y hy z hz => ?_) split.2.1 rfl).mono
              fun out ⟨stacked', perm''⟩ => ⟨stacked', perm''.trans ?_⟩
            · rcases List.mem_append.1 (perm'.mem_iff.1 hy) with new | old
              · exact split.2.2 y (perm.mem_iff.1 new) z hz
              · exact earlier y old z (List.mem_cons_of_mem x (List.mem_of_mem_drop hz))
            · calc RunStack.elements pushed.runs ++ xs.drop run.2
                _ ~ run.1 ++ RunStack.elements stack.runs ++ xs.drop run.2 := perm'.append_right _
                _ ~ RunStack.elements stack.runs ++ run.1 ++ xs.drop run.2 :=
                  List.perm_append_comm.append_right _
                _ ~ RunStack.elements stack.runs ++ (x :: xs.take run.2) ++ xs.drop run.2 :=
                  (perm.append_left _).append_right _
                _ = RunStack.elements stack.runs ++ (x :: xs) := by rw [List.append_assoc, whole]

/-- Sorting ends with the elements of the list as a chain, or as a comparison of two elements of
different places does. -/
theorem sortBy_ends (compares : ComparesWith P below before) {xs : List α}
    (places : xs.Pairwise before) :
    Ends P (fun ys => ys.Perm xs ∧ ys.IsChain (MayPrecede below before)) (sortBy below xs) := by
  have empty : RunStack.Stacked below before [] := ⟨by simp, .nil⟩
  refine (gatherRuns_ends compares _ _ empty (by simp [RunStack.elements]) places).bind
    fun stack ⟨stacked, perm⟩ => ?_
  refine (RunStack.finish_ends compares _ stacked).mono fun ys ⟨perm', chain⟩ => ⟨?_, chain⟩
  exact perm'.trans perm

end DocQuery.StableSort
