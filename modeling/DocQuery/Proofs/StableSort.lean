/-
Module: DocQuery.Proofs.StableSort
Purpose: Sorting looks at elements only by comparing them, and fails only where a comparison does.
Main exports: Mirrors, StableSort.sortBy_mirrors
-/
import DocQuery.Proofs.Outcome
import DocQuery.StableSort.Runs

namespace DocQuery

open Outcome

/-- A computation `y` does to images under `f` what `x` does to the things themselves: it fails as
`x` does, which happens only in ways that have a property, and otherwise gives the image. -/
structure Mirrors {α β ε : Type} (P : ε → Prop) (f : α → β) (x : Except ε α) (y : Except ε β) :
    Prop where
  image : y = f <$> x
  fails : FailsOnly P x

namespace Mirrors

variable {α β γ δ ε : Type} {P : ε → Prop}

theorem pure {f : α → β} {a : α} {b : β} (h : b = f a) :
    Mirrors P f (.ok a : Except ε α) (.ok b) :=
  ⟨by rw [h]; rfl, .ok a⟩

theorem bind {f : α → β} {g : γ → δ} {x : Except ε α} {y : Except ε β} {k : α → Except ε γ}
    {k' : β → Except ε δ} (h : Mirrors P f x y) (hk : ∀ a, Mirrors P g (k a) (k' (f a))) :
    Mirrors P g (x >>= k) (y >>= k') := by
  refine ⟨?_, h.fails.bind fun a _ => (hk a).fails⟩
  rw [h.image]
  cases x with
  | error e => rfl
  | ok a => exact (hk a).image

/-- An answer that is not about the things themselves is its own image. -/
theorem bind_id {g : γ → δ} {x y : Except ε α} {k : α → Except ε γ} {k' : α → Except ε δ}
    (h : Mirrors P id x y) (hk : ∀ a, Mirrors P g (k a) (k' a)) :
    Mirrors P g (x >>= k) (y >>= k') :=
  h.bind hk

theorem dite {c c' : Prop} [Decidable c] [Decidable c'] {f : α → β} {x : c → Except ε α}
    {x' : ¬ c → Except ε α} {y : c' → Except ε β} {y' : ¬ c' → Except ε β} (same : c' ↔ c)
    (ht : ∀ h h', Mirrors P f (x h) (y h')) (he : ∀ h h', Mirrors P f (x' h) (y' h')) :
    Mirrors P f (if h : c then x h else x' h) (if h : c' then y h else y' h) := by
  by_cases h : c
  · rw [dif_pos h, dif_pos (same.2 h)]
    exact ht _ _
  · rw [dif_neg h, dif_neg (mt same.1 h)]
    exact he _ _

theorem ite {c c' : Prop} [Decidable c] [Decidable c'] {f : α → β} {x x' : Except ε α}
    {y y' : Except ε β} (same : c' ↔ c) (ht : Mirrors P f x y) (he : Mirrors P f x' y') :
    Mirrors P f (if c then x else x') (if c' then y else y') :=
  dite same (fun _ _ => ht) fun _ _ => he

theorem not {x y : Except ε Bool} (h : Mirrors P id x y) :
    Mirrors P id (do return !(← x)) (do return !(← y)) :=
  h.bind_id fun _ => pure rfl

theorem foldlM {f : α → β} {g : γ → δ} {k : γ → α → Except ε γ} {k' : δ → β → Except ε δ}
    (h : ∀ c a, Mirrors P g (k c a) (k' (g c) (f a))) (xs : List α) (c : γ) :
    Mirrors P g (xs.foldlM k c) ((xs.map f).foldlM k' (g c)) := by
  induction xs generalizing c with
  | nil => exact pure rfl
  | cons x xs ih =>
      rw [List.map_cons, List.foldlM_cons, List.foldlM_cons]
      exact (h c x).bind ih

end Mirrors

namespace StableSort

variable {α β ε : Type} {P : ε → Prop} {f : α → β}

/-! ### Searching

Each function of the algorithm, from the smallest up, does to images what it does to the things
themselves. -/

section Search

variable {goes : α → Except ε Bool} {goes' : β → Except ε Bool}

theorem binarySearch_mirrors (h : ∀ x, Mirrors P id (goes x) (goes' (f x))) (xs : Array α)
    (low high : Nat) :
    Mirrors P id (binarySearch goes xs low high) (binarySearch goes' (xs.map f) low high) := by
  induction low, high using binarySearch.induct xs with
  | case1 low high inside middle within ihUp ihDown =>
      unfold binarySearch
      rw [dif_pos inside, dif_pos (by simpa using inside)]
      simp only [Array.getElem_map]
      exact (h _).bind_id fun b => .ite .rfl ihUp ihDown
  | case2 low high outside =>
      unfold binarySearch
      rw [dif_neg outside, dif_neg (by simpa using outside)]
      exact .pure rfl

theorem stepUp_mirrors (h : ∀ x, Mirrors P id (goes x) (goes' (f x))) (xs : Array α)
    (start last distance : Nat) :
    Mirrors P id (stepUp goes xs start last distance)
      (stepUp goes' (xs.map f) start last distance) := by
  induction last, distance using stepUp.induct xs start with
  | case1 last distance inside ih =>
      unfold stepUp
      rw [dif_pos inside, dif_pos (by simpa using inside)]
      simp only [Array.getElem_map]
      exact (h _).bind_id fun b => .ite .rfl ih (.pure rfl)
  | case2 last distance outside =>
      unfold stepUp
      rw [dif_neg outside, dif_neg (by simpa using outside)]
      exact .pure (by simp)

theorem stepDown_mirrors (h : ∀ x, Mirrors P id (goes x) (goes' (f x))) (xs : Array α)
    (start last distance : Nat) :
    Mirrors P id (stepDown goes xs start last distance)
      (stepDown goes' (xs.map f) start last distance) := by
  induction last, distance using stepDown.induct xs start with
  | case1 last distance inside within ih =>
      unfold stepDown
      rw [dif_pos inside, dif_pos (by simpa using inside)]
      simp only [Array.getElem_map]
      exact (h _).bind_id fun b => .ite .rfl (.pure rfl) ih
  | case2 last distance outside =>
      unfold stepDown
      rw [dif_neg outside, dif_neg (by simpa using outside)]
      exact .pure rfl

theorem gallop_mirrors (h : ∀ x, Mirrors P id (goes x) (goes' (f x))) (xs : Array α)
    (start : Nat) : Mirrors P id (gallop goes xs start) (gallop goes' (xs.map f) start) := by
  unfold gallop
  by_cases inside : start < xs.size
  · rw [dif_pos inside, dif_pos (by simpa using inside)]
    simp only [Array.getElem_map]
    refine (h _).bind_id fun b => .ite .rfl ?_ ?_
    · exact (stepUp_mirrors h xs start 0 1).bind_id fun reached =>
        binarySearch_mirrors h xs _ _
    · exact (stepDown_mirrors h xs start 0 1).bind_id fun reached =>
        binarySearch_mirrors h xs _ _
  · rw [dif_neg inside, dif_neg (by simpa using inside)]
    exact .pure (by simp)

end Search

section Comparing

variable {below : α → α → Except ε Bool} {below' : β → β → Except ε Bool}

/-! ### Finding runs -/

theorem runLength_mirrors (h : ∀ x y, Mirrors P id (below x y) (below' (f x) (f y))) (last : α)
    (xs : List α) :
    Mirrors P id (runLength below last xs) (runLength below' (f last) (xs.map f)) := by
  induction xs generalizing last with
  | nil => exact .pure rfl
  | cons x xs ih =>
      refine (h last x).bind_id fun b => .ite .rfl ?_ (.pure rfl)
      exact (ih x).bind_id fun n => .pure rfl

theorem insertSorted_mirrors (h : ∀ x y, Mirrors P id (below x y) (below' (f x) (f y)))
    (sorted : Array α) (x : α) :
    Mirrors P (Array.map f) (insertSorted below sorted x)
      (insertSorted below' (sorted.map f) (f x)) := by
  unfold insertSorted
  rw [Array.size_map]
  refine Mirrors.bind_id ?_ fun place => .pure (by simp)
  exact binarySearch_mirrors (fun y => (h x y).not) sorted 0 sorted.size

/-- A run is brought to its length by inserting what stands behind it. -/
theorem fill_mirrors (h : ∀ x y, Mirrors P id (below x y) (below' (f x) (f y))) (more missing : Nat)
    (run rest : List α) :
    Mirrors P (Prod.map (List.map f) id)
      (do
        let full ← ((rest.drop more).take missing).foldlM (insertSorted below) run.toArray
        return (full.toList, 1 + more + missing))
      (do
        let full ← (((rest.map f).drop more).take missing).foldlM (insertSorted below')
          (run.map f).toArray
        return (full.toList, 1 + more + missing)) := by
  have inserted := Mirrors.foldlM (insertSorted_mirrors h) ((rest.drop more).take missing)
    run.toArray
  rw [List.map_take, List.map_drop, List.map_toArray] at inserted
  exact inserted.bind fun full => .pure (by simp)

theorem nextRun_mirrors (h : ∀ x y, Mirrors P id (below x y) (below' (f x) (f y))) (least : Nat)
    (x : α) (xs : List α) :
    Mirrors P (Prod.map (List.map f) id) (nextRun below least x xs)
      (nextRun below' least (f x) (xs.map f)) := by
  cases xs with
  | nil => exact .pure rfl
  | cons y rest =>
      refine (h y x).bind_id fun descends => ?_
      cases descends with
      | true =>
          refine (runLength_mirrors (fun a b => h b a) y rest).bind_id fun more => ?_
          have filled := fill_mirrors h more (least - (x :: y :: rest.take more).reverse.length)
            (x :: y :: rest.take more).reverse rest
          simpa using filled
      | false =>
          refine (runLength_mirrors (fun a b => (h b a).not) y rest).bind_id fun more => ?_
          have filled := fill_mirrors h more (least - (x :: y :: rest.take more).length)
            (x :: y :: rest.take more) rest
          simpa using filled

/-! ### Merging runs

The state of a merge is mapped as a whole.  The recursion is the same on both sides, since it
depends on lengths and on the answers of comparisons only. -/

namespace Merging

/-- Two runs on their way to one, with every element replaced by its image. -/
def map (f : α → β) (m : Merging α) : Merging β :=
  ⟨m.left.map f, m.right.map f, m.merged.map f⟩

@[simp] theorem size_map (m : Merging α) : (m.map f).size = m.size := by
  simp [size, map]

@[simp] theorem isDone_map (side : Side) (m : Merging α) :
    (m.map f).isDone side = m.isDone side := by
  cases side <;> simp [isDone, map]

@[simp] theorem takeLeft_map (n : Nat) (m : Merging α) :
    (m.map f).takeLeft n = (m.takeLeft n).map f := by
  simp [takeLeft, map]

@[simp] theorem takeRight_map (n : Nat) (m : Merging α) :
    (m.map f).takeRight n = (m.takeRight n).map f := by
  simp [takeRight, map]

@[simp] theorem result_map (side : Side) (m : Merging α) :
    (m.map f).result side = (m.result side).map f := by
  cases side <;> simp [result, map]

theorem leftGoesFirst_mirrors (h : ∀ x y, Mirrors P id (below x y) (below' (f x) (f y)))
    (side : Side) (m : Merging α) :
    Mirrors P id (m.leftGoesFirst below side) ((m.map f).leftGoesFirst below' side) := by
  rcases m with ⟨_ | ⟨x, left⟩, _ | ⟨y, right⟩, merged⟩
  · exact .pure rfl
  · exact .pure rfl
  · exact .pure rfl
  · cases side with
    | front => exact (h y x).not
    | back => exact h y x

theorem countFrom_mirrors {goes : α → Except ε Bool} {goes' : β → Except ε Bool}
    (h : ∀ x, Mirrors P id (goes x) (goes' (f x))) (side : Side) (run : List α) :
    Mirrors P id (countFrom side goes run) (countFrom side goes' (run.map f)) := by
  cases side with
  | front => simpa [countFrom] using gallop_mirrors h run.toArray 0
  | back =>
      have search := gallop_mirrors h run.reverse.toArray (run.length - 1)
      rw [List.map_toArray, List.map_reverse] at search
      simp only [countFrom, List.length_map]
      exact search.bind_id fun n => .pure rfl

theorem leftCount_mirrors (h : ∀ x y, Mirrors P id (below x y) (below' (f x) (f y)))
    (side : Side) (m : Merging α) :
    Mirrors P id (m.leftCount below side) ((m.map f).leftCount below' side) := by
  rcases m with ⟨left, _ | ⟨y, right⟩, merged⟩
  · exact .pure rfl
  · exact countFrom_mirrors (fun x => (h y x).not) side left

theorem rightCount_mirrors (h : ∀ x y, Mirrors P id (below x y) (below' (f x) (f y)))
    (side : Side) (m : Merging α) :
    Mirrors P id (m.rightCount below side) ((m.map f).rightCount below' side) := by
  rcases m with ⟨_ | ⟨x, left⟩, right, merged⟩
  · exact .pure rfl
  · exact countFrom_mirrors (fun y => h y x) side right

/-- What a round of galloping gives, with every element replaced by its image. -/
def mapRound (f : α → β) {side : Side} {m : Merging α}
    (round : { n : Merging α // n.isDone side ∨ n.size < m.size } × Bool) :
    { n : Merging β // n.isDone side ∨ n.size < (m.map f).size } × Bool :=
  (⟨round.1.1.map f, by simpa using round.1.2⟩, round.2)

theorem gallopRound_mirrors (h : ∀ x y, Mirrors P id (below x y) (below' (f x) (f y)))
    (side : Side) (m : Merging α) (notDone : m.isDone side = false) :
    Mirrors P (mapRound f) (m.gallopRound below side notDone)
      ((m.map f).gallopRound below' side (by simpa using notDone)) := by
  unfold gallopRound
  refine (leftCount_mirrors h side m).bind_id fun fromLeft => ?_
  refine .dite (by simp) (fun _ _ => .pure (by simp [mapRound])) fun _ _ => ?_
  refine .ite (by simp) (.pure (by simp [mapRound])) ?_
  refine Mirrors.bind_id ?_ fun fromRight => ?_
  · simpa using rightCount_mirrors h side ((m.takeLeft fromLeft).takeRight 1)
  · exact .ite (by simp) (.pure (by simp [mapRound])) (.pure (by simp [mapRound]))

theorem merge_mirrors (h : ∀ x y, Mirrors P id (below x y) (below' (f x) (f y))) (side : Side)
    (gait : Gait) (patience : Nat) (m : Merging α) :
    Mirrors P (Prod.map (List.map f) id) (m.merge below side gait patience)
      ((m.map f).merge below' side gait patience) := by
  induction size : m.size using Nat.strongRecOn generalizing gait patience m with
  | ind n ih =>
      unfold merge
      refine .dite (by simp) (fun _ _ => .pure (by simp)) fun done _ => ?_
      have notDone : m.isDone side = false := Bool.eq_false_iff.2 done
      cases gait with
      | walking leftWins rightWins =>
          refine (leftGoesFirst_mirrors h side m).bind_id fun first => .ite .rfl ?_ ?_
          · rw [takeLeft_map]
            exact ih _ (size ▸ size_takeLeft_one_lt notDone) _ _ _ rfl
          · rw [takeRight_map]
            exact ih _ (size ▸ size_takeRight_one_lt notDone) _ _ _ rfl
      | galloping =>
          refine (gallopRound_mirrors h side m notDone).bind ?_
          rintro ⟨⟨n', smaller⟩, again⟩
          refine .dite (by simp) (fun _ _ => ?_) fun done' _ => ?_
          · exact .pure (by simp)
          · have less : n'.size < n := size ▸ smaller.resolve_left done'
            exact .ite .rfl (ih _ less _ _ _ rfl) (ih _ less _ _ _ rfl)

end Merging

theorem mergeRuns_mirrors (h : ∀ x y, Mirrors P id (below x y) (below' (f x) (f y)))
    (patience : Nat) (left right : List α) :
    Mirrors P (Prod.map (List.map f) id) (mergeRuns below patience left right)
      (mergeRuns below' patience (left.map f) (right.map f)) := by
  cases right with
  | nil => exact .pure rfl
  | cons y right =>
      unfold mergeRuns
      refine Mirrors.bind_id ?_ fun placed => ?_
      · simpa using gallop_mirrors (fun x => (h y x).not) left.toArray 0
      simp only [← List.map_drop, List.getLast?_map]
      cases last : (left.drop placed).getLast? with
      | none => exact .pure (by simp)
      | some x =>
          refine Mirrors.bind_id ?_ fun moving => ?_
          · simpa using gallop_mirrors (fun z => h z x) (y :: right).toArray right.length
          refine .ite (by simp) ?_ ?_
          · refine Mirrors.bind (f := Prod.map (List.map f) id) ?_ fun merged => .pure (by simp)
            have mirrored := Merging.merge_mirrors h .front (.walking 0 0) patience
              (Merging.takeRight 1 ⟨left.drop placed, (y :: right).take moving, []⟩)
            rw [← Merging.takeRight_map] at mirrored
            simpa [Merging.map] using mirrored
          · refine Mirrors.bind (f := Prod.map (List.map f) id) ?_ fun merged => .pure (by simp)
            have mirrored := Merging.merge_mirrors h .back (.walking 0 0) patience
              (Merging.takeLeft 1
                ⟨(left.drop placed).reverse, ((y :: right).take moving).reverse, []⟩)
            rw [← Merging.takeLeft_map] at mirrored
            simpa [Merging.map] using mirrored

/-! ### Stacks of runs

The sort as a whole mirrors a map of the elements.  The theorems at the end take its two halves from
this: the image, for any map under which the comparisons agree, and the failures, with the identity
for a map. -/

/-- A run with every element replaced by its image. -/
def Run.map (f : α → β) (run : Run α) : Run β :=
  ⟨run.elements.map f, run.power⟩

namespace RunStack

/-- A stack of runs with every element replaced by its image. -/
def map (f : α → β) (stack : RunStack α) : RunStack β :=
  ⟨stack.runs.map (Run.map f), stack.patience⟩

theorem collapse_mirrors (h : ∀ x y, Mirrors P id (below x y) (below' (f x) (f y)))
    (power patience : Nat) (runs : List (Run α)) :
    Mirrors P (map f) (collapse below power patience runs)
      (collapse below' power patience (runs.map (Run.map f))) := by
  induction size : runs.length using Nat.strongRecOn generalizing patience runs with
  | ind n ih =>
      rcases runs with _ | ⟨last, _ | ⟨previous, runs⟩⟩
      · unfold collapse
        exact .pure rfl
      · unfold collapse
        exact .pure rfl
      · unfold collapse
        refine .ite .rfl ?_ (.pure rfl)
        refine (mergeRuns_mirrors h patience previous.elements last.elements).bind fun merged => ?_
        exact ih _ (by simp [← size]) merged.2 (⟨merged.1, previous.power⟩ :: runs) rfl

theorem push_mirrors (h : ∀ x y, Mirrors P id (below x y) (below' (f x) (f y))) (total : Nat)
    (stack : RunStack α) (run : List α) :
    Mirrors P (map f) (stack.push below total run)
      ((stack.map f).push below' total (run.map f)) := by
  rcases stack with ⟨_ | ⟨last, runs⟩, patience⟩
  · exact .pure rfl
  · have start : ((runs.map (Run.map f)).map fun r => r.elements.length).foldr (· + ·) 0 =
        (runs.map fun r => r.elements.length).foldr (· + ·) 0 := by
      simp [Run.map, Function.comp_def]
    have length : (Run.map f last).elements.length = last.elements.length := by
      simp [Run.map]
    simp only [push, map, List.map_cons, start, length, List.length_map]
    exact (collapse_mirrors h _ patience (last :: runs)).bind fun collapsed => .pure rfl

theorem finish_mirrors (h : ∀ x y, Mirrors P id (below x y) (below' (f x) (f y)))
    (patience : Nat) (runs : List (Run α)) :
    Mirrors P (List.map f) (finish below patience runs)
      (finish below' patience (runs.map (Run.map f))) := by
  induction size : runs.length using Nat.strongRecOn generalizing patience runs with
  | ind n ih =>
      rcases runs with _ | ⟨last, _ | ⟨previous, _ | ⟨earlier, runs⟩⟩⟩
      · unfold finish
        exact .pure rfl
      · unfold finish
        exact .pure rfl
      · unfold finish
        exact (mergeRuns_mirrors h patience previous.elements last.elements).bind fun merged =>
          .pure rfl
      · unfold finish
        refine .ite (by simp [Run.map]) ?_ ?_
        · refine (mergeRuns_mirrors h patience earlier.elements previous.elements).bind
            fun merged => ?_
          exact ih _ (by simp [← size]) merged.2 (last :: ⟨merged.1, earlier.power⟩ :: runs) rfl
        · refine (mergeRuns_mirrors h patience previous.elements last.elements).bind
            fun merged => ?_
          exact ih _ (by simp [← size]) merged.2 (⟨merged.1, previous.power⟩ :: earlier :: runs) rfl

end RunStack

theorem gatherRuns_mirrors (h : ∀ x y, Mirrors P id (below x y) (below' (f x) (f y)))
    (least total : Nat) (stack : RunStack α) (xs : List α) :
    Mirrors P (RunStack.map f) (gatherRuns below least total stack xs)
      (gatherRuns below' least total (stack.map f) (xs.map f)) := by
  induction size : xs.length using Nat.strongRecOn generalizing stack xs with
  | ind n ih =>
      cases xs with
      | nil =>
          unfold gatherRuns
          exact .pure rfl
      | cons x xs =>
          unfold gatherRuns
          refine (nextRun_mirrors h least x xs).bind fun run => ?_
          refine (RunStack.push_mirrors h total stack run.1).bind fun pushed => ?_
          have less : (xs.drop run.2).length < n := by
            rw [← size, List.length_drop, List.length_cons]
            omega
          simpa using ih _ less pushed (xs.drop run.2) rfl

/-- Sorting images, where comparing images does what comparing the things themselves does, gives the
images of the sorted things; it fails as a comparison does. -/
theorem sortBy_mirrors (h : ∀ x y, Mirrors P id (below x y) (below' (f x) (f y))) (xs : List α) :
    Mirrors P (List.map f) (sortBy below xs) (sortBy below' (xs.map f)) := by
  unfold sortBy
  rw [List.length_map]
  refine (gatherRuns_mirrors h _ _ ⟨[], Merging.worthGalloping⟩ xs).bind fun stack => ?_
  exact RunStack.finish_mirrors h stack.patience stack.runs

/-- Sorting images sorts the things themselves, where images compare as the things do. -/
theorem sortBy_map (h : ∀ x y, below' (f x) (f y) = below x y) (xs : List α) :
    sortBy below' (xs.map f) = List.map f <$> sortBy below xs := by
  have mirrored (x y : α) : Mirrors (fun _ => True) id (below x y) (below' (f x) (f y)) :=
    ⟨by rw [h, id_map], fun _ _ => trivial⟩
  exact (sortBy_mirrors mirrored xs).image

/-- Sorting fails only where a comparison does. -/
theorem sortBy_failsOnly (h : ∀ x y, FailsOnly P (below x y)) (xs : List α) :
    FailsOnly P (sortBy below xs) := by
  have mirrored (x y : α) : Mirrors P id (below x y) (below (id x) (id y)) :=
    ⟨(id_map _).symm, h x y⟩
  exact (sortBy_mirrors mirrored xs).fails

end Comparing

end StableSort

end DocQuery
