/-
Module: DocQuery.StableSort.Runs
Purpose: Sorting by the runs that a sequence already has.
Main exports: runLength, insertSorted, nextRun, boundaryPower, RunStack, sortBy
-/
import DocQuery.StableSort.Merge

namespace DocQuery.StableSort

variable {α ε : Type}

/-! ### Runs

A run is as long as the list happens to be ordered, and brought to a least length by insertion where
it is shorter. -/

/-- How many elements at the start of a list continue a run, each related to the one before it;
`last` is the element before the list. -/
def runLength (related : α → α → Except ε Bool) (last : α) : List α → Except ε Nat
  | [] => return 0
  | x :: xs => do
      if ← related last x then return (← runLength related x xs) + 1 else return 0

/-- Puts an element into its place among sorted ones, behind all that it is not below. -/
def insertSorted (below : α → α → Except ε Bool) (sorted : Array α) (x : α) :
    Except ε (Array α) := do
  let place ← binarySearch (fun y => return !(← below x y)) sorted 0 sorted.size
  return (sorted.toList.take place ++ x :: sorted.toList.drop place).toArray

/-- The run at the start of a list, sorted, with the number of elements it takes behind the first.
A run that descends is turned round; one shorter than `least` gets the elements behind it inserted
until it is as long as that. -/
def nextRun (below : α → α → Except ε Bool) (least : Nat) (x : α) :
    List α → Except ε (List α × Nat)
  | [] => return ([x], 0)
  | y :: rest => do
      let descends ← below y x
      let more ←
        if descends then runLength (fun a b => below b a) y rest
        else runLength (fun a b => return !(← below b a)) y rest
      let run := x :: y :: rest.take more
      let sorted := if descends then run.reverse else run
      let missing := least - sorted.length
      let full ← ((rest.drop more).take missing).foldlM (insertSorted below) sorted.toArray
      return (full.toList, 1 + more + missing)

/-- The length that runs of a list of `n` elements are brought to: between 32 and 64, and such that
the list has about a power of two of them.  `odd` is 1 if a bit was lost in halving. -/
def leastRun (n odd : Nat) : Nat :=
  if n < 64 then n + odd else leastRun (n / 2) (max odd (n % 2))
termination_by n

/-! ### Merging runs

Neighbouring runs are merged by the depth of the boundary between them, so that the merges make up a
tree that is nearly balanced. -/

/-- How deep the boundary between two neighbouring runs lies in a list of `total` elements: the
number of the first binary digit in which the middles of the two runs differ, as fractions of the
whole.  The left run has `n₁` elements behind `start` others, the right run `n₂`. -/
def boundaryPower (total start n₁ n₂ : Nat) : Nat :=
  let middle := 2 * start + n₁
  let next := middle + n₁ + n₂
  ((List.range (Nat.log2 total + 2)).find? fun k =>
    middle * Nat.pow 2 k / total ≠ next * Nat.pow 2 k / total).getD 0 + 1

/-- A sorted run and the power of the boundary before it. -/
structure Run (α : Type) where
  elements : List α
  power : Nat
deriving Repr, Inhabited

/-- The runs found so far that are not yet merged, the latest first, and how patient merging is. -/
structure RunStack (α : Type) where
  runs : List (Run α)
  patience : Nat
deriving Repr, Inhabited

namespace RunStack

/-- Merges the latest runs whose boundary is deeper than `power`. -/
def collapse (below : α → α → Except ε Bool) (power patience : Nat) :
    List (Run α) → Except ε (RunStack α)
  | last :: previous :: runs =>
      if power < last.power then do
        let (merged, patience) ← mergeRuns below patience previous.elements last.elements
        collapse below power patience (⟨merged, previous.power⟩ :: runs)
      else return ⟨last :: previous :: runs, patience⟩
  | runs => return ⟨runs, patience⟩
termination_by runs => runs.length

/-- Adds a run, before which all boundaries deeper than its own are merged away. -/
def push (below : α → α → Except ε Bool) (total : Nat) (stack : RunStack α) (run : List α) :
    Except ε (RunStack α) := do
  match stack.runs with
  | [] => return ⟨[⟨run, 0⟩], stack.patience⟩
  | last :: runs =>
      let start := (runs.map fun r => r.elements.length).foldr (· + ·) 0
      let power := boundaryPower total start last.elements.length run.length
      let stack ← collapse below power stack.patience (last :: runs)
      return { stack with runs := ⟨run, power⟩ :: stack.runs }

/-- Merges all runs.  The two latest are merged, or the two before the latest if the earlier of
these is shorter than the latest. -/
def finish (below : α → α → Except ε Bool) (patience : Nat) : List (Run α) → Except ε (List α)
  | [] => return []
  | [run] => return run.elements
  | [last, previous] => do
      return (← mergeRuns below patience previous.elements last.elements).1
  | last :: previous :: earlier :: runs =>
      if earlier.elements.length < last.elements.length then do
        let (merged, patience) ← mergeRuns below patience earlier.elements previous.elements
        finish below patience (last :: ⟨merged, earlier.power⟩ :: runs)
      else do
        let (merged, patience) ← mergeRuns below patience previous.elements last.elements
        finish below patience (⟨merged, previous.power⟩ :: earlier :: runs)
termination_by runs => runs.length

end RunStack

/-- Finds the runs of a list one after the other and adds them to those before. -/
def gatherRuns (below : α → α → Except ε Bool) (least total : Nat) (stack : RunStack α) :
    List α → Except ε (RunStack α)
  | [] => return stack
  | x :: xs => do
      let (run, taken) ← nextRun below least x xs
      gatherRuns below least total (← stack.push below total run) (xs.drop taken)
termination_by xs => xs.length
decreasing_by
  simp only [List.length_drop, List.length_cons]
  omega

/-- Sorts a list; elements of which neither is below the other keep their order.  The first error
of a comparison ends the sorting. -/
def sortBy (below : α → α → Except ε Bool) (xs : List α) : Except ε (List α) := do
  let stack ← gatherRuns below (leastRun xs.length 0) xs.length ⟨[], Merging.worthGalloping⟩ xs
  RunStack.finish below stack.patience stack.runs

end DocQuery.StableSort
