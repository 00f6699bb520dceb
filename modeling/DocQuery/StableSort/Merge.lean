/-
Module: DocQuery.StableSort.Merge
Purpose: Merging two sorted runs into one.
Main exports: Side, Merging, Merging.merge, mergeRuns
-/
import DocQuery.StableSort.Search

namespace DocQuery.StableSort

variable {α ε : Type}

/-- The end of two runs at which merging begins. -/
inductive Side where
  | front
  | back
deriving DecidableEq, Repr, Inhabited

/-- How the next elements are found: by comparing the next elements of both runs, which keeps count
of how often one run has won in a row, or by galloping through each run in turn. -/
inductive Gait where
  | walking (leftWins rightWins : Nat)
  | galloping
deriving DecidableEq, Repr, Inhabited

/-- Two runs on the way to one: what is left of each, the next element first, and what has been
merged, the latest element first. -/
structure Merging (α : Type) where
  left : List α
  right : List α
  merged : List α
deriving Repr, Inhabited

namespace Merging

/-- How many elements are left. -/
def size (m : Merging α) : Nat :=
  m.left.length + m.right.length

/-- Moves elements of the left run. -/
def takeLeft (n : Nat) (m : Merging α) : Merging α :=
  ⟨m.left.drop n, m.right, (m.left.take n).reverse ++ m.merged⟩

/-- Moves elements of the right run. -/
def takeRight (n : Nat) (m : Merging α) : Merging α :=
  ⟨m.left, m.right.drop n, (m.right.take n).reverse ++ m.merged⟩

/-- What is left needs no comparison: one run is used up, or only the element is left of which it
is known that it comes last. -/
def isDone (side : Side) (m : Merging α) : Bool :=
  match side with
  | .front => m.left.length ≤ 1 || m.right.isEmpty
  | .back => m.left.isEmpty || m.right.length ≤ 1

/-- The merged run, with what is left put behind it. -/
def result (side : Side) (m : Merging α) : List α :=
  match side with
  | .front => m.merged.reverse ++ m.right ++ m.left
  | .back => (m.merged.reverse ++ m.left ++ m.right).reverse

theorem size_takeLeft_le (n : Nat) (m : Merging α) : (m.takeLeft n).size ≤ m.size := by
  simp only [size, takeLeft, List.length_drop]
  omega

theorem size_takeRight_le (n : Nat) (m : Merging α) : (m.takeRight n).size ≤ m.size := by
  simp only [size, takeRight, List.length_drop]
  omega

theorem size_takeLeft_one_lt {side : Side} {m : Merging α} (h : m.isDone side = false) :
    (m.takeLeft 1).size < m.size := by
  have hpos : 0 < m.left.length := by
    cases hl : m.left <;> cases side <;> simp_all [isDone]
  simp only [size, takeLeft, List.length_drop]
  omega

theorem size_takeRight_one_lt {side : Side} {m : Merging α} (h : m.isDone side = false) :
    (m.takeRight 1).size < m.size := by
  have hpos : 0 < m.right.length := by
    cases hr : m.right <;> cases side <;> simp_all [isDone]
  simp only [size, takeRight, List.length_drop]
  omega

/-- The next element of the left run goes before that of the right run.  Of two elements without an
order the left one comes first in the merged run. -/
def leftGoesFirst (below : α → α → Except ε Bool) (side : Side) (m : Merging α) :
    Except ε Bool :=
  match m.left, m.right, side with
  | x :: _, y :: _, .front => return !(← below y x)
  | x :: _, y :: _, .back => below y x
  | _, _, _ => return true

/-- How many elements of a run are merged before one for which `goesFirst` tells the elements that
come before it in order. -/
def countFrom (side : Side) (goesFirst : α → Except ε Bool) (run : List α) : Except ε Nat :=
  match side with
  | .front => gallop goesFirst run.toArray 0
  | .back => return run.length - (← gallop goesFirst run.reverse.toArray (run.length - 1))

/-- How many elements of the left run go before the next one of the right run. -/
def leftCount (below : α → α → Except ε Bool) (side : Side) (m : Merging α) : Except ε Nat :=
  match m.right with
  | [] => return 0
  | y :: _ => countFrom side (fun x => return !(← below y x)) m.left

/-- How many elements of the right run go before the next one of the left run. -/
def rightCount (below : α → α → Except ε Bool) (side : Side) (m : Merging α) : Except ε Nat :=
  match m.left with
  | [] => return 0
  | x :: _ => countFrom side (fun y => below y x) m.right

/-- Galloping is worth while as long as it moves this many elements at once. -/
def worthGalloping : Nat := 7

/-- One round of galloping: elements of the left run and one of the right run, then elements of the
right run and one of the left run.  The answer tells whether another round is worth while. -/
def gallopRound (below : α → α → Except ε Bool) (side : Side) (m : Merging α)
    (_h : m.isDone side = false) :
    Except ε ({ n : Merging α // n.isDone side ∨ n.size < m.size } × Bool) := do
  let fromLeft ← m.leftCount below side
  let m₁ := m.takeLeft fromLeft
  if h₁ : m₁.isDone side then
    return (⟨m₁, .inl h₁⟩, false)
  else
    have size₁ : m₁.size ≤ m.size := size_takeLeft_le fromLeft m
    let m₂ := m₁.takeRight 1
    have size₂ : m₂.size < m₁.size := size_takeRight_one_lt (Bool.eq_false_iff.2 h₁)
    if m₂.isDone side then
      return (⟨m₂, .inr (by omega)⟩, false)
    else
      let fromRight ← m₂.rightCount below side
      let m₃ := m₂.takeRight fromRight
      have size₃ : m₃.size ≤ m₂.size := size_takeRight_le fromRight m₂
      if m₃.isDone side then
        return (⟨m₃, .inr (by omega)⟩, false)
      else
        have size₄ : (m₃.takeLeft 1).size ≤ m₃.size := size_takeLeft_le 1 m₃
        return (⟨m₃.takeLeft 1, .inr (by omega)⟩,
          worthGalloping ≤ fromLeft || worthGalloping ≤ fromRight)

/-- The gait after a run has won: it changes when one has won as often in a row as patience
lasts. -/
def Gait.after (patience leftWins rightWins : Nat) : Gait :=
  if patience ≤ leftWins || patience ≤ rightWins then .galloping else .walking leftWins rightWins

/-- Merges what is left.  Patience says how often in a row a run wins before galloping is tried; it
is lost when galloping was worth while, and grows when galloping is given up. -/
def merge (below : α → α → Except ε Bool) (side : Side) (gait : Gait) (patience : Nat)
    (m : Merging α) : Except ε (List α × Nat) :=
  if h : m.isDone side then return (m.result side, patience)
  else
    have notDone : m.isDone side = false := Bool.eq_false_iff.2 h
    match gait with
    | .walking leftWins rightWins => do
        if ← m.leftGoesFirst below side then
          merge below side (Gait.after patience (leftWins + 1) 0) patience (m.takeLeft 1)
        else
          merge below side (Gait.after patience 0 (rightWins + 1)) patience (m.takeRight 1)
    | .galloping => do
        let (⟨n, smaller⟩, again) ← m.gallopRound below side notDone
        if done : n.isDone side then return (n.result side, patience)
        else if again then merge below side .galloping (max 1 (patience - 1)) n
        else merge below side (.walking 0 0) (patience + 1) n
termination_by m.size
decreasing_by
  · exact size_takeLeft_one_lt notDone
  · exact size_takeRight_one_lt notDone
  · exact smaller.resolve_left done
  · exact smaller.resolve_left done

end Merging

/-- Merges two runs.  What is in its place at either end stays there; of the rest the shorter run
decides the side at which merging begins, where its first element is known to be the next. -/
def mergeRuns (below : α → α → Except ε Bool) (patience : Nat) (left right : List α) :
    Except ε (List α × Nat) := do
  match right with
  | [] => return (left, patience)
  | y :: _ =>
      let placed ← gallop (fun x => return !(← below y x)) left.toArray 0
      let rest := left.drop placed
      match rest.getLast? with
      | none => return (left ++ right, patience)
      | some x =>
          let moving ← gallop (below · x) right.toArray (right.length - 1)
          let rest' := right.take moving
          let (merged, patience) ←
            if rest.length ≤ rest'.length then
              (Merging.takeRight 1 ⟨rest, rest', []⟩).merge below .front (.walking 0 0) patience
            else
              (Merging.takeLeft 1 ⟨rest.reverse, rest'.reverse, []⟩).merge below .back
                (.walking 0 0) patience
          return (left.take placed ++ merged ++ right.drop moving, patience)

end DocQuery.StableSort
