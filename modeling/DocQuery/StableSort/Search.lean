/-
Module: DocQuery.StableSort.Search
Purpose: Finding the place in a sequence up to which its elements go first.
Main exports: binarySearch, gallop
-/

namespace DocQuery.StableSort

/-!
A search asks of single elements whether they go first.  If the elements that do stand in front of
all others, the answer is how many there are; whatever the elements are, the one before the place
that is found goes first and the one at that place does not, as far as they are in the stretch that
was searched.
-/

variable {α ε : Type}

/-- Searches the stretch from `low` to `high` by halving it. -/
def binarySearch (goesFirst : α → Except ε Bool) (xs : Array α) (low high : Nat) : Except ε Nat :=
  if h : low < high ∧ high ≤ xs.size then do
    let middle := low + (high - low) / 2
    have inside : middle < xs.size := by omega
    if ← goesFirst xs[middle] then
      binarySearch goesFirst xs (middle + 1) high
    else
      binarySearch goesFirst xs low middle
  else
    return low
termination_by high - low

/-- Steps away from `start` towards the end, each step more than twice as long as the one before,
until an element does not go first.  The answer holds the last two distances. -/
def stepUp (goesFirst : α → Except ε Bool) (xs : Array α) (start last distance : Nat) :
    Except ε (Nat × Nat) :=
  if h : start + distance < xs.size then do
    if ← goesFirst xs[start + distance] then
      stepUp goesFirst xs start distance (2 * distance + 1)
    else
      return (last, distance)
  else
    return (last, xs.size - start)
termination_by xs.size - distance

/-- Steps away from `start` towards the front, each step more than twice as long as the one before,
until an element goes first.  The answer holds the last two distances. -/
def stepDown (goesFirst : α → Except ε Bool) (xs : Array α) (start last distance : Nat) :
    Except ε (Nat × Nat) :=
  if h : distance ≤ start ∧ start < xs.size then do
    have inside : start - distance < xs.size := by omega
    if ← goesFirst xs[start - distance] then
      return (last, distance)
    else
      stepDown goesFirst xs start distance (2 * distance + 1)
  else
    return (last, start + 1)
termination_by start + 1 - distance

/-- Searches a sequence by steps of growing length away from `start`, and then the stretch that the
last step has gone over. -/
def gallop (goesFirst : α → Except ε Bool) (xs : Array α) (start : Nat) : Except ε Nat :=
  if h : start < xs.size then do
    if ← goesFirst xs[start] then
      let (last, distance) ← stepUp goesFirst xs start 0 1
      binarySearch goesFirst xs (start + last + 1) (start + distance)
    else
      let (last, distance) ← stepDown goesFirst xs start 0 1
      binarySearch goesFirst xs (start + 1 - distance) (start - last)
  else
    return xs.size

end DocQuery.StableSort
