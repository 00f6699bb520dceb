/-
Module: DocQuery.Text.Ranges
Purpose: Classes of characters given as ranges of code points.
Main exports: inRanges
-/

namespace DocQuery.Text

/-- Membership in one of the ranges, each given by its first and its last member. -/
def inRanges (ranges : List (Nat × Nat)) (code : Nat) : Bool :=
  ranges.any fun (first, last) => first ≤ code && code ≤ last

end DocQuery.Text
