/-
Module: DocQuery.Query.Limit
Purpose: Row limits.
Main exports: checkLimit, largestCount, limitRows, filterFirst, filterAll
-/
import DocQuery.QueryError

namespace DocQuery

/-- A row limit is a non-negative integer. -/
def checkLimit : Value → Except QueryError Nat
  | .number (.integer n) => if n < 0 then .error (.limitNegative n) else .ok n.toNat
  | v => .error (.limitNotInteger v)

/-- The largest number of rows that can be counted off. -/
def largestCount : Nat := 9223372036854775807

/-- The first rows of a list, or all if there are fewer. -/
def limitRows {α : Type} (limit : Nat) (rows : List α) : Except QueryError (List α) :=
  if largestCount < limit then .error .limitTooLarge else .ok (rows.take limit)

/-- The rows for which a test holds, at most `limit` of them.  No row is tested once there are
enough. -/
def filterFirst {α : Type} (test : α → Except QueryError Bool) :
    Nat → List α → Except QueryError (List α)
  | 0, _ => return []
  | _, [] => return []
  | limit + 1, x :: xs => do
      if ← test x then return x :: (← filterFirst test limit xs)
      else filterFirst test (limit + 1) xs

/-- The rows for which a test holds. -/
def filterAll {α : Type} (test : α → Except QueryError Bool) (rows : List α) :
    Except QueryError (List α) :=
  rows.filterM test

/-- A limit as a step of a query. -/
def limitText (limit : Nat) : String :=
  "Limit(" ++ toString limit ++ ")"

end DocQuery
