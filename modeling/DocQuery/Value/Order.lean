/-
Module: DocQuery.Value.Order
Purpose: The order of values of one type.
Main exports: OrderFault, Value.compare
-/
import DocQuery.Value.Basic

namespace DocQuery

/-- Why two values have no order. -/
inductive OrderFault where
  | differentTypes (left right : Value)
  | unordered (type : ValueType)
deriving Repr, Inhabited

/-- Order of booleans: false is below true. -/
def boolOrder (a b : Bool) : Ordering :=
  compare a.toNat b.toNat

/-- The order of two values of the same orderable type.  Numbers are ordered by value, and
not-a-number ranks with every number; strings are ordered by the codes of their characters. -/
def Value.compare (left right : Value) : Except OrderFault Ordering :=
  match left, right with
  | .string s, .string t => .ok (if s < t then .lt else if t < s then .gt else .eq)
  | .number m, .number n => .ok ((m.compare? n).getD .eq)
  | .bool a, .bool b => .ok (boolOrder a b)
  | left, right =>
      if left.type = right.type then .error (.unordered left.type)
      else .error (.differentTypes left right)

end DocQuery
