/-
Module: DocQuery.Condition.Eval
Purpose: Whether a condition holds of a record.
Main exports: Comparator.holds, Operand.valueIn, Condition.eval
-/
import DocQuery.Condition.Like
import DocQuery.Record.Scope

namespace DocQuery

/-- The outcomes of an ordering for which an ordering comparison holds. -/
def Comparator.accepts : Comparator → Ordering → Bool
  | .eq, o => o == .eq
  | .ne, o => o != .eq
  | .gt, o => o == .gt
  | .lt, o => o == .lt
  | .ge, o => o != .lt
  | .le, o => o != .gt
  | .unsupported _, _ => false

/-- Whether a comparison holds of two values.  With null on a side none holds.  Equality follows
`Value.equal`; of values without an order no ordering comparison holds. -/
def Comparator.holds (c : Comparator) (left right : Value) : Except QueryError Bool :=
  match c with
  | .unsupported text => .error (.comparator text none)
  | c =>
      if left.isNull || right.isNull then .ok false
      else
        match c with
        | .eq => .ok (left.equal right)
        | .ne => .ok (!left.equal right)
        | c =>
            match left.compare right with
            | .ok o => .ok (c.accepts o)
            | .error _ => .ok false

/-- The value of an operand. -/
def Operand.valueIn (o : Operand) (scope : Scope) (r : Record) : Except QueryError Value :=
  match o with
  | .literal v => .ok v
  | .field name => scope.resolve r name

namespace Condition

mutual

/-- Whether a condition holds of a record.  The parts of a chain are looked at in order and only
until one of them decides. -/
def eval (scope : Scope) (r : Record) : Condition → Except QueryError Bool
  | .compare left comparator right => do
      let x ← left.valueIn scope r
      let y ← right.valueIn scope r
      comparator.holds x y
  | .and children => evalAll scope r children
  | .or children => evalAny scope r children
  | .not child => return !(← eval scope r child)
  | .isNull operand negated => return (← operand.valueIn scope r).isNull != negated
  | .inList operand values negated => do
      let x ← operand.valueIn scope r
      return !x.isNull && values.any x.equal != negated
  | .like operand pattern ignoreCase negated => do
      match ← operand.valueIn scope r with
      | .string s =>
          return likeMatches (likeLetter ignoreCase) pattern.toList s.toList != negated
      | _ => return false
  | .other name => throw (.conditionKind name none)

/-- All conditions hold. -/
def evalAll (scope : Scope) (r : Record) : List Condition → Except QueryError Bool
  | [] => return true
  | c :: cs => do
      if ← eval scope r c then evalAll scope r cs else return false

/-- Some condition holds. -/
def evalAny (scope : Scope) (r : Record) : List Condition → Except QueryError Bool
  | [] => return false
  | c :: cs => do
      if ← eval scope r c then return true else evalAny scope r cs

end

end Condition

end DocQuery
