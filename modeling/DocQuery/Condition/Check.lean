/-
Module: DocQuery.Condition.Check
Purpose: The fields that a condition refers to, and whether it can be carried out at all.
Main exports: Operand.refs, Condition.refs, Condition.check
-/
import DocQuery.Record.Scope

namespace DocQuery

/-- The field that an operand refers to. -/
def Operand.refs : Operand → List String
  | .field name => [name]
  | .literal _ => []

/-- Every one of several references can be located. -/
def Scope.checkRefs (scope : Scope) (clause : String) : List String → Except QueryError Unit
  | [] => return
  | ref :: refs => do
      let _ ← scope.locate clause ref
      scope.checkRefs clause refs

namespace Condition

mutual

/-- The fields that a condition refers to, from left to right. -/
def refs : Condition → List String
  | .compare left _ right => left.refs ++ right.refs
  | .and children => refsOfAll children
  | .or children => refsOfAll children
  | .not child => refs child
  | .isNull operand _ => operand.refs
  | .inList operand _ _ => operand.refs
  | .like operand _ _ _ => operand.refs
  | .other _ => []

/-- The fields that several conditions refer to. -/
def refsOfAll : List Condition → List String
  | [] => []
  | c :: cs => refs c ++ refsOfAll cs

end

mutual

/-- Fails if some part of a condition is of an unknown kind, compares in an unknown way, or refers
to a field that cannot be located. -/
def check (scope : Scope) (clause : String) : Condition → Except QueryError Unit
  | .compare left comparator right =>
      match comparator with
      | .unsupported text => throw (.comparator text (some clause))
      | _ => scope.checkRefs clause (left.refs ++ right.refs)
  | .and children => checkAll scope clause children
  | .or children => checkAll scope clause children
  | .not child => check scope clause child
  | .isNull operand _ => scope.checkRefs clause operand.refs
  | .inList operand _ _ => scope.checkRefs clause operand.refs
  | .like operand _ _ _ => scope.checkRefs clause operand.refs
  | .other name => throw (.conditionKind name (some clause))

/-- Checks several conditions in order. -/
def checkAll (scope : Scope) (clause : String) : List Condition → Except QueryError Unit
  | [] => return
  | c :: cs => do
      check scope clause c
      checkAll scope clause cs

end

end Condition

end DocQuery
