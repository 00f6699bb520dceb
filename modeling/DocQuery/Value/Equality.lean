/-
Module: DocQuery.Value.Equality
Purpose: When two values are equal: as operands of a comparison, as contents of arrays and objects,
  and as keys of a join.
Main exports: Value.sameContent, Value.equal, JoinKey, Value.joinKey?
-/
import DocQuery.Value.Basic
import DocQuery.Json.Writer

namespace DocQuery

namespace Value

/-- The number that a value counts as inside an array or object: booleans count as one and zero
there. -/
def contentNumber? : Value → Option Number
  | .bool b => some (.integer (if b then 1 else 0))
  | .number n => some n
  | _ => none

mutual

/-- Equality of values inside arrays and objects.  It disregards the order of an object's members,
takes numbers by value with not-a-number equal to itself, and counts booleans as numbers. -/
def sameContent : Value → Value → Bool
  | .null, .null => true
  | .string s, .string t => s == t
  | .array xs, .array ys => sameItems xs ys
  | .object xs, .object ys => xs.length == ys.length && sameFields xs ys
  | .bool b, v => v.contentNumber?.any (Number.same (.integer (if b then 1 else 0)))
  | .number n, v => v.contentNumber?.any (Number.same n)
  | _, _ => false

/-- Equality of arrays, item by item. -/
def sameItems : List Value → List Value → Bool
  | [], [] => true
  | x :: xs, y :: ys => sameContent x y && sameItems xs ys
  | _, _ => false

/-- Every member on the left has an equal one of its name on the right. -/
def sameFields : List (String × Value) → List (String × Value) → Bool
  | [], _ => true
  | (key, x) :: xs, ys =>
      (match ys.lookup key with
        | some y => sameContent x y
        | none => false) && sameFields xs ys

end

/-- Equality of the operands of a comparison.  Null equals nothing, values of two types are never
equal, and not-a-number differs from itself. -/
def equal : Value → Value → Bool
  | .string s, .string t => s == t
  | .bool b, .bool c => b == c
  | .number m, .number n => m.equal n
  | .array xs, .array ys => sameContent (.array xs) (.array ys)
  | .object xs, .object ys => sameContent (.object xs) (.object ys)
  | _, _ => false

end Value

/-- What a join compares instead of a value.  Arrays and objects are represented by their canonical
text, in which the members of every object are sorted by name. -/
inductive JoinKey where
  | string (s : String)
  | number (n : Number)
  | boolean (b : Bool)
  | object (canonical : String)
  | array (canonical : String)
deriving Repr, Inhabited

namespace JoinKey

/-- Equality of keys: numbers match by value, and not-a-number matches itself. -/
def same : JoinKey → JoinKey → Bool
  | .string s, .string t => s == t
  | .number m, .number n => m.same n
  | .boolean b, .boolean c => b == c
  | .object s, .object t => s == t
  | .array s, .array t => s == t
  | _, _ => false

end JoinKey

/-- The key under which a value takes part in a join; null takes part in none. -/
def Value.joinKey? : Value → Option JoinKey
  | .null => none
  | .string s => some (.string s)
  | .number n => some (.number n)
  | .bool b => some (.boolean b)
  | .array items => some (.array (Json.canonicalText (.array items)))
  | .object fields => some (.object (Json.canonicalText (.object fields)))

end DocQuery
