/-
Module: DocQuery.Number.Basic
Purpose: Numbers of documents, integers of any size beside floating-point numbers, compared by
  their exact values.
Assumptions, here and wherever numerals are read or written or nested data is walked: no numeral is
  too long to be turned into a number or back, and no value, condition or text is nested too deeply.
  A host that sets a bound to the digits of a numeral or to the depth of its calls gives up where a
  result is given here.
Main exports: Number, BinaryFraction, Number.compare?, Number.same
-/
import DocQuery.Number.Decimal

namespace DocQuery

/-- A number of a document.  Integers and floating-point numbers are one type to a query, but each
is written back in its own way. -/
inductive Number where
  | integer (n : Int)
  | float (x : Binary64)
deriving DecidableEq, Repr, Inhabited

/-- The exact value `numerator / 2 ^ halvings`. -/
structure BinaryFraction where
  numerator : Int
  halvings : Nat

/-- Order of exact values, by cross multiplication. -/
def BinaryFraction.compare (a b : BinaryFraction) : Ordering :=
  Ord.compare (a.numerator * Int.pow 2 b.halvings) (b.numerator * Int.pow 2 a.halvings)

namespace Number

/-- The place of a number on the line from minus to plus infinity; not-a-number has none. -/
inductive Place where
  | belowAll
  | at (value : BinaryFraction)
  | aboveAll

/-- Where a number lies; not-a-number lies nowhere. -/
def place? : Number → Option Place
  | .integer n => some (.at ⟨n, 0⟩)
  | .float .nan => none
  | .float (.infinite negative) => some (if negative then .belowAll else .aboveAll)
  | .float (.finite negative exponent fraction) =>
      let m : Int := Binary64.significand exponent fraction
      let e := Binary64.scale exponent
      some (.at ⟨(if negative then -m else m) * Int.pow 2 e.toNat, (-e).toNat⟩)

/-- Order of two places. -/
def Place.compare : Place → Place → Ordering
  | .belowAll, .belowAll => .eq
  | .belowAll, _ => .lt
  | _, .belowAll => .gt
  | .aboveAll, .aboveAll => .eq
  | .aboveAll, _ => .gt
  | _, .aboveAll => .lt
  | .at a, .at b => a.compare b

/-- The order of two numbers by their exact values, never through rounding; not-a-number is in no
order to anything. -/
def compare? (a b : Number) : Option Ordering := do
  return (← a.place?).compare (← b.place?)

/-- Numeric equality: `1` and `1.0` are equal, not-a-number equals nothing. -/
def equal (a b : Number) : Bool :=
  a.compare? b == some .eq

/-- Not-a-number. -/
def isNan : Number → Bool
  | .float .nan => true
  | _ => false

/-- Equality of numbers as members of a set: numeric equality, and not-a-number is itself. -/
def same (a b : Number) : Bool :=
  a.equal b || (a.isNan && b.isNan)

/-- The decimal text of an integer. -/
def integerText (n : Int) : List Char :=
  if n < 0 then '-' :: decimalDigits n.natAbs else decimalDigits n.natAbs

/-- The text of a number. -/
def text (spelling : Binary64.FloatSpelling) : Number → List Char
  | .integer n => integerText n
  | .float x => x.text spelling

end Number

end DocQuery
