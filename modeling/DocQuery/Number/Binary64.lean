/-
Module: DocQuery.Number.Binary64
Purpose: Floating-point numbers of 64 bits as exact values, and rounding a ratio to the nearest one.
Main exports: Binary64, Binary64.significand, Binary64.scale, roundHalfEven, Binary64.ofRatio
-/

namespace DocQuery

/-- A binary floating-point number of 64 bits.  There is a single not-a-number; every other number
has exactly one form, so two numbers are equal as terms when they have the same bits. -/
inductive Binary64 where
  | nan
  | infinite (negative : Bool)
  | finite (negative : Bool) (exponent : Fin 2047) (fraction : Fin 4503599627370496)
deriving DecidableEq, Repr, Inhabited

/-- The quotient rounded to the nearest natural number; a half goes to the even neighbour. -/
def roundHalfEven (num den : Nat) : Nat :=
  let q := num / den
  let r := num % den
  if 2 * r < den then q
  else if den < 2 * r then q + 1
  else if q % 2 = 0 then q else q + 1

namespace Binary64

/-- One step of the exponent holds this many fractions. -/
def fractionCount : Nat := 4503599627370496

/-- A finite number is `± significand · 2 ^ scale`. -/
def significand (exponent : Fin 2047) (fraction : Fin 4503599627370496) : Nat :=
  if exponent.val = 0 then fraction.val else fractionCount + fraction.val

/-- The power of two that scales the significand of a finite number. -/
def scale (exponent : Fin 2047) : Int :=
  max (exponent.val : Int) 1 - 1075

/-- The magnitudes of the finite numbers in increasing order, numbered from zero; past the last of
them lies infinity. -/
def ofRank (negative : Bool) (rank : Nat) : Binary64 :=
  if h : rank / 4503599627370496 < 2047 then
    .finite negative ⟨rank / 4503599627370496, h⟩
      ⟨rank % 4503599627370496, Nat.mod_lt _ (by decide)⟩
  else
    .infinite negative

/-- Zero, which has a sign of its own. -/
def zero (negative : Bool) : Binary64 :=
  .finite negative 0 0

/-- The largest power of two that is at most `num / den`, for positive `num` and `den`. -/
def floorLog2 (num den : Nat) : Int :=
  let guess : Int := (num.log2 : Int) - (den.log2 : Int)
  if den * Nat.pow 2 guess.toNat ≤ num * Nat.pow 2 (-guess).toNat then guess else guess - 1

/-- The number nearest to `± num / den`; a half goes to the neighbour with an even significand, and
what lies past the largest finite number by half a step or more is infinite. -/
def ofRatio (negative : Bool) (num den : Nat) : Binary64 :=
  if num = 0 then
    zero negative
  else
    let e : Int := max (floorLog2 num den - 52) (-1074)
    let m := roundHalfEven (num * Nat.pow 2 (-e).toNat) (den * Nat.pow 2 e.toNat)
    ofRank negative ((e + 1074).toNat * fractionCount + m)

/-- Numerator and denominator of the magnitude of a finite number. -/
def ratio (exponent : Fin 2047) (fraction : Fin 4503599627370496) : Nat × Nat :=
  (significand exponent fraction * Nat.pow 2 (scale exponent).toNat,
    Nat.pow 2 (-scale exponent).toNat)

end Binary64

end DocQuery
