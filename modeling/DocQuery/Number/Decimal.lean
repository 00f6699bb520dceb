/-
Module: DocQuery.Number.Decimal
Purpose: Decimal numerals: reading one as a floating-point number, and the shortest one that reads
  back as a given number.
Main exports: Decimal, Decimal.toBinary64, Binary64.shortest, FloatSpelling, Binary64.text
-/
import DocQuery.Number.Binary64

namespace DocQuery

/-- The decimal numeral `digits · 10 ^ exponent`. -/
structure Decimal where
  digits : Nat
  exponent : Int
deriving DecidableEq, Repr, Inhabited

/-- The decimal digits of a natural number, most significant first. -/
def decimalDigits (n : Nat) : List Char :=
  Nat.toDigits 10 n

namespace Decimal

/-- Numerator and denominator of a decimal numeral. -/
def ratio (d : Decimal) : Nat × Nat :=
  (d.digits * Nat.pow 10 d.exponent.toNat, Nat.pow 10 (-d.exponent).toNat)

/-- The floating-point number nearest to a decimal numeral.  Numerals of at least `10 ^ 310` are
past every finite number and those below `10 ^ -330` are nearest to zero, so neither has to be
worked out. -/
def toBinary64 (negative : Bool) (d : Decimal) : Binary64 :=
  let size : Int := (decimalDigits d.digits).length + d.exponent
  if d.digits = 0 ∨ size < -330 then .zero negative
  else if 310 < size then .infinite negative
  else .ofRatio negative d.ratio.1 d.ratio.2

/-- A numeral without trailing zeros in its digits; fuel bounds the number of zeros dropped. -/
def dropZeros : Nat → Decimal → Decimal
  | 0, d => d
  | fuel + 1, d =>
      if d.digits ≠ 0 ∧ d.digits % 10 = 0 then dropZeros fuel ⟨d.digits / 10, d.exponent + 1⟩
      else d

end Decimal

namespace Binary64

/-- The largest power of ten that is at most `num / den`, for positive `num` and `den`. -/
def floorLog10 (num den : Nat) : Int :=
  if den ≤ num then ((decimalDigits (num / den)).length : Int) - 1
  else -((decimalDigits ((den - 1) / num)).length : Int)

/-- The two neighbours of `num / den` among the multiples of `10 ^ exponent`, the nearer one first;
of two equally near ones the even one is first. -/
def neighbours (num den : Nat) (exponent : Int) : List Decimal :=
  let scaledNum := num * Nat.pow 10 (-exponent).toNat
  let scaledDen := den * Nat.pow 10 exponent.toNat
  let lower := scaledNum / scaledDen
  let twice := 2 * (scaledNum % scaledDen)
  if twice < scaledDen ∨ (twice = scaledDen ∧ lower % 2 = 0) then
    [⟨lower, exponent⟩, ⟨lower + 1, exponent⟩]
  else
    [⟨lower + 1, exponent⟩, ⟨lower, exponent⟩]

/-- The decimal numerals that may stand for the magnitude `num / den`, in order of preference: the
neighbours with one digit, with two, and so on up to seventeen. -/
def candidates (num den : Nat) : List Decimal :=
  (List.range 17).flatMap fun (i : Nat) => neighbours num den (floorLog10 num den - i)

/-- The decimal numeral that writes out a finite magnitude in full. -/
def exactDecimal (exponent : Fin 2047) (fraction : Fin 4503599627370496) : Decimal :=
  let m := significand exponent fraction
  let e := scale exponent
  if e < 0 then ⟨m * Nat.pow 5 (-e).toNat, e⟩ else ⟨m * Nat.pow 2 e.toNat, 0⟩

/-- The numeral with the fewest digits that reads back as the given magnitude, and of those the
nearest one. -/
def shortest (exponent : Fin 2047) (fraction : Fin 4503599627370496) : Decimal :=
  let (num, den) := ratio exponent fraction
  if num = 0 then ⟨0, 0⟩
  else
    let found := (candidates num den).find? fun d =>
      d.toBinary64 false == .finite false exponent fraction
    (found.getD (exactDecimal exponent fraction)).dropZeros 800

/-- How a family of texts spells the numbers that are not finite. -/
structure FloatSpelling where
  nan : String
  infinity : String

/-- The sign and the at least two digits of a decimal exponent. -/
def exponentText (e : Int) : List Char :=
  let digits := decimalDigits e.natAbs
  (if e < 0 then ['-'] else ['+']) ++ (if digits.length < 2 then '0' :: digits else digits)

/-- A decimal numeral as text.  Magnitudes from `10 ^ -4` up to `10 ^ 16` are written positionally,
with at least one digit after the point; all others have an exponent of at least two digits. -/
def decimalText (d : Decimal) : List Char :=
  let digits := decimalDigits d.digits
  let point : Int := digits.length + d.exponent
  if point - 1 < -4 ∨ 16 ≤ point - 1 then
    let fraction := digits.drop 1
    digits.take 1 ++ (if fraction.isEmpty then [] else '.' :: fraction)
      ++ 'e' :: exponentText (point - 1)
  else if point ≤ 0 then
    ['0', '.'] ++ List.replicate (-point).toNat '0' ++ digits
  else
    let whole := digits.take point.toNat
    let fraction := digits.drop point.toNat
    whole ++ List.replicate (point.toNat - whole.length) '0'
      ++ '.' :: (if fraction.isEmpty then ['0'] else fraction)

/-- The text of a floating-point number: the shortest numeral that reads back, behind a minus sign
if the number carries one. -/
def text (spelling : FloatSpelling) : Binary64 → List Char
  | .nan => spelling.nan.toList
  | .infinite negative => (if negative then ['-'] else []) ++ spelling.infinity.toList
  | .finite negative exponent fraction =>
      (if negative then ['-'] else []) ++ decimalText (shortest exponent fraction)

end Binary64

end DocQuery
