/-
Module: DocQuery.Sql.Numeral
Purpose: The numbers that words of a query write.
Assumptions: numerals of any length, as in DocQuery.Number.Basic.
Main exports: integerOfWord?, floatOfWord?
-/
import DocQuery.Number.Basic
import DocQuery.Text.Digit

namespace DocQuery.Sql

/-- A text without the minus sign it may start with, and whether it has one. -/
def splitMinus : List Char → Bool × List Char
  | '-' :: rest => (true, rest)
  | cs => (false, cs)

/-- An integer of a word: decimal digits of any script, perhaps behind a minus sign. -/
def integerOfWord? (word : String) : Option Int :=
  let (negative, digits) := splitMinus word.toList
  if digits.isEmpty || !digits.all Text.isDecimalDigit then none
  else
    let n : Int := Text.natOfDigits digits
    some (if negative then -n else n)

/-- An exponent that ends a word: a mark, perhaps a sign, and digits. -/
def exponentOfEnd? : List Char → Option Int
  | [] => none
  | mark :: rest =>
      if mark = 'e' ∨ mark = 'E' then
        let (negative, digits) : Bool × List Char :=
          match rest with
          | '-' :: r => (true, r)
          | '+' :: r => (false, r)
          | r => (false, r)
        if digits.isEmpty || !digits.all Text.isDecimalDigit then none
        else
          let n : Int := Text.natOfDigits digits
          some (if negative then -n else n)
      else none

/-- A decimal numeral with a point that has a digit on at least one side, or with an exponent. -/
def decimalOfDigits? (cs : List Char) : Option Decimal :=
  let whole := cs.takeWhile Text.isDecimalDigit
  match cs.dropWhile Text.isDecimalDigit with
  | '.' :: rest =>
      let fraction := rest.takeWhile Text.isDecimalDigit
      let digits := whole ++ fraction
      if digits.isEmpty then none
      else
        match rest.dropWhile Text.isDecimalDigit with
        | [] => some ⟨Text.natOfDigits digits, -(fraction.length : Int)⟩
        | tail =>
            (exponentOfEnd? tail).map fun e =>
              ⟨Text.natOfDigits digits, e - (fraction.length : Int)⟩
  | tail =>
      if whole.isEmpty then none
      else (exponentOfEnd? tail).map fun e => ⟨Text.natOfDigits whole, e⟩

/-- A floating-point number of a word. -/
def floatOfWord? (word : String) : Option Binary64 :=
  let (negative, digits) := splitMinus word.toList
  (decimalOfDigits? digits).map (Decimal.toBinary64 negative)

end DocQuery.Sql
