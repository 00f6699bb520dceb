/-
Module: DocQuery.Value.Inspect
Purpose: How messages show a value: quoted when it stands for itself, plain when it is text to read.
Assumptions: numerals of any length and any depth of nesting, as in DocQuery.Number.Basic.
Main exports: quoted, Value.inspect, Value.plain
-/
import DocQuery.Value.Basic
import DocQuery.Json.Writer
import DocQuery.Text.Printable

namespace DocQuery

/-- Names of the numbers that are not finite, as messages write them. -/
def messageSpelling : Binary64.FloatSpelling := ⟨"nan", "inf"⟩

/-- A hexadecimal numeral of exactly `width` digits. -/
def hexDigits (width n : Nat) : List Char :=
  (List.range width).map fun i => Json.hexDigit (n / Nat.pow 16 (width - 1 - i))

/-- One character inside a quoted text.  The quote in use, the backslash and the characters that
cannot be shown are escaped. -/
def quotedChar (mark c : Char) : List Char :=
  if c = mark ∨ c = '\\' then ['\\', c]
  else if c = '\n' then ['\\', 'n']
  else if c = '\r' then ['\\', 'r']
  else if c = '\t' then ['\\', 't']
  else if Text.isPrintable c then [c]
  else if c.toNat < 0x100 then '\\' :: 'x' :: hexDigits 2 c.toNat
  else if c.toNat < 0x10000 then '\\' :: 'u' :: hexDigits 4 c.toNat
  else '\\' :: 'U' :: hexDigits 8 c.toNat

/-- A text in single quotes, or in double quotes if it holds a single one and no double one. -/
def quotedChars (s : String) : List Char :=
  let cs := s.toList
  let mark := if cs.contains '\'' && !cs.contains '"' then '"' else '\''
  mark :: cs.flatMap (quotedChar mark) ++ [mark]

/-- A text in quotes. -/
def quoted (s : String) : String :=
  String.ofList (quotedChars s)

namespace Value

mutual

/-- The form in which a message shows a value. -/
def inspectChars : Value → List Char
  | .null => "None".toList
  | .bool true => "True".toList
  | .bool false => "False".toList
  | .number n => n.text messageSpelling
  | .string s => quotedChars s
  | .array [] => "[]".toList
  | .array (x :: xs) => '[' :: inspectChars x ++ inspectItems xs ++ [']']
  | .object [] => ['{', '}']
  | .object ((key, x) :: xs) =>
      '{' :: quotedChars key ++ ": ".toList ++ inspectChars x ++ inspectFields xs ++ ['}']

/-- The items of an array after the first. -/
def inspectItems : List Value → List Char
  | [] => []
  | x :: xs => ", ".toList ++ inspectChars x ++ inspectItems xs

/-- The members of an object after the first. -/
def inspectFields : List (String × Value) → List Char
  | [] => []
  | (key, x) :: xs =>
      ", ".toList ++ quotedChars key ++ ": ".toList ++ inspectChars x ++ inspectFields xs

end

/-- The form in which a message shows a value. -/
def inspect (v : Value) : String :=
  String.ofList v.inspectChars

/-- A value as text to read: a string is itself, any other value as a message shows it. -/
def plain : Value → String
  | .string s => s
  | v => v.inspect

end Value

end DocQuery
