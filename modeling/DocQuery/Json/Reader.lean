/-
Module: DocQuery.Json.Reader
Purpose: Reading the JSON text of a value.
Assumptions: numerals of any length and any depth of nesting, as in DocQuery.Number.Basic.
Main exports: Json.readString, Json.readNumber, Json.readValue, Json.parse?
-/
import DocQuery.Value.Basic
import DocQuery.Keyed
import DocQuery.Text.Digit

namespace DocQuery.Json

/-- The four characters that may stand between tokens. -/
def isSpace (c : Char) : Bool :=
  c = ' ' || c = '\t' || c = '\n' || c = '\r'

/-- The rest of a text after leading blanks. -/
def skip (cs : List Char) : List Char :=
  cs.dropWhile isSpace

/-! ### Strings -/

/-- The value of a hexadecimal digit. -/
def hexValue? (c : Char) : Option Nat :=
  if '0' ≤ c ∧ c ≤ '9' then some (c.toNat - '0'.toNat)
  else if 'a' ≤ c ∧ c ≤ 'f' then some (c.toNat - 'a'.toNat + 10)
  else if 'A' ≤ c ∧ c ≤ 'F' then some (c.toNat - 'A'.toNat + 10)
  else none

/-- The code written by four hexadecimal digits. -/
def code? (a b c d : Char) : Option Nat := do
  return (((← hexValue? a) * 16 + (← hexValue? b)) * 16 + (← hexValue? c)) * 16 + (← hexValue? d)

/-- The first half of a pair of escapes that stand for one character. -/
def isHighSurrogate (n : Nat) : Bool :=
  0xd800 ≤ n && n < 0xdc00

/-- The second half of such a pair. -/
def isLowSurrogate (n : Nat) : Bool :=
  0xdc00 ≤ n && n < 0xe000

/-- The replacement character, which stands for half of a pair on its own. -/
def replacement : Char := Char.ofNat 0xfffd

/-- The character that a one-letter escape stands for. -/
def escaped? (c : Char) : Option Char :=
  match c with
  | '"' => some '"'
  | '\\' => some '\\'
  | '/' => some '/'
  | 'b' => some (Char.ofNat 8)
  | 'f' => some (Char.ofNat 12)
  | 'n' => some '\n'
  | 'r' => some '\r'
  | 't' => some '\t'
  | _ => none

/-- What one written character or escape stands for. -/
inductive Piece where
  | plain (c : Char)
  | code (n : Nat)

/-- Puts a piece in front of what was read. -/
def consRead (p : Piece) (read : Option (List Piece × List Char)) :
    Option (List Piece × List Char) :=
  read.map fun (ps, rest) => (p :: ps, rest)

/-- Reads the pieces of a string from behind its opening quote up to its closing one. -/
def readPieces : List Char → Option (List Piece × List Char)
  | [] => none
  | '"' :: rest => some ([], rest)
  | '\\' :: 'u' :: a :: b :: c :: d :: rest =>
      match code? a b c d with
      | none => none
      | some n => consRead (.code n) (readPieces rest)
  | '\\' :: c :: rest =>
      match escaped? c with
      | none => none
      | some plain => consRead (.plain plain) (readPieces rest)
  | c :: rest => if c.toNat < 32 ∨ c = '\\' then none else consRead (.plain c) (readPieces rest)

/-- The characters of a string.  Two codes that are the halves of a pair make one character;
`pending` is a first half whose second half may follow. -/
def joinPieces : Option Nat → List Piece → List Char
  | none, [] => []
  | some _, [] => [replacement]
  | none, .plain c :: rest => c :: joinPieces none rest
  | some _, .plain c :: rest => replacement :: c :: joinPieces none rest
  | none, .code n :: rest =>
      if isHighSurrogate n then joinPieces (some n) rest
      else if isLowSurrogate n then replacement :: joinPieces none rest
      else Char.ofNat n :: joinPieces none rest
  | some high, .code n :: rest =>
      if isLowSurrogate n then
        Char.ofNat (0x10000 + (high - 0xd800) * 1024 + (n - 0xdc00)) :: joinPieces none rest
      else if isHighSurrogate n then replacement :: joinPieces (some n) rest
      else replacement :: Char.ofNat n :: joinPieces none rest

/-- Reads a string from behind its opening quote up to its closing one. -/
def readString (cs : List Char) : Option (List Char × List Char) :=
  (readPieces cs).map fun (pieces, rest) => (joinPieces none pieces, rest)

/-! ### Numbers -/

/-- Splits off the digits at the start of a text. -/
def spanDigits (cs : List Char) : List Char × List Char :=
  (cs.takeWhile Char.isDigit, cs.dropWhile Char.isDigit)

/-- The digits before the point: a single zero, or digits that start with another one. -/
def readWhole : List Char → Option (List Char × List Char)
  | '0' :: rest => some (['0'], rest)
  | cs =>
      match spanDigits cs with
      | ([], _) => none
      | split => some split

/-- The digits behind a point, if a point and a digit follow. -/
def readFraction (cs : List Char) : Option (List Char × List Char) :=
  match cs with
  | '.' :: rest =>
      match spanDigits rest with
      | ([], _) => none
      | split => some split
  | _ => none

/-- The exponent, if a mark, perhaps a sign, and a digit follow. -/
def readExponent (cs : List Char) : Option (Int × List Char) :=
  match cs with
  | mark :: rest =>
      if mark = 'e' ∨ mark = 'E' then
        let (negative, digits) : Bool × List Char :=
          match rest with
          | '-' :: r => (true, r)
          | '+' :: r => (false, r)
          | r => (false, r)
        match spanDigits digits with
        | ([], _) => none
        | (ds, rest) =>
            let n : Int := Text.natOfDigits ds
            some (if negative then -n else n, rest)
      else none
  | [] => none

/-- Reads a number.  Without point and exponent it is an integer, else a floating-point number. -/
def readNumber (cs : List Char) : Option (Number × List Char) := do
  let (negative, body) : Bool × List Char :=
    match cs with
    | '-' :: r => (true, r)
    | r => (false, r)
  let (whole, rest) ← readWhole body
  let n := Text.natOfDigits whole
  match readFraction rest, readExponent rest with
  | none, none => return (.integer (if negative then -n else n), rest)
  | none, some (e, rest) => return (.float ((Decimal.mk n e).toBinary64 negative), rest)
  | some (fraction, rest), _ =>
      let (e, rest) := (readExponent rest).getD (0, rest)
      let digits := Text.natOfDigits (whole ++ fraction)
      return (.float ((Decimal.mk digits (e - fraction.length)).toBinary64 negative), rest)

/-! ### Values -/

/-- The words that stand for a value. -/
def words : List (List Char × Value) :=
  [("null".toList, .null), ("true".toList, .bool true), ("false".toList, .bool false),
    ("NaN".toList, .number (.float .nan)),
    ("Infinity".toList, .number (.float (.infinite false))),
    ("-Infinity".toList, .number (.float (.infinite true)))]

/-- Reads a word or a number. -/
def readScalar (cs : List Char) : Option (Value × List Char) :=
  match words.find? fun (word, _) => word.isPrefixOf cs with
  | some (word, v) => some (v, cs.drop word.length)
  | none => (readNumber cs).map fun (n, rest) => (.number n, rest)

mutual

/-- Reads a value that starts at once.  The fuel bounds the number of nested calls. -/
def readValue : Nat → List Char → Option (Value × List Char)
  | 0, _ => none
  | fuel + 1, cs =>
      match cs with
      | '"' :: rest => (readString rest).map fun (s, rest) => (.string (String.ofList s), rest)
      | '[' :: rest =>
          match skip rest with
          | ']' :: rest => some (.array [], rest)
          | rest => (readItems fuel rest).map fun (items, rest) => (.array items, rest)
      | '{' :: rest =>
          match skip rest with
          | '}' :: rest => some (.object [], rest)
          | rest =>
              (readFields fuel rest).map fun (fields, rest) => (.object (Keyed.ofList fields), rest)
      | cs => readScalar cs

/-- Reads the items of an array up to its closing bracket. -/
def readItems : Nat → List Char → Option (List Value × List Char)
  | 0, _ => none
  | fuel + 1, cs =>
      match readValue fuel cs with
      | none => none
      | some (x, rest) =>
          match skip rest with
          | ']' :: rest => some ([x], rest)
          | ',' :: rest => (readItems fuel (skip rest)).map fun (xs, rest) => (x :: xs, rest)
          | _ => none

/-- Reads the members of an object up to its closing brace.  A name may occur again; all its
occurrences are returned. -/
def readFields : Nat → List Char → Option (List (String × Value) × List Char)
  | 0, _ => none
  | fuel + 1, cs =>
      match cs with
      | '"' :: rest =>
          match readString rest with
          | none => none
          | some (key, rest) =>
              match skip rest with
              | ':' :: rest =>
                  match readValue fuel (skip rest) with
                  | none => none
                  | some (x, rest) =>
                      let field := (String.ofList key, x)
                      match skip rest with
                      | '}' :: rest => some ([field], rest)
                      | ',' :: rest =>
                          (readFields fuel (skip rest)).map fun (fields, rest) =>
                            (field :: fields, rest)
                      | _ => none
              | _ => none
      | _ => none

end

/-- Each character of a text starts at most two nested calls. -/
def enoughFuel (cs : List Char) : Nat :=
  2 * cs.length + 2

/-- The value that a text writes, with blanks around it and nothing else.  In an object a repeated
name keeps its first place and takes its last value. -/
def parse? (text : String) : Option Value :=
  let cs := skip text.toList
  match readValue (enoughFuel cs) cs with
  | some (v, rest) => if (skip rest).isEmpty then some v else none
  | none => none

end DocQuery.Json
