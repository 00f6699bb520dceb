/-
Module: DocQuery.Json.Writer
Purpose: The JSON text of a value, compact, spaced or indented.
Assumptions: numerals of any length and any depth of nesting, as in DocQuery.Number.Basic.
Main exports: Json.Layout, Json.write, Json.compactText, Json.spacedText, Json.indentedText,
  Json.canonicalText, Json.storedText
-/
import DocQuery.Value.Basic

namespace DocQuery.Json

/-- How a JSON text is laid out. -/
structure Layout where
  /-- Put between a name and its value. -/
  colon : String
  /-- Put between two items on one line. -/
  comma : String
  /-- With an indentation, every item is on a line of its own and starts with this many blanks for
  each level. -/
  indent : Option Nat
  /-- Write every character outside ASCII as an escape. -/
  ascii : Bool

/-- Numbers that are not finite have names of their own. -/
def spelling : Binary64.FloatSpelling := ⟨"NaN", "Infinity"⟩

/-- The digit of a hexadecimal numeral. -/
def hexDigit (n : Nat) : Char :=
  (Nat.digitChar (n % 16))

/-- Four hexadecimal digits. -/
def hex4 (n : Nat) : List Char :=
  [hexDigit (n / 4096), hexDigit (n / 256), hexDigit (n / 16), hexDigit n]

/-- The escape of a character by its code; a character past the first 65536 is written as a pair of
surrogates. -/
def unicodeEscape (n : Nat) : List Char :=
  if n < 0x10000 then '\\' :: 'u' :: hex4 n
  else
    '\\' :: 'u' :: hex4 (0xd800 + (n - 0x10000) / 1024)
      ++ '\\' :: 'u' :: hex4 (0xdc00 + (n - 0x10000) % 1024)

/-- One character inside a quoted string. -/
def writeChar (ascii : Bool) (c : Char) : List Char :=
  if c = '"' then ['\\', '"']
  else if c = '\\' then ['\\', '\\']
  else if c = '\n' then ['\\', 'n']
  else if c = '\r' then ['\\', 'r']
  else if c = '\t' then ['\\', 't']
  else if c.toNat = 8 then ['\\', 'b']
  else if c.toNat = 12 then ['\\', 'f']
  else if c.toNat < 32 ∨ (ascii ∧ 126 < c.toNat) then unicodeEscape c.toNat
  else [c]

/-- A quoted string. -/
def writeString (ascii : Bool) (s : String) : List Char :=
  '"' :: s.toList.flatMap (writeChar ascii) ++ ['"']

/-- The start of a line at the given level, if the layout has lines. -/
def newline (layout : Layout) (level : Nat) : List Char :=
  match layout.indent with
  | none => []
  | some width => '\n' :: List.replicate (width * level) ' '

/-- What stands between two items. -/
def separator (layout : Layout) (level : Nat) : List Char :=
  match layout.indent with
  | none => layout.comma.toList
  | some _ => ',' :: newline layout level

mutual

/-- The JSON text of a value whose items, if it has any, are at level `level + 1`. -/
def writeValue (layout : Layout) (level : Nat) : Value → List Char
  | .null => "null".toList
  | .bool true => "true".toList
  | .bool false => "false".toList
  | .number n => n.text spelling
  | .string s => writeString layout.ascii s
  | .array [] => "[]".toList
  | .array (x :: xs) =>
      '[' :: newline layout (level + 1) ++ writeValue layout (level + 1) x
        ++ writeItems layout (level + 1) xs ++ newline layout level ++ [']']
  | .object [] => ['{', '}']
  | .object ((key, x) :: xs) =>
      '{' :: newline layout (level + 1) ++ writeString layout.ascii key ++ layout.colon.toList
        ++ writeValue layout (level + 1) x
        ++ writeFields layout (level + 1) xs ++ newline layout level ++ ['}']

/-- The items of an array after the first. -/
def writeItems (layout : Layout) (level : Nat) : List Value → List Char
  | [] => []
  | x :: xs => separator layout level ++ writeValue layout level x ++ writeItems layout level xs

/-- The members of an object after the first. -/
def writeFields (layout : Layout) (level : Nat) : List (String × Value) → List Char
  | [] => []
  | (key, x) :: xs =>
      separator layout level ++ writeString layout.ascii key ++ layout.colon.toList
        ++ writeValue layout level x ++ writeFields layout level xs

end

/-- The JSON text of a value. -/
def write (layout : Layout) (v : Value) : String :=
  String.ofList (writeValue layout 0 v)

/-- No blanks at all, and every character outside ASCII as it is. -/
def compact : Layout := ⟨":", ",", none, false⟩

/-- On one line with a blank after each comma and colon. -/
def spaced : Layout := ⟨": ", ", ", none, false⟩

/-- On one line with a blank after each comma and colon, in ASCII. -/
def spacedAscii : Layout := ⟨": ", ", ", none, true⟩

/-- One item a line. -/
def indented (width : Nat) : Layout := ⟨": ", ",", some width, false⟩

/-- One item a line, each level two blanks further in, in ASCII. -/
def stored : Layout := ⟨": ", ",", some 2, true⟩

/-- The compact text of a value. -/
def compactText (v : Value) : String := write compact v

/-- The text of a value on one line with blanks. -/
def spacedText (v : Value) : String := write spaced v

/-- The text of a value with one item a line. -/
def indentedText (width : Nat) (v : Value) : String := write (indented width) v

/-- The text of a value as it is kept in a file. -/
def storedText (v : Value) : String := write stored v

mutual

/-- A value with the members of every object in it sorted by name. -/
def sortFields : Value → Value
  | .array items => .array (sortItems items)
  | .object fields =>
      .object ((sortMembers fields).mergeSort fun a b => decide (a.1 ≤ b.1))
  | v => v

/-- Sorts the objects among the items of an array. -/
def sortItems : List Value → List Value
  | [] => []
  | x :: xs => sortFields x :: sortItems xs

/-- Sorts the objects among the members of an object, which stay in their order. -/
def sortMembers : List (String × Value) → List (String × Value)
  | [] => []
  | (key, x) :: xs => (key, sortFields x) :: sortMembers xs

end

/-- A text that two arrays or objects share exactly when they agree up to the order of members. -/
def canonicalText (v : Value) : String :=
  write spacedAscii (sortFields v)

end DocQuery.Json
