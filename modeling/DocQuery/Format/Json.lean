/-
Module: DocQuery.Format.Json
Purpose: Rows as a JSON array.
Main exports: Value.clean, jsonRows
-/
import DocQuery.Json.Writer
import DocQuery.Record.Basic

namespace DocQuery

/-- A number that is not finite. -/
def Number.isNotFinite : Number → Bool
  | .float .nan => true
  | .float (.infinite _) => true
  | _ => false

namespace Value

mutual

/-- A value with null in place of the numbers that JSON cannot hold. -/
def clean : Value → Value
  | .number n => if n.isNotFinite then .null else .number n
  | .array items => .array (cleanItems items)
  | .object fields => .object (cleanFields fields)
  | v => v

/-- Cleans the items of an array. -/
def cleanItems : List Value → List Value
  | [] => []
  | x :: xs => clean x :: cleanItems xs

/-- Cleans the members of an object. -/
def cleanFields : List (String × Value) → List (String × Value)
  | [] => []
  | (key, x) :: xs => (key, clean x) :: cleanFields xs

end

end Value

/-- Rows as one value. -/
def rowsValue (rows : List Row) : Value :=
  .array (rows.map .object)

/-- The indentation of rows that are laid out for reading. -/
def prettyIndent : Nat := 2

/-- Rows as JSON text, on one line or with the given indentation. -/
def jsonRows (indent : Option Nat) (rows : List Row) : String :=
  let cleaned := (rowsValue rows).clean
  match indent with
  | none => Json.compactText cleaned
  | some width => Json.indentedText width cleaned

end DocQuery
