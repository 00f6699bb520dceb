/-
Module: DocQuery.Value.Basic
Purpose: The values of documents and their types.
Main exports: Value, ValueType, Value.type, ValueType.isScalar, ValueType.isOrderable
-/
import DocQuery.Number.Basic

namespace DocQuery

/-- A value of a document.  An object keeps its members in the order in which they were written. -/
inductive Value where
  | null
  | bool (b : Bool)
  | number (n : Number)
  | string (s : String)
  | array (items : List Value)
  | object (fields : List (String × Value))
deriving Repr, Inhabited

/-- The types of values that queries tell apart. -/
inductive ValueType where
  | string
  | number
  | boolean
  | null
  | object
  | array
deriving DecidableEq, Repr, Inhabited

namespace ValueType

/-- The name of a type, as messages write it. -/
def name : ValueType → String
  | .string => "STRING"
  | .number => "NUMBER"
  | .boolean => "BOOLEAN"
  | .null => "NULL"
  | .object => "OBJECT"
  | .array => "ARRAY"

/-- Objects and arrays have parts; every other value, null included, is a scalar. -/
def isScalar : ValueType → Bool
  | .object | .array => false
  | _ => true

/-- The types whose values have an order. -/
def isOrderable : ValueType → Bool
  | .string | .number | .boolean => true
  | _ => false

end ValueType

namespace Value

/-- The type of a value. -/
def type : Value → ValueType
  | .null => .null
  | .bool _ => .boolean
  | .number _ => .number
  | .string _ => .string
  | .array _ => .array
  | .object _ => .object

/-- The integer `n` as a value. -/
def int (n : Int) : Value :=
  .number (.integer n)

/-- Null, which stands for a missing value. -/
def isNull : Value → Bool
  | .null => true
  | _ => false

end Value

end DocQuery
