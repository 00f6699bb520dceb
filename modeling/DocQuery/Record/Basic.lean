/-
Module: DocQuery.Record.Basic
Purpose: Records, the rows of one table or of several joined ones.
Main exports: Row, Record, Record.field, Record.qualified, Record.merge, Record.text, Table
-/
import DocQuery.Keyed
import DocQuery.Value.Equality
import DocQuery.Value.Inspect
import DocQuery.Sql.Plan

namespace DocQuery

/-- The fields of a row in order. -/
abbrev Row := Keyed Value

/-- A row on its way through a query.  A record with an alias is a row of that table under its own
field names; one without is composed of several tables, and names its fields `alias.field`. -/
structure Record where
  fields : Row
  aliasName : Option String
deriving Repr, Inhabited

namespace Record

/-- The name of a table's field in a composed record. -/
def qualifiedName (aliasName name : String) : String :=
  aliasName ++ "." ++ name

/-- The value under a name, null if there is none. -/
def valueOf (r : Record) (name : String) : Value :=
  (Keyed.get? name r.fields).getD .null

/-- The value of a table's field, null if the record has none.  The empty alias names the fields of
a record that belongs to no table. -/
def field (r : Record) (aliasName name : String) : Value :=
  match r.aliasName with
  | some own => if aliasName = own then r.valueOf name else .null
  | none => r.valueOf (if aliasName = "" then name else qualifiedName aliasName name)

/-- The record with its table's name in front of every field. -/
def qualified (r : Record) : Record :=
  match r.aliasName with
  | none => r
  | some aliasName => ⟨r.fields.map fun (key, v) => (qualifiedName aliasName key, v), none⟩

/-- Two records as one; a field of the second replaces one of the same name. -/
def merge (r s : Record) : Record :=
  ⟨Keyed.update r.qualified.fields s.qualified.fields, none⟩

/-- Equality of records: the same fields with the same contents, whatever their order. -/
def sameFields (r s : Record) : Bool :=
  Value.sameContent (.object r.fields) (.object s.fields)

/-- A record as text. -/
def text (r : Record) : String :=
  "Record(" ++ (Value.object r.fields).inspect
    ++ (match givenAlias? r.aliasName with
      | some aliasName => ", alias=" ++ quoted aliasName
      | none => "") ++ ")"

end Record

/-- A table of a query: its rows under the name by which the query refers to them. -/
structure Table where
  aliasName : String
  rows : List Row
  name : Option String
deriving Repr, Inhabited

namespace Table

/-- The names of all fields of all rows, in the order of their first occurrence. -/
def fieldNames (t : Table) : List String :=
  Keyed.distinct (t.rows.flatMap Keyed.keys)

/-- The rows as records. -/
def records (t : Table) : List Record :=
  t.rows.map fun row => ⟨row, some t.aliasName⟩

end Table

end DocQuery
