/-
Module: DocQuery.Record.Scope
Purpose: Which tables and fields a query knows, and what a reference to a field means there.
Main exports: Location, Scope, Scope.ofTables, Scope.ofRecords, Scope.locate, Value.descend,
  Scope.resolve
-/
import DocQuery.QueryError
import DocQuery.Record.Basic
import DocQuery.Text.Digit
import DocQuery.Text.Split

namespace DocQuery

/-- Where a reference points: a field of a table, and the path to a value nested in it.  Without a
table the reference points nowhere. -/
structure Location where
  aliasName : Option String
  name : String
  path : List String
deriving DecidableEq, Repr, Inhabited

/-- The tables that references can name, in the order in which they were bound, each with the names
of its fields.  A table bound again under the same name replaces the field names of both. -/
structure Scope where
  tables : List (String × List String)
deriving DecidableEq, Repr, Inhabited

namespace Scope

/-- The bound names in order. -/
def aliases (scope : Scope) : List String :=
  scope.tables.map Prod.fst

/-- The field names that a bound table last had. -/
def fieldsOf? (scope : Scope) (aliasName : String) : Option (List String) :=
  scope.tables.reverse.lookup aliasName

/-- A table of that name is bound. -/
def isBound (scope : Scope) (aliasName : String) : Bool :=
  scope.aliases.contains aliasName

/-- Several tables are bound. -/
def joined (scope : Scope) : Bool :=
  scope.tables.length > 1

/-- The tables that have a field of that name. -/
def owners (scope : Scope) (name : String) : List String :=
  scope.aliases.filter fun aliasName => ((scope.fieldsOf? aliasName).getD []).contains name

/-! ### Building scopes -/

/-- The scope of several tables. -/
def ofTables (tables : List Table) : Scope :=
  ⟨tables.map fun t => (t.aliasName, t.fieldNames)⟩

/-- The scope with one more table, known by its field names. -/
def withFields (scope : Scope) (aliasName : String) (names : List String) : Scope :=
  ⟨scope.tables ++ [(aliasName, names)]⟩

/-- The scope with one more table. -/
def extended (scope : Scope) (t : Table) : Scope :=
  scope.withFields t.aliasName t.fieldNames

/-- The scope restricted to some of its tables. -/
def subset (scope : Scope) (wanted : List String) : Scope :=
  ⟨(scope.tables.filter fun t => wanted.contains t.1).map fun t =>
    (t.1, (scope.fieldsOf? t.1).getD [])⟩

/-- Splits a composed record into the rows of its tables. -/
def splitRow (row : Row) : Keyed Row :=
  row.foldl
    (fun groups (key, v) =>
      let (table, name) := Text.cutText '.' key
      Keyed.put table (Keyed.put (name.getD "") v ((Keyed.get? table groups).getD [])) groups)
    []

/-- The rows of the tables that a record comes from.  A record without an alias is composed if all
its field names hold a point; otherwise it is a row of the table without a name. -/
def rowsOf (r : Record) : List (String × Row) :=
  match r.aliasName with
  | some aliasName => [(aliasName, r.fields)]
  | none =>
      if !r.fields.isEmpty && r.fields.all fun field => field.1.toList.contains '.' then
        splitRow r.fields
      else
        [("", r.fields)]

/-- The scope that records describe by themselves. -/
def ofRecords (records : List Record) : Scope :=
  let tables : Keyed (List Row) :=
    (records.flatMap rowsOf).foldl (fun groups (table, row) => Keyed.push table row groups) []
  if tables.isEmpty then ⟨[("", [])]⟩
  else ofTables (tables.map fun (aliasName, rows) => ⟨aliasName, rows, none⟩)

/-- The scope that a record describes by itself. -/
def ofRecord (r : Record) : Scope :=
  ofRecords [r]

/-! ### References -/

/-- A reference up to its first point. -/
def refHead (ref : String) : String :=
  (Text.cutText '.' ref).1

/-- The parts of a reference behind its first point. -/
def refPath (ref : String) : List String :=
  match (Text.cutText '.' ref).2.filter (· ≠ "") with
  | some rest => Text.partsText '.' rest
  | none => []

/-- What a reference means.  Its part before the first point is a table if one of that name is
bound and something follows; otherwise it is a field, which exactly one table must have.  In a query
on one table every field is taken to be there.  In one on several tables an unknown field is null,
and one with a point is taken for an unknown table. -/
def locate (scope : Scope) (clause ref : String) : Except QueryError Location :=
  let head := refHead ref
  let path := refPath ref
  if !path.isEmpty && scope.isBound head then
    .ok ⟨some head, path.headD "", path.drop 1⟩
  else
    match scope.owners head with
    | [owner] => .ok ⟨some owner, head, path⟩
    | [] =>
        match scope.aliases with
        | [] => .error .noTable
        | [aliasName] => .ok ⟨some aliasName, head, path⟩
        | _ => if path.isEmpty then .ok ⟨none, head, []⟩ else .error (.unboundAlias head clause)
    | owners => .error (.ambiguousField head owners)

end Scope

/-- An index into an array of the given length.  A part of digits is an index; digits that are not
decimal are an error. -/
def arrayIndex? (part : String) : Except QueryError (Option Nat) :=
  let digits := part.toList
  if digits.isEmpty || !digits.all Text.isDigit then .ok none
  else
    match Text.natOfText? part with
    | some n => .ok (some n)
    | none => .error (.arrayIndex part)

/-- The value at the end of a path of member names and array indexes, null if the path leads
nowhere. -/
def Value.descend : List String → Value → Except QueryError Value
  | [], v => .ok v
  | part :: path, v =>
      match v with
      | .object fields => descend path ((Keyed.get? part fields).getD .null)
      | .array items =>
          match arrayIndex? part with
          | .error e => .error e
          | .ok none => .ok .null
          | .ok (some i) =>
              match items[i]? with
              | some item => descend path item
              | none => .ok .null
      | _ => .ok .null

/-- The value that a location points at in a record. -/
def Location.valueIn (l : Location) (r : Record) : Except QueryError Value :=
  match l.aliasName with
  | none => .ok .null
  | some aliasName => (r.field aliasName l.name).descend l.path

namespace Scope

/-- The clause named when a reference outside of all clauses fails. -/
def anyClause : String := "query"

/-- The value of a reference in a record, null if it is missing. -/
def resolve (scope : Scope) (r : Record) (ref : String) : Except QueryError Value := do
  (← scope.locate anyClause ref).valueIn r

end Scope

end DocQuery
