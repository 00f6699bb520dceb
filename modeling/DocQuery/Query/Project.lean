/-
Module: DocQuery.Query.Project
Purpose: The columns that a select list takes from records.
Main exports: outputNames, wildcardFields, Projected, project, projectAgain
-/
import DocQuery.Record.Scope

namespace DocQuery

/-- An item of the select list with a name of its own to find: no wildcard, and no alias given. -/
def SelectItem.isUnnamed (item : SelectItem) : Bool :=
  !item.isWildcard && (givenAlias? item.aliasName).isNone

/-- The name under which each item is put out, none for wildcards.  A given alias is the name.  Any
other item goes by its last component, unless another unnamed item has the same one: then both keep
their full names. -/
def outputNames (items : List SelectItem) : List (Option String) :=
  let unnamed := (items.filter SelectItem.isUnnamed).map SelectItem.outputName
  items.map fun item =>
    if item.isWildcard then none
    else if item.isUnnamed && unnamed.count item.outputName > 1 then some item.source
    else some item.outputName

/-- The fields that a wildcard takes from a record: all of them, or those of one table. -/
def wildcardFields (r : Record) : Option String → Row
  | none => r.fields
  | some aliasName =>
      match r.aliasName with
      | some own => if own = aliasName then r.fields else []
      | none =>
          let start := (Record.qualifiedName aliasName "").toList
          r.fields.filter fun field => start.isPrefixOf field.1.toList

/-- A record of the output with the record it was made from. -/
structure Projected where
  output : Record
  source : Record
deriving Repr, Inhabited

/-- Adds the fields that one item of a select list takes from a record to those of the items before
it.  `name` is the output name, none for a wildcard. -/
def projectItem (scope : Scope) (r : Record) (fields : Row) (item : SelectItem)
    (name : Option String) : Except QueryError Row := do
  match name with
  | none => return Keyed.update fields (wildcardFields r item.wildcardAlias?)
  | some name => return Keyed.put name (← scope.resolve r item.source) fields

/-- The output record of a select list.  It stays a row of its table if only `*` was selected. -/
def projectRecord (scope : Scope) (items : List SelectItem) (r : Record) :
    Except QueryError Record := do
  let fields ← (items.zip (outputNames items)).foldlM
    (fun fields (item, name) => projectItem scope r fields item name) []
  let keepsTable := items.all fun item => item.isWildcard && item.wildcardAlias?.isNone
  return ⟨fields, if keepsTable then r.aliasName else none⟩

/-- Takes the columns of a select list from a record. -/
def project (scope : Scope) (items : List SelectItem) (r : Record) :
    Except QueryError Projected := do
  return ⟨← projectRecord scope items r, r⟩

/-- Takes columns from an output record, which still remembers the first source. -/
def projectAgain (scope : Scope) (items : List SelectItem) (p : Projected) :
    Except QueryError Projected := do
  return ⟨← projectRecord scope items p.output, p.source⟩

end DocQuery
