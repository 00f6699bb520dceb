/-
Module: DocQuery.Store
Purpose: Stores of named texts as they are kept in files: table mappings and saved queries.
Main exports: StoreFault, Store, Store.ofText, Store.text, MappingStore.add, MappingStore.remove,
  MappingStore.find?, MappingStore.sorted, QueryStore.save, QueryStore.delete
-/
import DocQuery.Json.Reader
import DocQuery.Json.Writer
import DocQuery.Mapping
import DocQuery.Value.Inspect

namespace DocQuery

/-- Why a store was not changed. -/
inductive StoreFault where
  | emptyAlias
  | emptyMapping
  | noMapping (aliasName : String)
  | emptyName
  | emptyQuery
  | noQuery (name : String)
deriving DecidableEq, Repr, Inhabited

/-- A fault of a store in words. -/
def StoreFault.message : StoreFault → String
  | .emptyAlias => "Alias cannot be empty"
  | .emptyMapping => "Mapping cannot be empty"
  | .noMapping aliasName => "No mapping found for table: " ++ aliasName
  | .emptyName => "Query name cannot be empty"
  | .emptyQuery => "Query SQL cannot be empty"
  | .noQuery name => "Query not found: " ++ name

/-- Named texts in the order in which they were first stored. -/
abbrev Store := Keyed String

/-- Why a text holds no store. -/
inductive StoreTextFault where
  | notJson
  | notObject
deriving DecidableEq, Repr, Inhabited

namespace Store

/-- A text of white space only. -/
def isBlankText (text : String) : Bool :=
  text.toList.all Text.isBlank

/-- The store that a text holds: the members of a JSON object, or nothing if the text is blank.
Members that are no strings count as the text that a message would show. -/
def ofText (text : String) : Except StoreTextFault Store :=
  if isBlankText text then .ok []
  else
    match Json.parse? text with
    | none => .error .notJson
    | some (.object fields) => .ok (fields.map fun (name, v) => (name, v.plain))
    | some _ => .error .notObject

/-- The text that keeps a store. -/
def text (s : Store) : String :=
  Json.storedText (.object (s.map fun (name, text) => (name, .string text))) ++ "\n"

end Store

namespace MappingStore

/-- Adds or replaces a mapping.  Table and mapping are stored without white space around them. -/
def add (s : Store) (aliasName mapping : String) : Except StoreFault Store :=
  if Store.isBlankText aliasName then .error .emptyAlias
  else if Store.isBlankText mapping then .error .emptyMapping
  else .ok (Keyed.put (Text.trimText aliasName) (Text.trimText mapping) s)

/-- Removes a mapping. -/
def remove (s : Store) (aliasName : String) : Except StoreFault Store :=
  if Keyed.has aliasName s then .ok (Keyed.erase aliasName s) else .error (.noMapping aliasName)

/-- The mapping of a table. -/
def find? (s : Store) (aliasName : String) : Option TableMapping :=
  (Keyed.get? aliasName s).map TableMapping.parse

/-- All mappings, sorted by table. -/
def sorted (s : Store) : Store :=
  s.mergeSort fun a b => decide (a.1 ≤ b.1)

end MappingStore

namespace QueryStore

/-- Saves a query.  Its name is stored without white space around it, its text as it is. -/
def save (s : Store) (name sql : String) : Except StoreFault Store :=
  if Store.isBlankText name then .error .emptyName
  else if Store.isBlankText sql then .error .emptyQuery
  else .ok (Keyed.put (Text.trimText name) sql s)

/-- Deletes a query. -/
def delete (s : Store) (name : String) : Except StoreFault Store :=
  if Keyed.has name s then .ok (Keyed.erase name s) else .error (.noQuery name)

end QueryStore

end DocQuery
