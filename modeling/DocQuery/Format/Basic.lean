/-
Module: DocQuery.Format.Basic
Purpose: The output formats.
Main exports: OutputFormat, OutputFormat.ofName
-/
import DocQuery.Failure
import DocQuery.Format.Json
import DocQuery.Format.Table

namespace DocQuery

/-- The formats in which rows can be put out. -/
inductive OutputFormat where
  | json
  | table
deriving DecidableEq, Repr, Inhabited

namespace OutputFormat

/-- The name of a format. -/
def name : OutputFormat → String
  | .json => "json"
  | .table => "table"

/-- Made for reading on a terminal rather than by programs. -/
def forTerminal : OutputFormat → Bool
  | .json => false
  | .table => true

/-- The format of a name. -/
def ofName (name : String) : Except Failure OutputFormat :=
  if name = OutputFormat.table.name then .ok .table
  else if name = OutputFormat.json.name then .ok .json
  else .error (.format name)

end OutputFormat

end DocQuery
