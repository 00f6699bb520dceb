/-
Module: DocQuery.Failure
Purpose: Everything that can go wrong between a command and its answer.
Main exports: SourceFault, Failure, Failure.message
-/
import DocQuery.Parameters
import DocQuery.QueryError
import DocQuery.RecordPath
import DocQuery.Source.FileTree
import DocQuery.Sql.Lexer
import DocQuery.Store
import DocQuery.Text.Utf8

namespace DocQuery

/-- Why a table has no records. -/
inductive SourceFault where
  | noTableFile (table : String) (directory : FilePath)
  | noFile (path : FilePath)
  | noJsonFiles (directory : FilePath)
  | invalidFile (path : FilePath)
  | invalidRemote (url : String)
  | download (url : String)
  | unreadableMappings (path : FilePath)
  | mappingsNotObject (path : FilePath)
deriving DecidableEq, Repr, Inhabited

/-- A fault of a source in words. -/
def SourceFault.message : SourceFault → String
  | .noTableFile table directory =>
      "No JSON file found for table '" ++ table ++ "' in " ++ directory.text
        ++ ". Add a mapping with: jsonsql add-mapping " ++ table ++ " <mapping>"
  | .noFile path => "JSON file not found: " ++ path.text
  | .noJsonFiles directory => "No JSON files found in directory: " ++ directory.text
  | .invalidFile path => "Invalid JSON file " ++ path.text
  | .invalidRemote url => "Invalid JSON from " ++ url
  | .download url => "Failed to download " ++ url
  | .unreadableMappings path => "Failed to load mappings from " ++ path.text
  | .mappingsNotObject path => "Mappings file " ++ path.text ++ " must contain a JSON object"

/-- A file that a source needs is not there. -/
def SourceFault.isMissingFile : SourceFault → Bool
  | .noTableFile .. | .noFile _ | .noJsonFiles _ => true
  | _ => false

/-- Everything that can go wrong. -/
inductive Failure where
  | parse (e : Sql.ParseError)
  | query (e : QueryError)
  | path (e : PathError)
  | parameter (e : ParameterError)
  | store (e : StoreFault)
  | source (e : SourceFault)
  | file (e : FileFault) (path : FilePath)
  | encoding (e : Text.Utf8Fault)
  | format (name : String)
deriving Repr, Inhabited

namespace Failure

/-- The names of the output formats, as messages list them. -/
def formatNames : String := "table, json"

/-- A failure in words. -/
def message : Failure → String
  | .parse e => e.message
  | .query e => e.message
  | .path e => e.message
  | .parameter e => e.message
  | .store e => e.message
  | .source e => e.message
  | .file e p => e.message p
  | .encoding e => e.message
  | .format name => "Unknown format: " ++ name ++ ". Available formats: " ++ formatNames

/-- The failure is that a file is not there. -/
def isMissingFile : Failure → Bool
  | .source e => e.isMissingFile
  | .file .notFound _ => true
  | _ => false

end Failure

end DocQuery
