/-
Module: DocQuery.Source.Document
Purpose: Reading the records of a document in a file or on the network.
Main exports: DocumentSource, DocumentReader, DocumentReader.openFile, DocumentReader.openSource,
  DocumentReader.read
-/
import DocQuery.Mapping
import DocQuery.Record.Basic
import DocQuery.Source.Workspace
import DocQuery.Text.Encoding

namespace DocQuery

/-- Where a document is. -/
inductive DocumentSource where
  | file (path : FilePath)
  | remote (url : String)
deriving DecidableEq, Repr, Inhabited

/-- The name of a document, as warnings give it. -/
def DocumentSource.text : DocumentSource → String
  | .file path => path.text
  | .remote url => url

/-- A document and the path of the records in it.  A remote document is kept once it was read. -/
structure DocumentReader where
  source : DocumentSource
  recordsPath : String
  kept : Option Value
deriving Repr, Inhabited

namespace DocumentReader

/-- A path expression; an empty one is that of the whole document. -/
def pathOrRoot (path : String) : String :=
  if path = "" then TableMapping.rootPath else path

/-- A reader for a file, which has to be there. -/
def openFile (path : FilePath) (recordsPath : String) : Work DocumentReader := do
  unless ← Work.isFile path do
    throw (.source (.noFile path))
  return ⟨.file path, pathOrRoot recordsPath, none⟩

/-- A reader for a document on the network. -/
def openRemote (url recordsPath : String) : DocumentReader :=
  ⟨.remote url, pathOrRoot recordsPath, none⟩

/-- A reader for an address or the path of a file. -/
def openSource (source recordsPath : String) : Work DocumentReader :=
  if isUrl source then return openRemote source recordsPath
  else openFile (.ofText source) recordsPath

/-- The document of a reader. -/
def load (r : DocumentReader) : Work Value := do
  match r.kept, r.source with
  | some document, _ => return document
  | none, .file path =>
      match Json.parse? (← Work.readText path) with
      | some document => return document
      | none => throw (.source (.invalidFile path))
  | none, .remote url =>
      match (Text.decodeDocument? (← Work.fetch url)).bind Json.parse? with
      | some document => return document
      | none => throw (.source (.invalidRemote url))

/-- The reader after its document was read. -/
def keeping (r : DocumentReader) (document : Value) : DocumentReader :=
  match r.source with
  | .file _ => r
  | .remote _ => { r with kept := some document }

/-- The records of a document at the path of the reader. -/
def recordsOf (r : DocumentReader) (document : Value) : Work (List Row) := do
  let (rows, warning) ←
    Work.ofExcept .path (RecordPath.records document r.recordsPath r.source.text)
  warning.forM fun w => Work.warn w.message
  return rows

/-- The records that a reader finds. -/
def read (r : DocumentReader) : Work (List Row) := do
  r.recordsOf (← r.load)

end DocumentReader

end DocQuery
