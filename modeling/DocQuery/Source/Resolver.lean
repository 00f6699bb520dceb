/-
Module: DocQuery.Source.Resolver
Purpose: Finding the documents behind the tables of a query.
Main exports: Resolver, Resolver.readers, Resolver.read, Resolver.resolve, Resolver.bind,
  Resolver.findTableFile
-/
import DocQuery.Query.Run
import DocQuery.Source.Document

namespace DocQuery

/-- Where tables are looked for: the directory of their files, and the mappings. -/
structure Resolver where
  directory : FilePath
  mappings : Store
deriving Repr, Inhabited

namespace Resolver

/-- The suffix of document files. -/
def documentSuffix : String := ".json"

/-- The file of a table: the one named after it, or else the first one whose name differs only in
case. -/
def findTableFile (r : Resolver) (table : String) : Work FilePath := do
  let name := table ++ documentSuffix
  let exact := r.directory.join (.ofText name)
  if ← Work.isFile exact then
    return exact
  let wanted := Text.lowerText name
  let entries := (← Work.entries? r.directory).getD []
  match entries.find? fun (name, tree) => tree.isFile && Text.lowerText name = wanted with
  | some (name, _) => return r.directory.child name
  | none => throw (.source (.noTableFile table r.directory))

/-- A table name that is a path of a file. -/
def looksLikePath (name : String) : Bool :=
  name.toList.any (fun c => c = '/' || c = '\\')
    || documentSuffix.toList.isSuffixOf (Text.lowerText name).toList

/-- The readers of a source: an address, a file, or every document file of a directory. -/
def sourceReaders (r : Resolver) (source recordsPath : String) : Work (List DocumentReader) := do
  if isUrl source then
    return [DocumentReader.openRemote source recordsPath]
  let path := r.directory.join (.ofText source)
  match ← Work.entries? path with
  | none => return [← DocumentReader.openFile path recordsPath]
  | some entries =>
      let files := entries.filter fun (name, tree) =>
        tree.isFile && Text.lowerText (fileSuffix name) = documentSuffix
      if files.isEmpty then
        throw (.source (.noJsonFiles path))
      files.mapM fun (name, _) => DocumentReader.openFile (path.child name) recordsPath

/-- The readers of a table.  A mapping comes first; without one the name may be an address or a
path, and otherwise names a file in the directory of tables. -/
def readers (r : Resolver) (table : String) : Work (List DocumentReader) := do
  match MappingStore.find? r.mappings table with
  | some ⟨none, path⟩ => return [← DocumentReader.openFile (← r.findTableFile table) path]
  | some ⟨some source, path⟩ => r.sourceReaders source path
  | none =>
      if isUrl table then
        return [DocumentReader.openRemote table TableMapping.rootPath]
      else if looksLikePath table then
        r.sourceReaders table TableMapping.rootPath
      else
        return [← DocumentReader.openFile (← r.findTableFile table) TableMapping.rootPath]

/-- The rows of a table from all its readers. -/
def read (r : Resolver) (table : String) : Work (List Row) := do
  return (← (← r.readers table).mapM DocumentReader.read).flatten

/-- A table of a query with its rows. -/
def resolve (r : Resolver) (ref : TableRef) : Work Table := do
  return ⟨ref.effectiveAlias, ← r.read ref.name, some ref.name⟩

/-- Adds a table to those that were read.  Its rows are not read again if another table of the same
name was; a second table under the same alias is left out. -/
def bindTable (r : Resolver) (rows : Keyed (List Row)) (tables : Plan.Tables) (ref : TableRef) :
    Work (Keyed (List Row) × Plan.Tables) := do
  let found ←
    match Keyed.get? ref.name rows with
    | some found => pure found
    | none => r.read ref.name
  let aliasName := ref.effectiveAlias
  let tables :=
    if Keyed.has aliasName tables then tables
    else Keyed.put aliasName ⟨aliasName, found, some ref.name⟩ tables
  return (Keyed.put ref.name found rows, tables)

/-- The tables that a plan refers to, with their rows. -/
def bind (r : Resolver) (p : Plan) : Work Plan.Tables := do
  let (_, tables) ← p.tables.foldlM
    (fun (rows, tables) ref => r.bindTable rows tables ref) ([], [])
  return tables

end Resolver

end DocQuery
