/-
Module: DocQuery.StoreFile
Purpose: Stores and the files that they are kept in.
Main exports: StoreFile, StoreFile.openMappings, StoreFile.openQueries, StoreFile.change
-/
import DocQuery.Source.Workspace

namespace DocQuery

/-- What is said when a file of saved queries is left aside. -/
inductive StoreWarning where
  | unreadable (path : FilePath)
  | notObject (path : FilePath)
deriving DecidableEq, Repr, Inhabited

/-- A warning in words. -/
def StoreWarning.message : StoreWarning → String
  | .unreadable path => "Ignoring unreadable saved queries file " ++ path.text
  | .notObject path => "Ignoring saved queries file " ++ path.text ++ ": not a JSON object"

/-- A store and the file that it is kept in. -/
structure StoreFile where
  path : FilePath
  store : Store
deriving Repr, Inhabited

namespace StoreFile

/-- The text of a store's file, empty if there is no file yet. -/
def readText (path : FilePath) : Work String := do
  match ← Work.find? path with
  | none => return ""
  | some _ => Work.readText path

/-- The mappings in a file.  One that holds no mappings is an error. -/
def openMappings (path : FilePath) : Work StoreFile := do
  match Store.ofText (← readText path) with
  | .ok store => return ⟨path, store⟩
  | .error .notJson => throw (.source (.unreadableMappings path))
  | .error .notObject => throw (.source (.mappingsNotObject path))

/-- The saved queries in a file.  One that holds none is left aside with a warning. -/
def openQueries (path : FilePath) : Work StoreFile := do
  match Store.ofText (← readText path) with
  | .ok store => return ⟨path, store⟩
  | .error .notJson => Work.warn (StoreWarning.unreadable path).message
  | .error .notObject => Work.warn (StoreWarning.notObject path).message
  return ⟨path, []⟩

/-- Changes a store and writes its file.  A store that was changed stays changed when its file
cannot be written. -/
def change (f : StoreFile) (edit : Store → Except StoreFault Store) :
    StateM Workspace (StoreFile × Except Failure Unit) := do
  match edit f.store with
  | .error fault => return (f, .error (.store fault))
  | .ok store =>
      let written ← (Work.writeText f.path store.text).run
      return (⟨f.path, store⟩, written)

end StoreFile

end DocQuery
