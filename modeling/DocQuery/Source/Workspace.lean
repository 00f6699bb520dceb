/-
Module: DocQuery.Source.Workspace
Purpose: What commands read and change: files, documents on the network, and warnings.
Main exports: Workspace, Workspace.lookUp, Work, Work.find?, Work.readText, Work.checkPlace,
  Work.writeText, Work.fetch, Work.warn
-/
import DocQuery.Failure

namespace DocQuery

/-- The files and remote documents that commands work on, and what they leave behind. -/
structure Workspace where
  /-- All files, from the root. -/
  tree : FileTree
  /-- The parts of the path of the working directory. -/
  here : List String
  /-- Status and body of the documents that can be reached on the network. -/
  remote : List (String × Nat × List UInt8)
  /-- The paths that were looked up, latest first. -/
  consulted : List FilePath
  /-- The addresses that were asked for, latest first. -/
  requests : List String
  /-- The warnings that were given, latest first. -/
  warnings : List String
deriving Repr, Inhabited

/-- A computation on a workspace.  What it did before it failed stays done. -/
abbrev Work := ExceptT Failure (StateM Workspace)

namespace Workspace

/-- The parts of a path from the root. -/
def place (w : Workspace) (p : FilePath) : List String :=
  if p.isAbsolute then p.parts else w.here ++ p.parts

/-- The most bytes that a path may have. -/
def maxPathBytes : Nat := 4095

/-- What a path leads to, or what stands in the way. -/
def lookUp (p : FilePath) : StateM Workspace (Except FileFault FileTree) := do
  modify fun w => { w with consulted := p :: w.consulted }
  let w ← get
  if p.text.toList.contains '\x00' then return .error .nullByte
  if p.text.utf8ByteSize > maxPathBytes then return .error .nameTooLong
  return w.tree.locate (w.place p)

end Workspace

namespace Work

/-- What a path leads to, if there is something.  A name that is too long cannot be looked up. -/
def find? (p : FilePath) : Work (Option FileTree) := do
  match ← ExceptT.lift (Workspace.lookUp p) with
  | .ok found => return some found
  | .error .nameTooLong => throw (.file .nameTooLong p)
  | .error _ => return none

/-- Looks a path up before something is created there.  A null byte cannot be written into one. -/
def checkPlace (p : FilePath) : Work Unit := do
  match ← ExceptT.lift (Workspace.lookUp p) with
  | .error .nullByte => throw (.file .nullByte p)
  | .error .nameTooLong => throw (.file .nameTooLong p)
  | _ => return

/-- A path leads to a file. -/
def isFile (p : FilePath) : Work Bool := do
  return (← find? p).any FileTree.isFile

/-- The entries of a directory, sorted by name. -/
def entries? (p : FilePath) : Work (Option (List (String × FileTree))) := do
  match ← find? p with
  | some (.directory entries) => return some (entries.mergeSort fun a b => decide (a.1 ≤ b.1))
  | _ => return none

/-- A text with all line ends written as line feeds. -/
def unixLines : List Char → List Char
  | [] => []
  | '\r' :: '\n' :: cs => '\n' :: unixLines cs
  | '\r' :: cs => '\n' :: unixLines cs
  | c :: cs => c :: unixLines cs

/-- The text in a file. -/
def readText (p : FilePath) : Work String := do
  match ← ExceptT.lift (Workspace.lookUp p) with
  | .error fault => throw (.file fault p)
  | .ok (.directory _) => throw (.file .isDirectory p)
  | .ok (.file bytes) =>
      match Text.decodeUtf8 bytes with
      | .ok text => return String.ofList (unixLines text.toList)
      | .error fault => throw (.encoding fault)

/-- Creates a directory, and those above it if they are missing. -/
def makeDirectories (p : FilePath) : Work Unit := do
  checkPlace p
  let w ← get
  let start := if p.isAbsolute then [] else w.here
  match w.tree.makeDirectories start p.parts.reverse with
  | .ok tree => set { w with tree := tree }
  | .error (fault, parts) => throw (.file fault ⟨p.start, parts⟩)

/-- Writes a text into a file; directories on the way to it are created. -/
def writeText (p : FilePath) (text : String) : Work Unit := do
  makeDirectories p.parent
  checkPlace p
  let w ← get
  match w.tree.write (w.place p) (Text.encodeUtf8 text) with
  | .ok tree => set { w with tree := tree }
  | .error fault => throw (.file fault p)

/-- Asks for a remote document.  Only a status of success brings its body. -/
def fetch (url : String) : Work (List UInt8) := do
  modify fun w => { w with requests := url :: w.requests }
  match (← get).remote.lookup url with
  | some (status, body) =>
      if 200 ≤ status ∧ status < 300 then return body else throw (.source (.download url))
  | none => throw (.source (.download url))

/-- Gives a warning. -/
def warn (text : String) : Work Unit :=
  modify fun w => { w with warnings := text :: w.warnings }

/-- The result of a pure computation. -/
def ofExcept {α ε : Type} (failure : ε → Failure) : Except ε α → Work α
  | .ok a => return a
  | .error e => throw (failure e)

end Work

end DocQuery
