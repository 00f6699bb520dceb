/-
Module: DocQuery.Source.FileTree
Purpose: Files and directories.
Main exports: FileTree, FileFault, FileTree.locate, FileTree.find?, FileTree.write,
  FileTree.makeDirectories
-/
import DocQuery.Keyed
import DocQuery.Source.FilePath
import DocQuery.Value.Inspect

namespace DocQuery

/-- A file with its bytes, or a directory with its entries. -/
inductive FileTree where
  | file (bytes : List UInt8)
  | directory (entries : List (String × FileTree))
deriving Repr, Inhabited

/-- What an operation on files may run into. -/
inductive FileFault where
  | notFound
  | isDirectory
  | notDirectory
  | exists
  | nameTooLong
  | nullByte
deriving DecidableEq, Repr, Inhabited

/-- A fault of a file in words. -/
def FileFault.message (fault : FileFault) (path : FilePath) : String :=
  let withPath (words : String) : String := words ++ ": " ++ quoted path.text
  match fault with
  | .notFound => withPath "[Errno 2] No such file or directory"
  | .isDirectory => withPath "[Errno 21] Is a directory"
  | .notDirectory => withPath "[Errno 20] Not a directory"
  | .exists => withPath "[Errno 17] File exists"
  | .nameTooLong => withPath "[Errno 36] File name too long"
  | .nullByte => "embedded null byte"

namespace FileTree

/-- A directory without entries. -/
def empty : FileTree := .directory []

/-- A file, not a directory. -/
def isFile : FileTree → Bool
  | .file _ => true
  | .directory _ => false

/-- The most bytes that the name of a file or directory may have. -/
def maxNameBytes : Nat := 255

/-- Follows the parts of a path from a place in the tree; `above` holds the directories above it,
the nearest one first.  Only a directory can be passed through, and above the root is the root. -/
def walk (above : List FileTree) (place : FileTree) : List String → Except FileFault FileTree
  | [] => .ok place
  | part :: parts =>
      match place with
      | .file _ => .error .notDirectory
      | .directory entries =>
          if part = ".." then
            match above with
            | [] => walk [] place parts
            | parent :: rest => walk rest parent parts
          else if part.utf8ByteSize > maxNameBytes then .error .nameTooLong
          else
            match entries.lookup part with
            | none => .error .notFound
            | some next => walk (place :: above) next parts

/-- What a path leads to, or what stands in the way. -/
def locate (tree : FileTree) (parts : List String) : Except FileFault FileTree :=
  walk [] tree parts

/-- What a path leads to. -/
def find? (tree : FileTree) (parts : List String) : Option FileTree :=
  (tree.locate parts).toOption

/-- The parts of a path without the steps back to a parent directory. -/
def straighten (parts : List String) : List String :=
  (parts.foldl (fun done part => if part = ".." then done.drop 1 else part :: done) []).reverse

/-- Puts a file or directory into its place.  There is no place below a file. -/
def put (thing : FileTree) : List String → FileTree → Except FileFault FileTree
  | [], _ => .ok thing
  | part :: parts, place =>
      match place with
      | .file _ => .error .notDirectory
      | .directory entries =>
          (put thing parts ((entries.lookup part).getD empty)).map fun next =>
            .directory (Keyed.put part next entries)

/-- Puts something into a directory that is there. -/
def putInDirectory (thing tree : FileTree) (parts : List String) : Except FileFault FileTree := do
  let _ ← tree.locate parts.dropLast
  put thing (straighten parts) tree

/-- Writes a file into a directory that is there. -/
def write (tree : FileTree) (parts : List String) (bytes : List UInt8) :
    Except FileFault FileTree :=
  match tree.locate parts with
  | .ok (.directory _) => .error .isDirectory
  | .ok (.file _) | .error .notFound => putInDirectory (.file bytes) tree parts
  | .error fault => .error fault

/-- Creates a directory in one that is there. -/
def makeDirectory (tree : FileTree) (parts : List String) : Except FileFault FileTree :=
  match tree.locate parts with
  | .ok _ => .error .exists
  | .error .notFound => putInDirectory empty tree parts
  | .error fault => .error fault

/-- The tree if a directory that could not be created is there all the same. -/
def orIsThere (tree : FileTree) (parts : List String) (fault : FileFault) :
    Except FileFault FileTree :=
  match tree.locate parts with
  | .ok (.directory _) => .ok tree
  | _ => .error fault

/-- Creates the directory at the end of a path from `start`, and those above it if they are missing.
The path is given from its end; a fault comes with the path of the directory that could not be
created. -/
def makeDirectories (tree : FileTree) (start : List String) :
    List String → Except (FileFault × List String) FileTree
  | [] => (tree.orIsThere start .notFound).mapError (·, [])
  | part :: above =>
      let parts := (part :: above).reverse
      let place := start ++ parts
      match tree.makeDirectory place with
      | .ok tree => .ok tree
      | .error .notFound => do
          let tree ← tree.makeDirectories start above
          match tree.makeDirectory place with
          | .ok tree => .ok tree
          | .error fault => (tree.orIsThere place fault).mapError (·, parts)
      | .error fault => (tree.orIsThere place fault).mapError (·, parts)

mutual

/-- All files with their paths. -/
def files (parts : List String) : FileTree → List (List String × List UInt8)
  | .file bytes => [(parts, bytes)]
  | .directory entries => filesOfAll parts entries

/-- The files of several entries of a directory. -/
def filesOfAll (parts : List String) :
    List (String × FileTree) → List (List String × List UInt8)
  | [] => []
  | (name, tree) :: rest => files (parts ++ [name]) tree ++ filesOfAll parts rest

end

end FileTree

end DocQuery
