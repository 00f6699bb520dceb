/-
Module: DocQuery.Source.FilePath
Purpose: Paths of files, without the parts that do not matter.
Main exports: PathStart, FilePath, FilePath.ofText, FilePath.text, FilePath.join, fileSuffix
-/
import DocQuery.Text.Split

namespace DocQuery

/-- Where a path starts.  A path that begins with exactly two slashes starts at a root of its own,
which is that of a path with one slash under another name. -/
inductive PathStart where
  | here
  | root
  | otherRoot
deriving DecidableEq, Repr, Inhabited

namespace PathStart

/-- How the start of a path is written. -/
def text : PathStart → String
  | .here => ""
  | .root => "/"
  | .otherRoot => "//"

/-- Where the path of a text starts. -/
def ofText (text : String) : PathStart :=
  match (text.toList.takeWhile (· = '/')).length with
  | 0 => .here
  | 2 => .otherRoot
  | _ => .root

end PathStart

/-- A path from the root or from the working directory.  Empty parts and single points are left
out. -/
structure FilePath where
  start : PathStart
  parts : List String
deriving DecidableEq, Repr, Inhabited

namespace FilePath

/-- Reads a path. -/
def ofText (text : String) : FilePath :=
  ⟨.ofText text, (Text.partsText '/' text).filter fun part => part ≠ "" && part ≠ "."⟩

/-- A path that does not start at the working directory. -/
def isAbsolute (p : FilePath) : Bool :=
  p.start ≠ .here

/-- A path as text; the working directory is a single point. -/
def text (p : FilePath) : String :=
  let text := p.start.text ++ "/".intercalate p.parts
  if text = "" then "." else text

/-- A path that starts in a directory, unless it starts at the root. -/
def join (directory path : FilePath) : FilePath :=
  if path.isAbsolute then path else ⟨directory.start, directory.parts ++ path.parts⟩

/-- The directory that a path lies in. -/
def parent (p : FilePath) : FilePath :=
  ⟨p.start, p.parts.dropLast⟩

/-- A file in a directory. -/
def child (directory : FilePath) (name : String) : FilePath :=
  ⟨directory.start, directory.parts ++ [name]⟩

end FilePath

/-- The last point of a file name and what follows it.  A point at either end of the name starts no
suffix. -/
def fileSuffix (name : String) : String :=
  let reversed := name.toList.reverse
  match reversed.takeWhile (· ≠ '.'), reversed.dropWhile (· ≠ '.') with
  | _ :: _, '.' :: [] => ""
  | c :: cs, '.' :: _ => String.ofList ('.' :: (c :: cs).reverse)
  | _, _ => ""

end DocQuery
