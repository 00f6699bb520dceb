/-
Module: DocQuery.Main
Purpose: The program: commands on the files of the disk.
Main exports: main
-/
import DocQuery.Command.Run

namespace DocQuery.Program

/-- The text of an absolute path. -/
def pathText (parts : List String) : String :=
  FilePath.text ⟨.root, parts⟩

/-- Puts something into the tree, unless there is something in its place. -/
def fill (tree thing : FileTree) (parts : List String) : FileTree :=
  match tree.find? parts with
  | some _ => tree
  | none => ((FileTree.put thing (FileTree.straighten parts) tree).toOption).getD tree

/-- Takes what is at a path of the disk over into the tree: the bytes of a file, or the names of the
entries of a directory. -/
def takeOver (tree : FileTree) (parts : List String) : IO FileTree := do
  let path := (← IO.currentDir) / pathText parts
  if ← path.isDir then
    let mut tree := fill tree .empty parts
    for entry in ← path.readDir do
      let thing := if ← entry.path.isDir then FileTree.empty else .file []
      tree := fill tree thing (parts ++ [entry.fileName])
    return tree
  else if ← path.pathExists then
    let bytes ← IO.FS.readBinFile path
    return ((FileTree.put (.file bytes.toList) (FileTree.straighten parts) tree).toOption).getD tree
  else
    return tree

/-- Takes over what is on the way to a path and at its end. -/
def takeOverPath (tree : FileTree) (parts : List String) : IO FileTree :=
  (List.range (parts.length + 1)).foldlM (fun tree n => takeOver tree (parts.take n)) tree

/-- Writes the files that are not as they were. -/
def writeChanges (before after : FileTree) : IO Unit := do
  let old := before.files []
  for (parts, bytes) in after.files [] do
    unless old.lookup parts = some bytes do
      IO.FS.createDirAll (pathText parts.dropLast)
      IO.FS.writeBinFile (pathText parts) (ByteArray.mk bytes.toArray)

/-- Runs a command line on the files that have been taken over.  When it looks at other paths,
those are taken over as well and it is run again, until it has seen all it asks for. -/
partial def run (env : Environment) (args : List String) (here : List String) (tree : FileTree)
    (seen : List (List String)) : IO (Report × FileTree × Workspace) := do
  let start : Workspace := ⟨tree, here, [], [], [], []⟩
  let (report, after) := (runCommandLine env args).run start
  let asked := (after.consulted.map start.place).filter fun parts => !seen.contains parts
  match asked with
  | [] => return (report, tree, after)
  | asked =>
      let tree ← asked.foldlM takeOverPath tree
      run env args here tree (asked ++ seen)

/-- Milliseconds as seconds with three decimals. -/
def secondsText (milliseconds : Nat) : String :=
  let digits := toString (1000 + milliseconds % 1000)
  toString (milliseconds / 1000) ++ "." ++ String.ofList (digits.toList.drop 1)

end DocQuery.Program

open DocQuery

/-- Runs the command line.  There is neither a network nor a clipboard. -/
def main (args : List String) : IO UInt32 := do
  let started ← IO.monoMsNow
  let names := ["JSONSQL_DATA_DIR", "JSONSQL_CONFIG", "JSONSQL_QUERIES"]
  let values ← names.filterMapM fun name => do
    return (← IO.getEnv name).map fun value => (name, value)
  let width := ((← IO.getEnv "COLUMNS").bind Text.natOfText?).getD defaultWidth
  let here := (FilePath.ofText (← IO.currentDir).toString).parts
  let (report, before, after) ← Program.run ⟨values, width, false⟩ args here .empty []
  Program.writeChanges before after.tree
  for text in report.transcript.printed do
    IO.println text
  for text in after.warnings.reverse do
    IO.eprintln ("Warning: " ++ text)
  let seconds := Program.secondsText ((← IO.monoMsNow) - started)
  for note in report.transcript.notes do
    IO.eprintln (note.line seconds)
  if report.ending.status = 2 then
    IO.eprintln usageLine
  return report.ending.status.toUInt32
