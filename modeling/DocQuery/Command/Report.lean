/-
Module: DocQuery.Command.Report
Purpose: What a command leaves behind: what it printed and how it ended.
Main exports: Note, Note.line, Ending, Ending.status, Transcript, Transcript.empty, Report
-/
import DocQuery.Format.Basic
import DocQuery.Text.ControlSequence

namespace DocQuery

/-- What is told beside the result. -/
inductive Note where
  | failed (e : Failure)
  | noQuery
  | noClipboard
  | written (path : String) (format : OutputFormat)
  | copied
  | timed (rows : Nat)
deriving Repr, Inhabited

/-- The line of a failure. -/
def Failure.line (e : Failure) : String :=
  "Error: " ++ (if e.isMissingFile then "File not found - " else "") ++ e.message

/-- A note in words; `seconds` is the time that the command has taken. -/
def Note.text (seconds : String) : Note → String
  | .failed e => e.line
  | .noQuery => "Error: Provide a SQL query or --sql-file"
  | .noClipboard =>
      "Error: Clipboard output requires pyperclip. Install `jsonsql[clipboard]`"
  | .written path format => "Results written to " ++ path ++ " (" ++ format.name ++ " format)"
  | .copied => "Output copied to clipboard"
  | .timed rows => "Processed " ++ countText rows "row" "rows" ++ " in " ++ seconds ++ "s"

/-- The line of a note. -/
def Note.line (seconds : String) (n : Note) : String :=
  Text.withoutControlSequences (n.text seconds)

/-- How a command ends.  A failure may be let out of the program. -/
inductive Ending where
  | success
  | failed (e : Failure) (letOut : Bool)
  | noClipboard
  | usage
deriving Repr, Inhabited

/-- The exit status of an ending. -/
def Ending.status : Ending → Nat
  | .success => 0
  | .failed .. | .noClipboard => 1
  | .usage => 2

/-- The failure that is let out of the program. -/
def Ending.letOut? : Ending → Option Failure
  | .failed e true => some e
  | _ => none

/-- What a command has put out so far: printed texts, notes, and texts on the clipboard. -/
structure Transcript where
  printed : List String
  notes : List Note
  copied : List String
deriving Repr, Inhabited

/-- Nothing has been put out yet. -/
def Transcript.empty : Transcript := ⟨[], [], []⟩

/-- What a command leaves behind. -/
structure Report where
  ending : Ending
  transcript : Transcript
deriving Repr, Inhabited

end DocQuery
