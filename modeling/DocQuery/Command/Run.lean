/-
Module: DocQuery.Command.Run
Purpose: Carrying out commands.
Main exports: Console, Settings.perform, Request.perform, runCommandLine
-/
import DocQuery.Command.Report
import DocQuery.Command.Request
import DocQuery.QueryResult
import DocQuery.StoreFile

namespace DocQuery

/-- A command at work.  It ends early by throwing its ending. -/
abbrev Console := ExceptT Ending (StateT Transcript (StateM Workspace))

namespace Console

/-- Prints a text without control sequences and ends its line. -/
def say (text : String) : Console Unit :=
  modify fun t => { t with printed := t.printed ++ [Text.withoutControlSequences text] }

/-- Prints several lines. -/
def sayAll (lines : List String) : Console Unit :=
  lines.forM say

/-- Tells something beside the result. -/
def note (n : Note) : Console Unit :=
  modify fun t => { t with notes := t.notes ++ [n] }

/-- A computation on the workspace; its failure ends the command. -/
def work {α : Type} (w : Work α) : Console α := do
  match ← ExceptT.lift (StateT.lift w.run) with
  | .ok a => return a
  | .error e => throw (.failed e false)

/-- The result of a pure computation; its error ends the command. -/
def settle {α : Type} : Except Failure α → Console α
  | .ok a => return a
  | .error e => throw (.failed e false)

/-- Reports the failure of a command, and lets it out of the program on demand. -/
def reporting (debug : Bool) (command : Console Unit) : Console Unit :=
  tryCatch command fun
    | .failed e _ => do
        note (.failed e)
        throw (.failed e debug)
    | ending => throw ending

end Console

open Console

/-! ### Queries -/

/-- Rows in the format that was asked for.  The rows of a table are counted where it is read at
once. -/
def OutputOptions.render (options : OutputOptions) (width : Nat) (rows : List Row) : String :=
  match options.format with
  | .json => jsonRows (if options.pretty then some prettyIndent else none) rows
  | .table =>
      tableText ⟨width, defaultMaxColumn, options.output.isNone && !options.clipboard⟩ rows

/-- Copies a text to the clipboard. -/
def copy (env : Environment) (text : String) : Console Unit := do
  unless env.clipboard do
    note .noClipboard
    throw .noClipboard
  modify fun t => { t with copied := t.copied ++ [text] }
  note .copied

/-- Brings a text to where the options say. -/
def OutputOptions.deliver (options : OutputOptions) (env : Environment) (text : String) :
    Console Unit := do
  if let some path := options.output then
    work (Work.writeText (.ofText path) (text ++ "\n"))
    note (.written path options.format)
  if options.clipboard then
    copy env text
  if options.output.isNone && !options.clipboard then
    say text

/-- Runs a query text. -/
def Settings.runQuery (settings : Settings) (env : Environment) (options : OutputOptions)
    (sql : String) : Console Unit := do
  let mappings ← work (StoreFile.openMappings settings.mappings)
  let params ← settle ((Parameters.ofOptions options.params).mapError .parameter)
  let result ← settle (QueryResult.ofText ⟨settings.directory, mappings.store⟩ params sql)
  if options.explain then
    sayAll (← work (result.look QueryResult.explain))
  else
    let rows ← work (result.look QueryResult.rows)
    options.deliver env (options.render env.width rows)
    if options.time then
      note (.timed rows.length)

/-! ### Stores -/

/-- Changes a store and writes its file. -/
def changeStore (f : StoreFile) (edit : Store → Except StoreFault Store) : Console Unit := do
  let (_, written) ← ExceptT.lift (StateT.lift (f.change edit))
  settle written

/-- The parameters of a query, if it has any. -/
def parameterLine? (label sql : String) : Option String :=
  if Parameters.present sql then some (label ++ ", ".intercalate (Parameters.names sql)) else none

/-- The lines that list mappings, their tables padded to one length. -/
def mappingLines (mappings : Store) : List String :=
  if mappings.isEmpty then
    ["No mappings configured.", "Add a mapping using: jsonsql add-mapping <alias> <mapping>"]
  else
    let width := (mappings.map fun entry => entry.1.length).foldl max 0
    let line (table mapping : String) : String :=
      "  " ++ table ++ String.ofList (List.replicate (width - table.length) ' ') ++ "  ->  "
        ++ mapping
    ["Configured table mappings:"] ++ mappings.map (fun (table, mapping) => line table mapping)
      ++ ["Total: " ++ toString mappings.length ++ " mapping(s)"]

/-- The lines that list saved queries. -/
def queryLines (queries : Store) : List String :=
  if queries.isEmpty then
    ["No saved queries.", "Save one using: jsonsql save-query <name> <sql>"]
  else
    ["Saved queries:"]
      ++ queries.flatMap (fun (name, sql) =>
        ("  " ++ name ++ ": " ++ sql) :: (parameterLine? "    parameters: " sql).toList)
      ++ ["Total: " ++ countText queries.length "query" "queries"]

/-! ### Commands -/

/-- The text of a query in a file, without white space around it. -/
def queryInFile (path : String) : Console String := do
  match ← ExceptT.lift (StateT.lift (Work.readText (.ofText path)).run) with
  | .ok text => return Text.trimText text
  | .error e => throw (.failed e true)

/-- The query text of a command: that of a file, or else the one on the command line. -/
def queryText (sql file : Option String) : Console String := do
  match file, sql.filter (· ≠ "") with
  | some path, _ => queryInFile path
  | none, some sql => return sql
  | none, none =>
      note .noQuery
      throw .usage

/-- Carries out a command. -/
def Settings.perform (settings : Settings) (env : Environment) (command : Command) :
    Console Unit := do
  let report := reporting settings.debug
  let mappings := work (StoreFile.openMappings settings.mappings)
  let queries := work (StoreFile.openQueries settings.queries)
  match command with
  | .query sql file options =>
      let sql ← queryText sql file
      report (settings.runQuery env options sql)
  | .tables => report do
      sayAll (mappingLines (MappingStore.sorted (← mappings).store))
  | .addMapping aliasName mapping => report do
      changeStore (← mappings) (MappingStore.add · aliasName mapping)
      say ("Added mapping: " ++ aliasName ++ " -> " ++ mapping)
  | .removeMapping aliasName => report do
      changeStore (← mappings) (MappingStore.remove · aliasName)
      say ("Removed mapping: " ++ aliasName)
  | .saveQuery name sql => report do
      changeStore (← queries) (QueryStore.save · name sql)
      say ("Saved query '" ++ name ++ "'")
      sayAll (parameterLine? "Parameters: " sql).toList
  | .runQuery name options => report do
      match Keyed.get? name (← queries).store with
      | some sql => settings.runQuery env options sql
      | none => throw (.failed (.store (.noQuery name)) false)
  | .listQueries => report do
      sayAll (queryLines (← queries).store)
  | .deleteQuery name => report do
      changeStore (← queries) (QueryStore.delete · name)
      say ("Deleted query '" ++ name ++ "'")

/-- The answer to the question which program this is. -/
def versionLine : String := "jsonsql, version 0.1.0"

/-- How the program is called. -/
def usageLine : String := "Usage: jsonsql [OPTIONS] COMMAND [ARGS]..."

/-- The answer to a question about the use of the program. -/
def helpLines : List String :=
  [usageLine, "", "Commands:", "  query", "  tables",
    "  add-mapping", "  remove-mapping", "  save-query", "  run-query", "  list-queries",
    "  delete-query"]

/-- Carries out what a command line asks for. -/
def Request.perform (env : Environment) : Request → Console Unit
  | .version => say versionLine
  | .help => sayAll helpLines
  | .execute settings command => settings.perform env command

/-- Reads a command line and carries it out. -/
def runCommandLine (env : Environment) (args : List String) : StateM Workspace Report := do
  match ← (Request.read env args).run with
  | .error ending => return ⟨ending, .empty⟩
  | .ok request =>
      let (outcome, transcript) ← (request.perform env).run.run .empty
      match outcome with
      | .ok () => return ⟨.success, transcript⟩
      | .error ending => return ⟨ending, transcript⟩

end DocQuery
