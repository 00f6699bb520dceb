/-
Module: DocQuery.Command.Request
Purpose: What a command line asks for.
Main exports: Environment, Settings, OutputOptions, Command, Request, Request.Reader,
  Request.read
-/
import DocQuery.Command.Arguments
import DocQuery.Command.Report
import DocQuery.Source.Workspace

namespace DocQuery

/-- What surrounds a command: the values of variables, the columns of the terminal, and whether
there is a clipboard. -/
structure Environment where
  values : List (String × String)
  width : Nat
  clipboard : Bool
deriving Repr, Inhabited

/-- What all commands share: where tables, mappings and saved queries are, and whether failures are
let out of the program. -/
structure Settings where
  directory : FilePath
  mappings : FilePath
  queries : FilePath
  debug : Bool
deriving Repr, Inhabited

/-- How a query is run and where its result goes. -/
structure OutputOptions where
  params : List String
  format : OutputFormat
  pretty : Bool
  output : Option String
  clipboard : Bool
  explain : Bool
  time : Bool
deriving Repr, Inhabited

/-- The commands. -/
inductive Command where
  | query (sql file : Option String) (options : OutputOptions)
  | tables
  | addMapping (aliasName mapping : String)
  | removeMapping (aliasName : String)
  | saveQuery (name sql : String)
  | runQuery (name : String) (options : OutputOptions)
  | listQueries
  | deleteQuery (name : String)
deriving Repr, Inhabited

/-- What a command line asks for. -/
inductive Request where
  | version
  | help
  | execute (settings : Settings) (command : Command)
deriving Repr, Inhabited

namespace Request

/-- A reading of a command line, which may look at files.  If the command line is wrong, it ends the
program. -/
abbrev Reader := ExceptT Ending (StateM Workspace)

/-- What was read, if it could be read. -/
def orUsage {α : Type} : Option α → Reader α
  | some a => return a
  | none => throw .usage

/-! ### Paths -/

/-- A text that only a directory can have as its path. -/
def asksForDirectory (text : String) : Bool :=
  match text.toList.reverse with
  | '/' :: _ => true
  | '.' :: '/' :: _ => true
  | _ => false

/-- What is at the path of a text; at the empty path there is nothing.  A null byte is no fault of
use: it is let out of the program. -/
def whatIsAt (text : String) : Reader (Option FileTree) := do
  if text = "" then return none
  let path := FilePath.ofText text
  match ← ExceptT.lift (Workspace.lookUp path) with
  | .ok tree => return if tree.isFile && asksForDirectory text then none else some tree
  | .error .nullByte => throw (.failed (.file .nullByte path) true)
  | .error _ => return none

/-- A directory may be at the path of a text, but no file. -/
def checkDirectory (text : String) : Reader Unit := do
  if (← whatIsAt text).any FileTree.isFile then throw .usage

/-- A file may be at the path of a text, but no directory. -/
def checkFile (text : String) : Reader Unit := do
  if (← whatIsAt text).any (!·.isFile) then throw .usage

/-- A file must be at the path of a text. -/
def checkExistingFile (text : String) : Reader Unit := do
  unless (← whatIsAt text).any FileTree.isFile do throw .usage

/-! ### Options -/

/-- An option of every command line. -/
def helpForm : OptionForm := ⟨"help", none, false⟩

/-- The options in front of the command. -/
def settingForms : List OptionForm :=
  [⟨"data-dir", some 'd', true⟩, ⟨"config", some 'c', true⟩, ⟨"queries-file", none, true⟩,
    ⟨"debug", none, false⟩, ⟨"version", none, false⟩, helpForm]

/-- The options of the commands that run a query. -/
def outputForms : List OptionForm :=
  [⟨"param", some 'p', true⟩, ⟨"format", some 'f', true⟩, ⟨"pretty", none, false⟩,
    ⟨"output", some 'o', true⟩, ⟨"clipboard", none, false⟩, ⟨"explain", none, false⟩,
    ⟨"time", some 't', false⟩, helpForm]

/-- The option for a query in a file. -/
def fileForm : OptionForm := ⟨"sql-file", some 'q', true⟩

/-- The value of a setting: that of the option, or that of a variable if it is not empty, or the
usual one. -/
def settingValue (env : Environment) (a : Arguments) (option varName usual : String) : String :=
  match a.last? option, env.values.lookup varName with
  | some value, _ => value
  | none, some value => if value = "" then usual else value
  | none, none => usual

/-- Carries out the checks of options.  Options that were given come first, each where it was given
first. -/
def checkInOrder (a : Arguments) (checks : List (String × Reader Unit)) : Reader Unit :=
  let place (option : String) : Nat := (a.options.map (·.1)).idxOf option
  (checks.mergeSort fun x y => decide (place x.1 ≤ place y.1)).forM (·.2)

/-- Reads the settings. -/
def readSettings (env : Environment) (a : Arguments) : Reader Settings := do
  let directory := settingValue env a "data-dir" "JSONSQL_DATA_DIR" "."
  let mappings := settingValue env a "config" "JSONSQL_CONFIG" ".jsonsql-mappings.json"
  let queries := settingValue env a "queries-file" "JSONSQL_QUERIES" ".jsonsql-queries.json"
  checkInOrder a [("data-dir", checkDirectory directory), ("config", checkFile mappings),
    ("queries-file", checkFile queries)]
  return ⟨.ofText directory, .ofText mappings, .ofText queries, a.has "debug"⟩

/-- The format of a name in any case. -/
def formatOf? (name : String) : Option OutputFormat :=
  [OutputFormat.json, .table].find? fun f => Text.capitals f.name = Text.capitals name

/-- The format that is asked for. -/
def outputFormat? (a : Arguments) : Option OutputFormat :=
  match a.last? "format" with
  | none => some .json
  | some name => formatOf? name

/-- Reads the options of a command that runs a query.  One of them may name a file that holds it. -/
def readOutputOptions (a : Arguments) : Reader OutputOptions := do
  checkInOrder a [("sql-file", (a.last? "sql-file").forM checkExistingFile),
    ("format", (orUsage (outputFormat? a)).map fun _ => ()),
    ("output", (a.last? "output").forM checkFile)]
  let output := (a.last? "output").filter (· ≠ "")
  return ⟨a.all "param", ← orUsage (outputFormat? a), a.has "pretty", output, a.has "clipboard",
    a.has "explain", a.has "time"⟩

/-! ### Commands -/

/-- The options that a command knows. -/
def formsOf : String → Option (List OptionForm)
  | "query" => some (fileForm :: outputForms)
  | "run-query" => some outputForms
  | "tables" | "add-mapping" | "remove-mapping" | "save-query" | "list-queries" | "delete-query" =>
      some [helpForm]
  | _ => none

/-- A command by its name, with its options and exactly the words it needs. -/
def readCommand (name : String) (a : Arguments) : Reader Command := do
  match name with
  | "query" =>
      let options ← readOutputOptions a
      if a.words.length > 1 then throw .usage
      return .query a.words.head? (a.last? "sql-file") options
  | "run-query" =>
      let options ← readOutputOptions a
      match a.words with
      | [query] => return .runQuery query options
      | _ => throw .usage
  | _ =>
      match name, a.words with
      | "tables", [] => return .tables
      | "add-mapping", [aliasName, mapping] => return .addMapping aliasName mapping
      | "remove-mapping", [aliasName] => return .removeMapping aliasName
      | "save-query", [query, sql] => return .saveQuery query sql
      | "list-queries", [] => return .listQueries
      | "delete-query", [query] => return .deleteQuery query
      | _, _ => throw .usage

/-- A question that is answered before anything else is looked at; the first one counts. -/
def question? (a : Arguments) : Option Request :=
  a.options.findSome? fun (name, _) =>
    match name with
    | "version" => some version
    | "help" => some help
    | _ => none

/-- The answer to a command line whose command is unknown.  If it looks like an option, what follows
the settings is read as settings once more, and a question among these is answered. -/
def readUnknown (env : Environment) (words : List String) : Reader Request := do
  let again ← orUsage (Arguments.read settingForms false words)
  if let some question := question? again then
    return question
  let _ ← readSettings env again
  throw .usage

/-- Reads a command line: settings, a command, and what belongs to the command. -/
def read (env : Environment) (args : List String) : Reader Request := do
  let front ← orUsage (Arguments.read settingForms false args)
  if let some question := question? front then
    return question
  let settings ← readSettings env front
  match front.words with
  | [] => throw .usage
  | name :: words =>
      match formsOf name with
      | none => readUnknown env (name :: words)
      | some forms =>
          let back ← orUsage (Arguments.read forms true words)
          if let some question := question? back then
            return question
          return .execute settings (← readCommand name back)

end Request

end DocQuery
