/-
Module: DocQuery.Command.Arguments
Purpose: Telling the options on a command line from the other words.
Main exports: OptionForm, Arguments, Arguments.read, Arguments.last?, Arguments.all, Arguments.has
-/
import DocQuery.Text.Split

namespace DocQuery

/-- How an option is written: its long name, perhaps a short one, and whether a value follows. -/
structure OptionForm where
  long : String
  short : Option Char
  takesValue : Bool
deriving DecidableEq, Repr, Inhabited

/-- What was written on a command line: options by their long names, with their values, and the
other words, both in order. -/
structure Arguments where
  options : List (String × Option String)
  words : List String
deriving DecidableEq, Repr, Inhabited

namespace Arguments

/-- No options and the given words. -/
def ofWords (words : List String) : Arguments :=
  ⟨[], words⟩

/-- Adds options in front. -/
def withOptions (options : List (String × Option String)) (a : Arguments) : Arguments :=
  { a with options := options ++ a.options }

/-- Adds a word in front. -/
def withWord (word : String) (a : Arguments) : Arguments :=
  { a with words := word :: a.words }

/-! ### One argument -/

/-- What an argument that starts with a dash says: options that are complete, and the name of one
whose value is the next argument. -/
structure Switches where
  complete : List (String × Option String)
  waiting : Option String
deriving DecidableEq, Repr, Inhabited

/-- Short options in one argument.  One with a value takes the rest of the argument for it, or the
next argument if there is no rest. -/
def readShort (forms : List OptionForm) : List Char → Option Switches
  | [] => some ⟨[], none⟩
  | c :: cs =>
      match forms.find? fun form => form.short = some c with
      | none => none
      | some form =>
          if form.takesValue then
            if cs.isEmpty then some ⟨[], some form.long⟩
            else some ⟨[(form.long, some (String.ofList cs))], none⟩
          else
            (readShort forms cs).map fun s => { s with complete := (form.long, none) :: s.complete }

/-- A long option, perhaps with a value behind an equals sign. -/
def readLong (forms : List OptionForm) (text : String) : Option Switches :=
  let (name, value) := Text.cutText '=' text
  match forms.find? fun form => form.long = name with
  | none => none
  | some form =>
      match form.takesValue, value with
      | true, some value => some ⟨[(name, some value)], none⟩
      | true, none => some ⟨[], some name⟩
      | false, some _ => none
      | false, none => some ⟨[(name, none)], none⟩

/-- An argument that starts with a dash. -/
def readSwitches (forms : List OptionForm) (arg : List Char) : Option Switches :=
  match arg with
  | '-' :: '-' :: name => readLong forms (String.ofList name)
  | '-' :: letters => readShort forms letters
  | _ => none

/-- An argument that is read as options: a dash with something behind it. -/
def isSwitch (arg : List Char) : Bool :=
  match arg with
  | '-' :: _ :: _ => true
  | _ => false

/-! ### Command lines -/

/-- Reads a command line; there is no reading if an option is unknown or lacks its value.  Two
dashes end the options.  Unless `anywhere` holds, so does the first other word. -/
def read (forms : List OptionForm) (anywhere : Bool) : List String → Option Arguments
  | [] => some (ofWords [])
  | arg :: args =>
      if arg = "--" then some (ofWords args)
      else if isSwitch arg.toList then
        match readSwitches forms arg.toList with
        | none => none
        | some ⟨complete, none⟩ => (read forms anywhere args).map (withOptions complete)
        | some ⟨complete, some name⟩ =>
            match args with
            | [] => none
            | value :: args =>
                (read forms anywhere args).map (withOptions (complete ++ [(name, some value)]))
      else if anywhere then (read forms anywhere args).map (withWord arg)
      else some (ofWords (arg :: args))

/-! ### Looking options up -/

/-- All values of an option in order. -/
def all (a : Arguments) (name : String) : List String :=
  a.options.filterMap fun (given, value) => if given = name then value else none

/-- The value of an option; the last one given counts. -/
def last? (a : Arguments) (name : String) : Option String :=
  (a.all name).getLast?

/-- An option was given. -/
def has (a : Arguments) (name : String) : Bool :=
  a.options.any fun option => option.1 == name

end Arguments

end DocQuery
