/-
Module: DocQuery.RecordPath
Purpose: Path expressions, which say where in a document the records of a table are.
Main exports: PathStep, RecordPath.parse, RecordPath.walk, RecordPath.evaluate, RecordPath.records
-/
import DocQuery.Keyed
import DocQuery.Text.Blank
import DocQuery.Text.Digit
import DocQuery.Value.Inspect

namespace DocQuery

/-- A step from a value to values inside it. -/
inductive PathStep where
  | key (name : String)
  | index (position : Nat)
  | wildcard
deriving DecidableEq, Repr, Inhabited

/-- Why a text is no path expression. -/
inductive PathError where
  | noRoot (expression : String)
  | badStep (expression : String) (position : Nat)
deriving DecidableEq, Repr, Inhabited

/-- A fault of a path expression in words. -/
def PathError.message : PathError → String
  | .noRoot expression => "Path expression must start with '$': " ++ quoted expression
  | .badStep expression position =>
      "Invalid path expression " ++ quoted expression ++ " at character " ++ toString position

namespace RecordPath

/-! ### Reading

A step starts with a point or a bracket and takes as much as it can; what no step can take is where
the expression is wrong. -/

/-- The characters that a name behind a point may have. -/
def isKeyChar (c : Char) : Bool :=
  c ≠ '.' && c ≠ '[' && c ≠ ']'

/-- A name behind a point; the asterisk is no name but a wildcard. -/
def keyStep (name : List Char) : PathStep :=
  if name = ['*'] then .wildcard else .key (String.ofList name)

/-- What follows an opening bracket: an index, a quoted name, or a wildcard. -/
def readBracket (cs : List Char) : Option (PathStep × List Char) :=
  match cs with
  | ']' :: rest => some (.wildcard, rest)
  | '*' :: ']' :: rest => some (.wildcard, rest)
  | '\'' :: rest =>
      match rest.dropWhile (· ≠ '\'') with
      | '\'' :: ']' :: rest' => some (.key (String.ofList (rest.takeWhile (· ≠ '\''))), rest')
      | _ => none
  | cs =>
      match cs.takeWhile Text.isDecimalDigit, cs.dropWhile Text.isDecimalDigit with
      | d :: digits, ']' :: rest => some (.index (Text.natOfDigits (d :: digits)), rest)
      | _, _ => none

/-- The step at the start of a text. -/
def readStep : List Char → Option (PathStep × List Char)
  | '.' :: cs =>
      match cs.takeWhile isKeyChar with
      | [] => none
      | name => some (keyStep name, cs.dropWhile isKeyChar)
  | '[' :: cs => readBracket cs
  | _ => none

theorem length_lt_of_readBracket {cs : List Char} {s : PathStep} {rest : List Char}
    (h : readBracket cs = some (s, rest)) : rest.length < cs.length := by
  unfold readBracket at h
  split at h
  · obtain ⟨-, rfl⟩ := Prod.mk.inj (Option.some.inj h)
    simp
  · obtain ⟨-, rfl⟩ := Prod.mk.inj (Option.some.inj h)
    simp only [List.length_cons]
    omega
  · rename_i r
    have hle := (List.dropWhile_sublist (· ≠ '\'') (l := r)).length_le
    split at h
    · rename_i r' hr
      obtain ⟨-, rfl⟩ := Prod.mk.inj (Option.some.inj h)
      simp only [hr, List.length_cons] at hle ⊢
      omega
    · simp at h
  · have hle := (List.dropWhile_sublist Text.isDecimalDigit (l := cs)).length_le
    split at h
    · rename_i r _ hr
      obtain ⟨-, rfl⟩ := Prod.mk.inj (Option.some.inj h)
      simp only [hr, List.length_cons] at hle
      omega
    · simp at h

theorem length_lt_of_readStep {cs : List Char} {s : PathStep} {rest : List Char}
    (h : readStep cs = some (s, rest)) : rest.length < cs.length := by
  unfold readStep at h
  split at h
  · rename_i r
    split at h
    · simp at h
    · obtain ⟨-, rfl⟩ := Prod.mk.inj (Option.some.inj h)
      exact Nat.lt_succ_of_le (List.dropWhile_sublist _).length_le
  · exact Nat.lt_succ_of_lt (length_lt_of_readBracket h)
  · simp at h

/-- The steps of a text, or the number of characters left where no step starts. -/
def readSteps (cs : List Char) : Except Nat (List PathStep) :=
  match cs with
  | [] => .ok []
  | c :: more =>
      match h : readStep (c :: more) with
      | none => .error (more.length + 1)
      | some (s, rest) => (readSteps rest).map (s :: ·)
termination_by cs.length
decreasing_by exact length_lt_of_readStep h

/-- The steps of a path expression.  It starts at the root, which is written `$`; white space
around it does not count. -/
def parse (expression : String) : Except PathError (List PathStep) :=
  match Text.trimBlank expression.toList with
  | '$' :: cs =>
      match readSteps cs with
      | .ok steps => .ok steps
      | .error left => .error (.badStep expression (1 + cs.length - left))
  | _ => .error (.noRoot expression)

/-! ### Following

A path is followed from all values at once, so that a wildcard needs no recursion of its own. -/

/-- The values that a step leads to. -/
def follow (s : PathStep) (v : Value) : List Value :=
  match s, v with
  | .key name, .object fields => (Keyed.get? name fields).toList
  | .index i, .array items => items[i]?.toList
  | .wildcard, .array items => items
  | .wildcard, .object fields => fields.map Prod.snd
  | _, _ => []

/-- What was missing when a step leads nowhere; a wildcard misses nothing in particular. -/
def missing? : PathStep → Option String
  | .key name => some name
  | .index i => some ("[" ++ toString i ++ "]")
  | .wildcard => none

/-- Follows steps from several values at once.  When a step leads nowhere from all of them, what it
missed is the result. -/
def walk : List PathStep → List Value → Except (Option String) (List Value)
  | [], nodes => .ok nodes
  | s :: steps, nodes =>
      match nodes.flatMap (follow s) with
      | [] => .error (missing? s)
      | next => walk steps next

/-- The items of an array; any other value is its own only item. -/
def itemsOf : Value → List Value
  | .array items => items
  | v => [v]

/-- A path that fans out over several values. -/
def fansOut (steps : List PathStep) : Bool :=
  steps.contains .wildcard

/-- The values at the end of a path.  Those that a path with a wildcard leads to are gathered into
one array, the arrays among them item by item. -/
def evaluate (steps : List PathStep) (document : Value) : Except (Option String) (List Value) :=
  match walk steps [document] with
  | .error missing => .error missing
  | .ok nodes =>
      if fansOut steps then .ok [.array (nodes.flatMap itemsOf)] else .ok nodes

/-! ### Records

Only objects are rows.  Other values are counted for the warning and left out. -/

/-- What a reader of records should be told. -/
inductive PathWarning where
  | nothingFound (expression source missing : String)
  | skipped (count : Nat) (expression source : String)
deriving DecidableEq, Repr, Inhabited

/-- A warning in words. -/
def PathWarning.message : PathWarning → String
  | .nothingFound expression source missing =>
      "Path '" ++ expression ++ "' matched nothing in " ++ source ++ ": '" ++ missing
        ++ "' not found"
  | .skipped count expression source =>
      "Skipped " ++ toString count ++ " non-object value" ++ (if count = 1 then "" else "s")
        ++ " at '" ++ expression ++ "' in " ++ source

/-- The fields of an object. -/
def rowOf? : Value → Option (Keyed Value)
  | .object fields => some fields
  | _ => none

/-- The objects among the values at the end of a path, and a warning if there are none or if others
were left out.  `expression` and `source` are for the warning. -/
def recordsAt (steps : List PathStep) (document : Value) (expression source : String) :
    List (Keyed Value) × Option PathWarning :=
  match evaluate steps document with
  | .error missing => ([], missing.map (.nothingFound expression source))
  | .ok nodes =>
      let candidates := (nodes.head?.map itemsOf).getD []
      let rows := candidates.filterMap rowOf?
      let skipped := candidates.length - rows.length
      (rows, if skipped = 0 then none else some (.skipped skipped expression source))

/-- The records of a document at a path expression. -/
def records (document : Value) (expression source : String) :
    Except PathError (List (Keyed Value) × Option PathWarning) :=
  (parse expression).map fun steps => recordsAt steps document expression source

end RecordPath

end DocQuery
