/-
Module: DocQuery.Parameters
Purpose: Placeholders in query text and the values that replace them.
Main exports: Piece, Parameters.pieces, Parameters.replace, Parameters.names, Parameters.present,
  Parameters.ofOptions
-/
import DocQuery.Keyed
import DocQuery.Text.Blank
import DocQuery.Text.Split

namespace DocQuery

/-- Why placeholders cannot be replaced. -/
inductive ParameterError where
  | missing (names : List String)
  | badOption (option : String)
deriving DecidableEq, Repr, Inhabited

/-- A fault of parameters in words. -/
def ParameterError.message : ParameterError → String
  | .missing names =>
      "Missing required parameters: " ++ ", ".intercalate names
        ++ ". Use --param <name>=<value> to provide values."
  | .badOption option => "Invalid parameter '" ++ option ++ "'. Expected format: name=value"

namespace Parameters

/-- A part of a text: a character, or a placeholder, perhaps with a default. -/
inductive Piece where
  | char (c : Char)
  | placeholder (name : List Char) (default : Option (List Char))
deriving DecidableEq, Repr, Inhabited

/-- The characters that the name of a placeholder may have. -/
def isNameChar (c : Char) : Bool :=
  c ≠ '}' && c ≠ ':'

/-- A placeholder behind its opening brace: a name, perhaps a colon and a default, and the closing
brace. -/
def readPlaceholder (cs : List Char) : Option (Piece × List Char) :=
  match cs.takeWhile isNameChar, cs.dropWhile isNameChar with
  | [], _ => none
  | name, '}' :: rest => some (.placeholder name none, rest)
  | name, ':' :: rest =>
      match rest.dropWhile (· ≠ '}') with
      | _ :: rest' => some (.placeholder name (some (rest.takeWhile (· ≠ '}'))), rest')
      | [] => none
  | _, _ => none

theorem length_lt_of_readPlaceholder {cs : List Char} {p : Piece} {rest : List Char}
    (h : readPlaceholder cs = some (p, rest)) : rest.length < cs.length := by
  have hle := (List.dropWhile_sublist isNameChar (l := cs)).length_le
  unfold readPlaceholder at h
  split at h
  · simp at h
  · rename_i r hr _
    obtain ⟨-, rfl⟩ := Prod.mk.inj (Option.some.inj h)
    simp only [hr, List.length_cons] at hle
    omega
  · rename_i r hr _
    have hle' := (List.dropWhile_sublist (· ≠ '}') (l := r)).length_le
    simp only [hr, List.length_cons] at hle
    split at h
    · rename_i r' hr'
      obtain ⟨-, rfl⟩ := Prod.mk.inj (Option.some.inj h)
      simp only [hr', List.length_cons] at hle'
      omega
    · simp at h
  · simp at h

/-- The pieces of a text.  A placeholder is taken wherever one starts that is not part of an earlier
one. -/
def pieces (cs : List Char) : List Piece :=
  match cs with
  | [] => []
  | '$' :: '{' :: rest =>
      match _h : readPlaceholder rest with
      | some (p, rest') => p :: pieces rest'
      | none => .char '$' :: pieces ('{' :: rest)
  | c :: rest => .char c :: pieces rest
termination_by cs.length
decreasing_by
  · have := length_lt_of_readPlaceholder _h
    simp only [List.length_cons]
    omega
  · simp
  · simp

/-- The placeholders of a text with their defaults, in order. -/
def placeholders (text : String) : List (String × Option (List Char)) :=
  (pieces text.toList).filterMap fun p =>
    match p with
    | .char _ => none
    | .placeholder name default => some (String.ofList name, default)

/-- The names of the placeholders of a text, each once, in the order of their first occurrence. -/
def names (text : String) : List String :=
  Keyed.distinct ((placeholders text).map Prod.fst)

/-- A text has placeholders. -/
def present (text : String) : Bool :=
  !(placeholders text).isEmpty

/-- The names of the placeholders that need a value and have none. -/
def missing (params : Keyed String) (text : String) : List String :=
  Keyed.distinct (((placeholders text).filter fun (name, default) =>
    default.isNone && !Keyed.has name params).map Prod.fst)

/-- What a piece is replaced by: a placeholder by its value, or else by its default. -/
def fill (params : Keyed String) : Piece → List Char
  | .char c => [c]
  | .placeholder name default =>
      match Keyed.get? (String.ofList name) params with
      | some value => value.toList
      | none => default.getD []

/-- A text with its placeholders replaced.  What is put in is not looked at again. -/
def replace (params : Keyed String) (text : String) : Except ParameterError String :=
  match missing params text with
  | [] => .ok (String.ofList ((pieces text.toList).flatMap (fill params)))
  | names => .error (.missing names)

/-- Reads the value of one parameter, written as `name=value`. -/
def readOption (option : String) : Except ParameterError (String × String) :=
  match Text.cutText '=' option with
  | (name, some value) =>
      let name := Text.trimText name
      if name = "" then .error (.badOption option) else .ok (name, value)
  | (_, none) => .error (.badOption option)

/-- The values of several parameters; a later one replaces an earlier one of its name. -/
def ofOptions (options : List String) : Except ParameterError (Keyed String) :=
  (options.mapM readOption).map Keyed.ofList

end Parameters

end DocQuery
