/-
Module: DocQuery.Sql.Lexer
Purpose: Splitting query text into tokens.
Main exports: ParseError, ParseError.message, readQuoted, readToken?, lex, statementText, tokenize
-/
import DocQuery.Sql.Token
import DocQuery.Text.Blank

namespace DocQuery.Sql

/-! ### Faults of query text -/

/-- Why the row count behind TOP or LIMIT was refused. -/
inductive CountFault where
  | notInteger (keyword : Keyword) (found : Token)
  | negative (keyword : Keyword) (count : Int)
deriving DecidableEq, Repr, Inhabited

/-- Why query text is no query.  Positions count characters in faults of tokens and tokens in all
others. -/
inductive ParseError where
  | unterminatedString (position : Nat)
  | unexpectedCharacter (c : Char) (position : Nat)
  | empty
  | endOfQuery (expected : String)
  | expectedToken (expected : String) (found : Token) (position : Nat)
  | expectedName (what : String) (found : Option Token) (position : Nat)
  | trailing (found : Token) (position : Nat)
  | wildcardAlias (source : String)
  | unnestShape
  | unnestAlias (arrayField : String)
  | danglingNot (position : Nat)
  | patternNotQuoted (position : Nat)
  | fieldInList (name : String)
  | topAndLimit
  | count (fault : CountFault)
deriving DecidableEq, Repr, Inhabited

/-- A token in quotes, or the words for its absence. -/
def foundText : Option Token → String
  | some t => "'" ++ t.text ++ "'"
  | none => "end of query"

/-- A count's fault in words. -/
def CountFault.message : CountFault → String
  | .notInteger keyword found =>
      keyword.text ++ " must be an integer, got '" ++ found.text ++ "'"
  | .negative keyword count =>
      keyword.text ++ " must be non-negative, got " ++ (Value.int count).inspect

/-- A fault in words. -/
def ParseError.message : ParseError → String
  | .unterminatedString position =>
      "Unterminated string starting at character " ++ toString position
  | .unexpectedCharacter c position =>
      "Unexpected character '" ++ c.toString ++ "' at character " ++ toString position
  | .empty => "Empty query"
  | .endOfQuery expected => "Unexpected end of query. Expected: " ++ expected
  | .expectedToken expected found position =>
      "Expected '" ++ expected ++ "' but got '" ++ found.text ++ "' at position "
        ++ toString position
  | .expectedName what found position =>
      "Expected " ++ what ++ " but got " ++ foundText found ++ " at position " ++ toString position
  | .trailing found position =>
      "Unexpected token '" ++ found.text ++ "' at position " ++ toString position
  | .wildcardAlias source => "Wildcard '" ++ source ++ "' cannot have an alias"
  | .unnestShape => "Invalid UNNEST syntax: expected UNNEST(array_field) AS alias(column)"
  | .unnestAlias field =>
      "UNNEST(" ++ field ++ ") requires an alias: UNNEST(" ++ field ++ ") AS alias(column)"
  | .danglingNot position =>
      "Expected IN, LIKE or ILIKE after NOT at position " ++ toString position
  | .patternNotQuoted position =>
      "Expected quoted pattern after LIKE at position " ++ toString position
  | .fieldInList name => "IN list accepts literals only, got '" ++ name ++ "'"
  | .topAndLimit => "TOP and LIMIT cannot be used in the same query"
  | .count fault => fault.message

/-! ### Tokens at the start of a text -/

/-- Reads the content of a string from behind its opening mark.  A doubled mark is one character of
the content, unless the string can only end at its first half. -/
def readQuoted (mark : Char) : List Char → Option (List Char × List Char)
  | [] => none
  | [c] => if c = mark then some ([], []) else none
  | c :: d :: rest =>
      if c = mark then
        if d = mark then
          match readQuoted mark rest with
          | some (content, rest') => some (mark :: content, rest')
          | none => some ([], d :: rest)
        else some ([], d :: rest)
      else (readQuoted mark (d :: rest)).map fun (content, rest') => (c :: content, rest')

/-- The characters besides white space that end a word: marks, punctuation, and the characters of
operators. -/
def wordEnds : List Char :=
  ['\'', '"', ',', '(', ')', '=', '<', '>', '!']

/-- The characters of words. -/
def isWordChar (c : Char) : Bool :=
  !Text.isBlank c && !wordEnds.contains c

/-- A string token. -/
def quotedToken? (mark : Quote) (cs : List Char) : Option (Token × List Char) :=
  (readQuoted mark.char cs).map fun (content, rest) => (.quoted mark (String.ofList content), rest)

/-- A word that starts with `c`, as long as it can be. -/
def wordToken? (c : Char) (cs : List Char) : Option (Token × List Char) :=
  if isWordChar c then
    some (.word (String.ofList (c :: cs.takeWhile isWordChar)), cs.dropWhile isWordChar)
  else none

/-- Reads the token at the start of a text that does not start with white space. -/
def readToken? : List Char → Option (Token × List Char)
  | [] => none
  | '\'' :: rest => quotedToken? .single rest
  | '"' :: rest => quotedToken? .double rest
  | '<' :: '>' :: rest => some (.sign .lessGreater, rest)
  | '!' :: '=' :: rest => some (.sign .ne, rest)
  | '>' :: '=' :: rest => some (.sign .ge, rest)
  | '<' :: '=' :: rest => some (.sign .le, rest)
  | '=' :: rest => some (.sign .eq, rest)
  | '>' :: rest => some (.sign .gt, rest)
  | '<' :: rest => some (.sign .lt, rest)
  | ',' :: rest => some (.sign .comma, rest)
  | '(' :: rest => some (.sign .openParen, rest)
  | ')' :: rest => some (.sign .closeParen, rest)
  | c :: rest => wordToken? c rest

/-! ### Whole texts

A token takes at least one character, which is why reading a text token by token comes to an end. -/

theorem length_lt_of_readQuoted (mark : Char) (cs : List Char) :
    ∀ content rest, readQuoted mark cs = some (content, rest) → rest.length < cs.length := by
  fun_induction readQuoted mark cs with
  | case1 => simp
  | case2 => simp +contextual
  | case3 => simp
  | case4 => grind
  | case5 => grind
  | case6 => grind
  | case7 c d rest h ih =>
      intro content rest' heq
      obtain ⟨⟨content', r⟩, hr, hc⟩ := Option.map_eq_some_iff.1 heq
      have := ih content' r hr
      simp_all
      omega

theorem length_lt_of_quotedToken? {mark : Quote} {cs : List Char} {t : Token} {rest : List Char}
    (h : quotedToken? mark cs = some (t, rest)) : rest.length < cs.length := by
  obtain ⟨⟨content, r⟩, hr, hc⟩ := Option.map_eq_some_iff.1 h
  obtain ⟨-, rfl⟩ := Prod.mk.inj hc
  exact length_lt_of_readQuoted _ _ _ _ hr

theorem length_lt_of_wordToken? {c : Char} {cs : List Char} {t : Token} {rest : List Char}
    (h : wordToken? c cs = some (t, rest)) : rest.length < cs.length + 1 := by
  unfold wordToken? at h
  split at h
  · obtain ⟨-, rfl⟩ := Prod.mk.inj (Option.some.inj h)
    exact Nat.lt_succ_of_le (List.dropWhile_sublist _).length_le
  · simp at h

theorem length_lt_of_readToken? {cs : List Char} {t : Token} {rest : List Char}
    (h : readToken? cs = some (t, rest)) : rest.length < cs.length := by
  unfold readToken? at h
  split at h
  · simp at h
  · exact Nat.lt_succ_of_lt (length_lt_of_quotedToken? h)
  · exact Nat.lt_succ_of_lt (length_lt_of_quotedToken? h)
  case h_14 => exact length_lt_of_wordToken? h
  all_goals
    obtain ⟨-, rfl⟩ := Prod.mk.inj (Option.some.inj h)
    simp only [List.length_cons]
    omega

/-- Why no token could be read at a character. -/
def tokenFault (c : Char) (position : Nat) : ParseError :=
  if c = '\'' ∨ c = '"' then .unterminatedString position else .unexpectedCharacter c position

/-- The tokens of the rest `cs` of a text of `total` characters. -/
def lex (total : Nat) (cs : List Char) : Except ParseError (List Token) :=
  match _hcs : Text.dropBlank cs with
  | [] => .ok []
  | c :: more =>
      match h : readToken? (c :: more) with
      | none => .error (tokenFault c (total - (more.length + 1)))
      | some (t, rest) => (lex total rest).map (t :: ·)
termination_by cs.length
decreasing_by
  have := length_lt_of_readToken? h
  have := (List.dropWhile_sublist Text.isBlank (l := cs)).length_le
  rw [← Text.dropBlank, _hcs] at this
  omega

/-- Query text without white space around it and without semicolons at its end. -/
def statementText (sql : String) : List Char :=
  Text.dropEnd Text.isBlank (Text.dropEnd (· = ';') (Text.trimBlank sql.toList))

/-- The tokens of query text. -/
def tokenize (sql : String) : Except ParseError (List Token) :=
  let cs := statementText sql
  lex cs.length cs

end DocQuery.Sql
