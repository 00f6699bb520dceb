/-
Module: DocQuery.Sql.Parser
Purpose: Reading a query from its tokens.
Assumptions: conditions of any depth, as in DocQuery.Number.Basic.
Main exports: Cursor, Parse, disjunction, negation, query, parseTokens, parse
-/
import DocQuery.Sql.Lexer
import DocQuery.Sql.Numeral

namespace DocQuery.Sql

/-- The tokens that are still to be read, and how many were read before them. -/
structure Cursor where
  position : Nat
  rest : List Token
deriving Repr, Inhabited

/-- Reading moves a cursor forward or fails. -/
abbrev Parse := StateT Cursor (Except ParseError)

/-! ### Single tokens -/

/-- The token at the cursor. -/
def current : Parse (Option Token) :=
  return (← get).rest.head?

/-- Moves past the token at the cursor. -/
def advance : Parse Unit :=
  modify fun c => ⟨c.position + 1, c.rest.drop 1⟩

/-- The token at the cursor is the reserved word `k`. -/
def sees (k : Keyword) : Parse Bool :=
  return (← get).rest.head?.any fun t => t.keyword? = some k

/-- The token at the cursor is the sign `s`. -/
def seesSign (s : Sign) : Parse Bool :=
  return (← get).rest.head? = some (.sign s)

/-- Moves past the reserved word `k` if it is at the cursor. -/
def accept (k : Keyword) : Parse Bool := do
  if ← sees k then
    advance
    return true
  return false

/-- Moves past the sign `s` if it is at the cursor. -/
def acceptSign (s : Sign) : Parse Bool := do
  if ← seesSign s then
    advance
    return true
  return false

/-- Reads any token. -/
def anyToken (expected : String) : Parse Token := do
  match ← current with
  | some t =>
      advance
      return t
  | none => throw (.endOfQuery expected)

/-- Fails because the token at the cursor is not the expected one. -/
def expected {α : Type} (text : String) : Parse α := do
  match ← current with
  | some t => throw (.expectedToken text t (← get).position)
  | none => throw (.endOfQuery text)

/-- Reads the reserved word `k`. -/
def expect (k : Keyword) : Parse Unit := do
  unless ← accept k do expected k.text

/-- Reads the sign `s`. -/
def expectSign (s : Sign) : Parse Unit := do
  unless ← acceptSign s do expected s.text

/-- Fails because a name was expected at the cursor. -/
def expectedName {α : Type} (what : String) : Parse α := do
  throw (.expectedName what (← current) (← get).position)

/-- Reads a name if one is at the cursor. -/
def acceptIdentifier : Parse (Option String) := do
  match ← current with
  | some t =>
      if t.isIdentifier then
        advance
        return some t.text
      return none
  | none => return none

/-- Reads a name. -/
def identifier (what : String) : Parse String := do
  match ← acceptIdentifier with
  | some name => return name
  | none => expectedName what

/-- Reads a string. -/
def acceptQuoted : Parse (Option String) := do
  match ← current with
  | some (.quoted _ content) =>
      advance
      return some content
  | _ => return none

/-! ### Lists

The fuel of these loops is the number of tokens at hand.  Each round of a list reads one, so it
never runs out before the list does. -/

/-- Reads an item, and another one as long as `more` succeeds; fuel bounds the number of items
after the first. -/
def chain {α : Type} (item : Parse α) (more : Parse Bool) : Nat → Parse (List α)
  | 0 => return [← item]
  | fuel + 1 => do
      let first ← item
      if ← more then
        return first :: (← chain item more fuel)
      return [first]

/-- Reads one or more items with a separator between them.  There are no more separators than
tokens. -/
def separated {α : Type} (item : Parse α) (more : Parse Bool) : Parse (List α) := do
  chain item more (← get).rest.length

/-! ### Operands and conditions

One function for each level of binding: OR over AND over negations, parentheses and single
predicates. -/

/-- The value or field that a word stands for. -/
def wordOperand (word : String) : Option Operand :=
  match Keyword.ofWord? word with
  | some .true => some (.literal (.bool true))
  | some .false => some (.literal (.bool false))
  | some .null => some (.literal .null)
  | some _ => none
  | none =>
      match integerOfWord? word with
      | some n => some (.literal (.int n))
      | none =>
          match floatOfWord? word with
          | some x => some (.literal (.number (.float x)))
          | none => some (.field word)

/-- The operand that a token stands for. -/
def tokenOperand : Token → Option Operand
  | .quoted _ content => some (.literal (.string content))
  | .sign _ => none
  | .word word => wordOperand word

/-- Reads an operand. -/
def operand : Parse Operand := do
  match ← current with
  | none => throw (.endOfQuery "value or column name")
  | some t =>
      match tokenOperand t with
      | some o =>
          advance
          return o
      | none => expectedName "value or column name"

/-- Reads a literal of a list of values. -/
def listValue : Parse Value := do
  match ← operand with
  | .literal v => return v
  | .field name => throw (.fieldInList name)

/-- Reads a list of values in parentheses. -/
def valueList : Parse (List Value) := do
  expectSign .openParen
  let values ← separated listValue (acceptSign .comma)
  expectSign .closeParen
  return values

/-- Reads the pattern of a LIKE condition. -/
def pattern : Parse String := do
  match ← acceptQuoted with
  | some p => return p
  | none => throw (.patternNotQuoted (← get).position)

/-- Reads a comparison sign. -/
def comparator : Parse Comparator := do
  match ← current with
  | some (.sign s) =>
      match s.comparator? with
      | some c =>
          advance
          return c
      | none => expectedName "comparison operator"
  | _ => expectedName "comparison operator"

/-- Reads the part of a predicate behind its operand. -/
def predicateTail (left : Operand) : Parse Condition := do
  if ← accept .is then
    let negated ← accept .not
    expect .null
    return .isNull left negated
  let negated ← accept .not
  if ← accept .in then
    return .inList left (← valueList) negated
  if ← accept .like then
    return .like left (← pattern) false negated
  if ← accept .ilike then
    return .like left (← pattern) true negated
  if negated then
    throw (.danglingNot (← get).position)
  let c ← comparator
  return .compare left c (← operand)

/-- A chain of one condition is that condition. -/
def collapse (combine : List Condition → Condition) : List Condition → Condition
  | [c] => c
  | cs => combine cs

/-- Reads conditions joined by AND. -/
def conjunction (item : Parse Condition) : Parse Condition :=
  return collapse .and (← separated item (accept .and))

/-- Reads conditions joined by OR, each of which may be joined by AND. -/
def disjunction (item : Parse Condition) : Parse Condition :=
  return collapse .or (← separated (conjunction item) (accept .or))

/-- Reads a condition that is not joined to another: a negation, one in parentheses, or a single
predicate.  Fuel bounds the depth of negations and parentheses. -/
def negation : Nat → Parse Condition
  | 0 => throw (.endOfQuery "condition")
  | fuel + 1 => do
      if ← accept .not then
        return .not (← negation fuel)
      if ← acceptSign .openParen then
        let c ← disjunction (negation fuel)
        expectSign .closeParen
        return c
      predicateTail (← operand)

/-- Reads a condition.  It is nested no deeper than there are tokens. -/
def condition : Parse Condition := do
  disjunction (negation ((← get).rest.length + 1))

/-! ### Clauses -/

/-- Reads the row count behind TOP or LIMIT. -/
def count (k : Keyword) : Parse Value := do
  let t ← anyToken "more input"
  match integerOfWord? t.text with
  | none => throw (.count (.notInteger k t))
  | some n =>
      if n < 0 then
        throw (.count (.negative k n))
      return .int n

/-- Reads an alias if one follows. -/
def aliasName (what : String) : Parse (Option String) := do
  if ← accept .as then
    return some (← identifier what)
  acceptIdentifier

/-- A name that ends in an asterisk selects several fields and can have no alias. -/
def endsInAsterisk (source : String) : Bool :=
  source.toList.getLast? = some '*'

/-- Reads an entry of the select list. -/
def selectItem : Parse SelectItem := do
  let source ← identifier "column name"
  let aliasName ← aliasName "column alias"
  if aliasName.isSome && endsInAsterisk source then
    throw (.wildcardAlias source)
  return ⟨source, aliasName⟩

/-- Reads a table and its alias. -/
def tableRef : Parse TableRef := do
  let name ←
    match ← acceptQuoted with
    | some name => pure name
    | none => identifier "table name"
  return ⟨name, ← aliasName "table alias"⟩

/-- Reads an unnested array, from its reserved word on. -/
def unnest : Parse Unnest := do
  unless ← accept .unnest do
    expectedName "UNNEST after ',' in FROM"
  unless ← acceptSign .openParen do
    throw .unnestShape
  let arrayField ← identifier "array field"
  expectSign .closeParen
  let _ ← accept .as
  match ← acceptIdentifier with
  | none => throw (.unnestAlias arrayField)
  | some aliasName =>
      if ← acceptSign .openParen then
        let column ← identifier "UNNEST column name"
        expectSign .closeParen
        return ⟨arrayField, aliasName, column⟩
      return ⟨arrayField, aliasName, Unnest.defaultColumn⟩

/-- Reads items as long as `starts` holds; fuel bounds their number. -/
def many {α : Type} (starts : Parse Bool) (item : Parse α) : Nat → Parse (List α)
  | 0 => return []
  | fuel + 1 => do
      if ← starts then
        let first ← item
        return first :: (← many starts item fuel)
      return []

/-- The token at the cursor starts a join. -/
def seesJoin : Parse Bool := do
  return (← sees .inner) || (← sees .left) || (← sees .join)

/-- Reads the words before JOIN. -/
def joinKind : Parse JoinKind := do
  if ← accept .inner then
    return .inner
  if ← accept .left then
    let _ ← accept .outer
    return .left
  return .inner

/-- Reads a join clause. -/
def join : Parse Join := do
  let kind ← joinKind
  expect .join
  let table ← tableRef
  expect .on
  return ⟨table, kind, ← condition⟩

/-- Reads the direction of a sort key; without one the order is ascending. -/
def direction : Parse Direction := do
  if ← accept .asc then
    return .ascending
  if ← accept .desc then
    return .descending
  return .ascending

/-- Reads a sort key. -/
def orderKey : Parse OrderKey := do
  let field ← identifier "ORDER BY column"
  return ⟨field, ← direction⟩

/-- Reads the sort keys if there are any. -/
def orderBy : Parse (List OrderKey) := do
  if ← accept .order then
    expect .by
    separated orderKey (acceptSign .comma)
  else
    return []

/-- Reads the row limit at the end of a query, which may already have one. -/
def limit (top : Option Value) : Parse (Option Value) := do
  if ← sees .limit then
    if top.isSome then
      throw .topAndLimit
    advance
    return some (← count .limit)
  return top

/-- Reads a query. -/
def query : Parse Plan := do
  expect .select
  let top ← if ← accept .top then some <$> count .top else pure none
  let select ← separated selectItem (acceptSign .comma)
  expect .from
  let table ← tableRef
  let unnests ← many (acceptSign .comma) unnest (← get).rest.length
  let joins ← many seesJoin join (← get).rest.length
  let condition ← if ← accept .where then some <$> condition else pure none
  let orderBy ← orderBy
  let limit ← limit top
  return { table, unnests, joins, condition, select, orderBy, limit }

/-- The query that a list of tokens makes up. -/
def parseTokens (tokens : List Token) : Except ParseError Plan := do
  if tokens.isEmpty then
    throw .empty
  let (plan, cursor) ← query.run ⟨0, tokens⟩
  match cursor.rest with
  | [] => return plan
  | t :: _ => throw (.trailing t cursor.position)

/-- The query that a text writes. -/
def parse (sql : String) : Except ParseError Plan := do
  parseTokens (← tokenize sql)

end DocQuery.Sql
