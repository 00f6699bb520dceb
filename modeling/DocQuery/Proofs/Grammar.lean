/-
Module: DocQuery.Proofs.Grammar
Purpose: The grammar of queries as derivation trees, with the tokens that a tree writes and the part
  of a plan that it stands for.
Main exports: Spelling, Name, Numeral, OperandTree, PredicateTree, OrTree, TableTree, JoinTree,
  QueryTree, QueryTree.tokens, QueryTree.plan
-/
import DocQuery.Sql.Parser

namespace DocQuery.Sql

/-! ### Words

Kinds of words.  Each carries the proof of what makes it such a word, so that a tree cannot have a
reserved word for a name. -/

/-- A word that spells the reserved word `k`, in capitals or not. -/
@[ext]
structure Spelling (k : Keyword) where
  word : String
  spells : Text.capitals word = k.text

def Spelling.token {k : Keyword} (w : Spelling k) : Token :=
  .word w.word

/-- A word that spells no reserved word.  An asterisk is a name like any other. -/
@[ext]
structure Name where
  word : String
  free : ∀ k : Keyword, Text.capitals word ≠ k.text

def Name.token (n : Name) : Token :=
  .word n.word

/-- An integer: decimal digits of any script, perhaps behind a minus sign. -/
@[ext]
structure Numeral where
  minus : Bool
  digits : List Char
  nonempty : digits ≠ []
  decimal : ∀ d ∈ digits, Text.isDecimalDigit d = true

namespace Numeral

def word (n : Numeral) : String :=
  String.ofList ((if n.minus then ['-'] else []) ++ n.digits)

def value (n : Numeral) : Int :=
  if n.minus then -(Text.natOfDigits n.digits : Int) else Text.natOfDigits n.digits

end Numeral

/-- The row count of TOP or LIMIT, which is not negative. -/
@[ext]
structure CountTree where
  numeral : Numeral
  nonneg : 0 ≤ numeral.value

namespace CountTree

def tokens (t : CountTree) : List Token :=
  [.word t.numeral.word]

def value (t : CountTree) : Value :=
  .int t.numeral.value

end CountTree

/-! ### Parts that several phrases have -/

/-- A phrase behind a reserved word. -/
structure Clause (k : Keyword) (T : Type) where
  lead : Spelling k
  body : T

def Clause.tokens {k : Keyword} {T : Type} (write : T → List Token) (c : Clause k T) :
    List Token :=
  c.lead.token :: write c.body

/-- A phrase that may be left out. -/
def optional {T : Type} (write : T → List Token) : Option T → List Token
  | some t => write t
  | none => []

/-- A reserved word that may be left out. -/
def optionalWord {k : Keyword} : Option (Spelling k) → List Token :=
  optional fun w => [w.token]

/-- One or more phrases with commas between them. -/
inductive Commas (T : Type) where
  | last (t : T)
  | more (t : T) (rest : Commas T)

namespace Commas

variable {T α : Type}

def tokens (write : T → List Token) : Commas T → List Token
  | .last t => write t
  | .more t rest => write t ++ .sign .comma :: rest.tokens write

def values (value : T → α) : Commas T → List α
  | .last t => [value t]
  | .more t rest => value t :: rest.values value

end Commas

/-! ### Operands -/

/-- A value that stands in a query. -/
inductive LiteralTree where
  | string (mark : Quote) (content : String)
  | true (word : Spelling .true)
  | false (word : Spelling .false)
  | null (word : Spelling .null)
  | integer (name : Name) (n : Numeral) (writes : n.word = name.word)
  | float (name : Name) (x : Binary64) (notInteger : ∀ n : Numeral, n.word ≠ name.word)
      (writes : floatOfWord? name.word = some x)

namespace LiteralTree

def token : LiteralTree → Token
  | .string mark content => .quoted mark content
  | .true word => word.token
  | .false word => word.token
  | .null word => word.token
  | .integer name _ _ => name.token
  | .float name _ _ _ => name.token

def value : LiteralTree → Value
  | .string _ content => .string content
  | .true _ => .bool Bool.true
  | .false _ => .bool Bool.false
  | .null _ => .null
  | .integer _ n _ => .int n.value
  | .float _ x _ _ => .number (.float x)

def tokens (t : LiteralTree) : List Token :=
  [t.token]

end LiteralTree

/-- A value, or a field: a name that writes no number. -/
inductive OperandTree where
  | literal (t : LiteralTree)
  | field (name : Name) (notInteger : ∀ n : Numeral, n.word ≠ name.word)
      (notFloat : floatOfWord? name.word = none)

namespace OperandTree

def token : OperandTree → Token
  | .literal t => t.token
  | .field name _ _ => name.token

def value : OperandTree → Operand
  | .literal t => .literal t.value
  | .field name _ _ => .field name.word

end OperandTree

/-- A comparison sign; "not equal" has two. -/
inductive OpTree where
  | eq
  | ne
  | lessGreater
  | gt
  | lt
  | ge
  | le

namespace OpTree

def sign : OpTree → Sign
  | .eq => .eq
  | .ne => .ne
  | .lessGreater => .lessGreater
  | .gt => .gt
  | .lt => .lt
  | .ge => .ge
  | .le => .le

def comparator : OpTree → Comparator
  | .eq => .eq
  | .ne | .lessGreater => .ne
  | .gt => .gt
  | .lt => .lt
  | .ge => .ge
  | .le => .le

end OpTree

/-! ### Conditions

Three mutual types, one for each strength of binding.  Parentheses are kept in the trees, although
nothing of them is left in the condition. -/

/-- A single condition, of values or patterns that are written out. -/
inductive PredicateTree where
  | isNull (operand : OperandTree) (isWord : Spelling .is) (notWord : Option (Spelling .not))
      (nullWord : Spelling .null)
  | inList (operand : OperandTree) (notWord : Option (Spelling .not)) (inWord : Spelling .in)
      (values : Commas LiteralTree)
  | like (operand : OperandTree) (notWord : Option (Spelling .not)) (likeWord : Spelling .like)
      (mark : Quote) (pattern : String)
  | ilike (operand : OperandTree) (notWord : Option (Spelling .not)) (likeWord : Spelling .ilike)
      (mark : Quote) (pattern : String)
  | compare (left : OperandTree) (op : OpTree) (right : OperandTree)

namespace PredicateTree

def tokens : PredicateTree → List Token
  | .isNull operand isWord notWord nullWord =>
      operand.token :: isWord.token :: optionalWord notWord ++ [nullWord.token]
  | .inList operand notWord inWord values =>
      operand.token :: optionalWord notWord ++ inWord.token :: .sign .openParen ::
        values.tokens LiteralTree.tokens ++ [.sign .closeParen]
  | .like operand notWord likeWord mark pattern =>
      operand.token :: optionalWord notWord ++ [likeWord.token, .quoted mark pattern]
  | .ilike operand notWord likeWord mark pattern =>
      operand.token :: optionalWord notWord ++ [likeWord.token, .quoted mark pattern]
  | .compare left op right => [left.token, .sign op.sign, right.token]

def condition : PredicateTree → Condition
  | .isNull operand _ notWord _ => .isNull operand.value notWord.isSome
  | .inList operand notWord _ values =>
      .inList operand.value (values.values LiteralTree.value) notWord.isSome
  | .like operand notWord _ _ pattern => .like operand.value pattern false notWord.isSome
  | .ilike operand notWord _ _ pattern => .like operand.value pattern true notWord.isSome
  | .compare left op right => .compare left.value op.comparator right.value

end PredicateTree

mutual

/-- Conditions joined by OR, each of which may be joined by AND. -/
inductive OrTree where
  | single (t : AndTree)
  | or (t : AndTree) (word : Spelling .or) (rest : OrTree)

/-- Conditions joined by AND, none of which is joined to another. -/
inductive AndTree where
  | single (t : NotTree)
  | and (t : NotTree) (word : Spelling .and) (rest : AndTree)

/-- A negation, a condition in parentheses, or a single one. -/
inductive NotTree where
  | not (word : Spelling .not) (t : NotTree)
  | parens (t : OrTree)
  | predicate (t : PredicateTree)

end

mutual

def OrTree.tokens : OrTree → List Token
  | .single t => t.tokens
  | .or t word rest => t.tokens ++ word.token :: rest.tokens

def AndTree.tokens : AndTree → List Token
  | .single t => t.tokens
  | .and t word rest => t.tokens ++ word.token :: rest.tokens

def NotTree.tokens : NotTree → List Token
  | .not word t => word.token :: t.tokens
  | .parens t => .sign .openParen :: t.tokens ++ [.sign .closeParen]
  | .predicate t => t.tokens

end

mutual

/-- A chain is one condition on all its parts; a chain of one part is that part. -/
def OrTree.condition : OrTree → Condition
  | .single t => t.condition
  | .or t _ rest => .or (t.condition :: rest.parts)

def OrTree.parts : OrTree → List Condition
  | .single t => [t.condition]
  | .or t _ rest => t.condition :: rest.parts

def AndTree.condition : AndTree → Condition
  | .single t => t.condition
  | .and t _ rest => .and (t.condition :: rest.parts)

def AndTree.parts : AndTree → List Condition
  | .single t => [t.condition]
  | .and t _ rest => t.condition :: rest.parts

/-- Parentheses leave nothing behind. -/
def NotTree.condition : NotTree → Condition
  | .not _ t => .not t.condition
  | .parens t => t.condition
  | .predicate t => t.condition

end

/-! ### Clauses

A tree keeps what was written and not only what it means: whether a word was spelled with capitals,
whether AS or ASC was there at all. -/

/-- The name given to a field or a table, with or without AS. -/
inductive AliasTree where
  | none
  | bare (name : Name)
  | as (word : Spelling .as) (name : Name)

namespace AliasTree

def tokens : AliasTree → List Token
  | .none => []
  | .bare name => [name.token]
  | .as word name => [word.token, name.token]

def value : AliasTree → Option String
  | .none => Option.none
  | .bare name => some name.word
  | .as _ name => some name.word

end AliasTree

/-- An entry of the select list.  A name that ends in an asterisk has no alias. -/
structure ItemTree where
  source : Name
  given : AliasTree
  unnamed : source.word.toList.getLast? = some '*' → given = .none

namespace ItemTree

def tokens (t : ItemTree) : List Token :=
  t.source.token :: t.given.tokens

def value (t : ItemTree) : SelectItem :=
  ⟨t.source.word, t.given.value⟩

end ItemTree

/-- A table's name, which may be in quotes. -/
inductive TableName where
  | plain (name : Name)
  | quoted (mark : Quote) (content : String)

namespace TableName

def token : TableName → Token
  | .plain name => name.token
  | .quoted mark content => .quoted mark content

def value : TableName → String
  | .plain name => name.word
  | .quoted _ content => content

end TableName

/-- A table and the name given to it. -/
structure TableTree where
  table : TableName
  given : AliasTree

namespace TableTree

def tokens (t : TableTree) : List Token :=
  t.table.token :: t.given.tokens

def value (t : TableTree) : TableRef :=
  ⟨t.table.value, t.given.value⟩

end TableTree

/-- An unnested array. -/
structure UnnestTree where
  unnestWord : Spelling .unnest
  field : Name
  asWord : Option (Spelling .as)
  given : Name
  column : Option Name

namespace UnnestTree

def tokens (t : UnnestTree) : List Token :=
  t.unnestWord.token :: .sign .openParen :: t.field.token :: .sign .closeParen ::
    optionalWord t.asWord ++ t.given.token ::
    optional (fun name => [.sign .openParen, name.token, .sign .closeParen]) t.column

def value (t : UnnestTree) : Unnest :=
  ⟨t.field.word, t.given.word, t.column.elim "value" Name.word⟩

/-- Arrays follow a table, each behind a comma. -/
def listed (t : UnnestTree) : List Token :=
  .sign .comma :: t.tokens

end UnnestTree

/-- The words before JOIN. -/
inductive JoinHead where
  | plain
  | inner (word : Spelling .inner)
  | left (word : Spelling .left) (outerWord : Option (Spelling .outer))

namespace JoinHead

def tokens : JoinHead → List Token
  | .plain => []
  | .inner word => [word.token]
  | .left word outerWord => word.token :: optionalWord outerWord

def kind : JoinHead → JoinKind
  | .plain => .inner
  | .inner _ => .inner
  | .left _ _ => .left

end JoinHead

/-- A joined table. -/
structure JoinTree where
  head : JoinHead
  joinWord : Spelling .join
  table : TableTree
  onWord : Spelling .on
  condition : OrTree

namespace JoinTree

def tokens (t : JoinTree) : List Token :=
  t.head.tokens ++ t.joinWord.token :: t.table.tokens ++ t.onWord.token :: t.condition.tokens

def value (t : JoinTree) : Join :=
  ⟨t.table.value, t.head.kind, t.condition.condition⟩

end JoinTree

/-- The direction of a sort key; without one the order is ascending. -/
inductive DirectionTree where
  | none
  | asc (word : Spelling .asc)
  | desc (word : Spelling .desc)

namespace DirectionTree

def tokens : DirectionTree → List Token
  | .none => []
  | .asc word => [word.token]
  | .desc word => [word.token]

def value : DirectionTree → Direction
  | .none => .ascending
  | .asc _ => .ascending
  | .desc _ => .descending

end DirectionTree

/-- A sort key. -/
structure KeyTree where
  field : Name
  direction : DirectionTree

namespace KeyTree

def tokens (t : KeyTree) : List Token :=
  t.field.token :: t.direction.tokens

def value (t : KeyTree) : OrderKey :=
  ⟨t.field.word, t.direction.value⟩

end KeyTree

/-! ### Queries

The tokens of a query are those of its parts in their order, and the plan has their values.  That
there is one count at most is a field of the tree. -/

/-- A query, which counts its rows by TOP or by LIMIT but not by both. -/
structure QueryTree where
  selectWord : Spelling .select
  top : Option (Clause .top CountTree)
  items : Commas ItemTree
  fromWord : Spelling .from
  table : TableTree
  unnests : List UnnestTree
  joins : List JoinTree
  condition : Option (Clause .where OrTree)
  order : Option (Clause .order (Clause .by (Commas KeyTree)))
  limit : Option (Clause .limit CountTree)
  oneCount : top = none ∨ limit = none

namespace QueryTree

def tokens (t : QueryTree) : List Token :=
  t.selectWord.token :: optional (Clause.tokens CountTree.tokens) t.top ++
    t.items.tokens ItemTree.tokens ++ t.fromWord.token :: t.table.tokens ++
    t.unnests.flatMap UnnestTree.listed ++
    t.joins.flatMap JoinTree.tokens ++
    optional (Clause.tokens OrTree.tokens) t.condition ++
    optional (Clause.tokens (Clause.tokens (Commas.tokens KeyTree.tokens))) t.order ++
    optional (Clause.tokens CountTree.tokens) t.limit

def plan (t : QueryTree) : Plan where
  table := t.table.value
  unnests := t.unnests.map UnnestTree.value
  joins := t.joins.map JoinTree.value
  condition := t.condition.map fun c => c.body.condition
  select := t.items.values ItemTree.value
  orderBy := t.order.elim [] fun c => c.body.body.values KeyTree.value
  limit := (t.top.map fun c => c.body.value).or (t.limit.map fun c => c.body.value)

end QueryTree

end DocQuery.Sql
