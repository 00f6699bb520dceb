/-
Module: DocQuery.Proofs.PlanStrings
Purpose: The names and strings of a plan, and that no semicolon of a query gets lost on the way to
  them.
Main exports: Plan.strings, Sql.LaidOut.count_eq, Sql.QueryTree.semicolons_plan,
  Sql.semicolons_of_parse
-/
import DocQuery.Proofs.Lexing
import DocQuery.Proofs.QueryGrammar

namespace DocQuery

open Outcome

/-! ### Names and strings

Everything in a plan that comes from the text of a query letter by letter. -/

/-- The string that a literal is. -/
def Value.strings : Value → List String
  | .string s => [s]
  | _ => []

def Operand.strings : Operand → List String
  | .field name => [name]
  | .literal v => v.strings

namespace Condition

mutual

/-- The fields, strings and patterns of a condition, from left to right. -/
def strings : Condition → List String
  | .compare left _ right => left.strings ++ right.strings
  | .and children => stringsOfAll children
  | .or children => stringsOfAll children
  | .not child => strings child
  | .isNull operand _ => operand.strings
  | .inList operand values _ => operand.strings ++ values.flatMap Value.strings
  | .like operand pattern _ _ => operand.strings ++ [pattern]
  | .other _ => []

def stringsOfAll : List Condition → List String
  | [] => []
  | c :: cs => strings c ++ stringsOfAll cs

end

end Condition

def TableRef.strings (t : TableRef) : List String :=
  t.name :: t.aliasName.toList

def Unnest.strings (u : Unnest) : List String :=
  [u.arrayField, u.aliasName, u.column]

def Join.strings (j : Join) : List String :=
  j.table.strings ++ j.on.strings

def SelectItem.strings (item : SelectItem) : List String :=
  item.source :: item.aliasName.toList

def OrderKey.strings (key : OrderKey) : List String :=
  [key.field]

/-- The names and strings of a plan, clause by clause. -/
def Plan.strings (p : Plan) : List String :=
  p.select.flatMap SelectItem.strings ++ p.table.strings ++ p.unnests.flatMap Unnest.strings ++
    p.joins.flatMap Join.strings ++ p.condition.toList.flatMap Condition.strings ++
    p.orderBy.flatMap OrderKey.strings

/-- How many semicolons strings have. -/
def semicolonsIn (ss : List String) : Nat :=
  (ss.flatMap String.toList).count ';'

@[simp] theorem semicolonsIn_nil : semicolonsIn [] = 0 :=
  rfl

@[simp] theorem semicolonsIn_cons (s : String) (ss : List String) :
    semicolonsIn (s :: ss) = s.toList.count ';' + semicolonsIn ss := by
  simp [semicolonsIn]

@[simp] theorem semicolonsIn_append (ss ss' : List String) :
    semicolonsIn (ss ++ ss') = semicolonsIn ss + semicolonsIn ss' := by
  simp [semicolonsIn]

namespace Sql

/-! ### Semicolons of tokens

Semicolons are counted, so that the count of a text is the sum of those of its tokens.  Reserved
words, signs and numbers have none. -/

/-- How many semicolons tokens have. -/
def semicolonsOf (ts : List Token) : Nat :=
  (ts.flatMap Token.chars).count ';'

@[simp] theorem semicolonsOf_nil : semicolonsOf [] = 0 :=
  rfl

@[simp] theorem semicolonsOf_cons (t : Token) (ts : List Token) :
    semicolonsOf (t :: ts) = t.chars.count ';' + semicolonsOf ts := by
  simp [semicolonsOf]

@[simp] theorem semicolonsOf_append (ts us : List Token) :
    semicolonsOf (ts ++ us) = semicolonsOf ts + semicolonsOf us := by
  simp [semicolonsOf]

theorem ne_of_isBlank {b c : Char} (blank : Text.isBlank b = true)
    (visible : Text.isBlank c = false) : b ≠ c := by
  rintro rfl
  rw [visible] at blank
  cases blank

/-- White space apart, a text has the characters of its tokens. -/
theorem LaidOut.count_eq {cs : List Char} {ts : List Token} (laid : LaidOut cs ts) {c : Char}
    (visible : Text.isBlank c = false) : cs.count c = (ts.flatMap Token.chars).count c := by
  induction laid with
  | nil => rfl
  | blank blank rest ih => rw [List.count_cons_of_ne (ne_of_isBlank blank visible), ih]
  | token written ends rest ih => rw [List.count_append, ih, List.flatMap_cons, List.count_append]

theorem count_doubled {mark c : Char} (other : c ≠ mark) (cs : List Char) :
    (doubled mark cs).count c = cs.count c := by
  induction cs with
  | nil => rfl
  | cons d cs ih =>
      by_cases hd : d = mark
      · subst hd
        rw [doubled_cons_self, List.count_cons_of_ne other.symm, List.count_cons_of_ne other.symm,
          List.count_cons_of_ne other.symm, ih]
      · rw [doubled_cons_of_ne hd, List.count_cons, List.count_cons, ih]

@[simp] theorem count_quoted (mark : Quote) (content : String) :
    (Token.quoted mark content).chars.count ';' = content.toList.count ';' := by
  have other : ';' ≠ mark.char := by cases mark <;> decide
  rw [Token.chars_quoted, List.count_cons_of_ne other.symm, List.count_append,
    count_doubled other, List.count_cons_of_ne other.symm, List.count_nil, Nat.add_zero]

@[simp] theorem count_sign (s : Sign) : (Token.sign s).chars.count ';' = 0 := by
  cases s <;> decide

/-- No reserved word is spelled with a semicolon. -/
@[simp] theorem Spelling.count_token {k : Keyword} (w : Spelling k) :
    w.token.chars.count ';' = 0 := by
  refine List.count_eq_zero.2 fun mem => ?_
  have spelled : ';' ∈ (Text.capitals w.word).toList := by
    rw [Text.capitals, String.toList_ofList]
    exact List.mem_flatMap.2 ⟨';', mem, by decide⟩
  rw [w.spells] at spelled
  revert spelled
  cases k <;> decide

@[simp] theorem Name.count_token (n : Name) :
    n.token.chars.count ';' = n.word.toList.count ';' :=
  rfl

theorem not_mem_of_digits {cs : List Char} (h : ∀ c ∈ cs, Text.isDecimalDigit c = true) :
    ';' ∉ cs := by
  intro mem
  cases h ';' mem

@[simp] theorem Numeral.count_word (n : Numeral) : n.word.toList.count ';' = 0 := by
  refine List.count_eq_zero.2 fun mem => ?_
  rw [word, String.toList_ofList] at mem
  rcases List.mem_append.1 mem with mem | mem
  · cases minus : n.minus <;> simp [minus] at mem
  · exact not_mem_of_digits n.decimal mem

theorem not_mem_of_exponentOfEnd? {cs : List Char} {e : Int} (h : exponentOfEnd? cs = some e) :
    ';' ∉ cs := by
  cases cs with
  | nil => exact List.not_mem_nil
  | cons mark rest =>
      simp only [exponentOfEnd?, Option.ite_none_right_eq_some, Option.ite_none_left_eq_some] at h
      obtain ⟨marked, decimal, -⟩ := h
      have unmarked : ';' ≠ mark := by rintro rfl; revert marked; decide
      suffices ';' ∉ rest by simp [unmarked, this]
      split at decimal <;>
        simp_all [not_mem_of_digits]

/-- The digits that a text starts with and the rest of it have its characters. -/
theorem not_mem_of_digits_append {cs : List Char}
    (rest : ';' ∉ cs.dropWhile Text.isDecimalDigit) : ';' ∉ cs := by
  rw [← List.takeWhile_append_dropWhile (p := Text.isDecimalDigit) (l := cs), List.mem_append]
  rintro (mem | mem)
  · exact not_mem_of_digits (fun c => List.mem_takeWhile_imp) mem
  · exact rest mem

theorem not_mem_of_decimalOfDigits? {cs : List Char} {d : Decimal}
    (h : decimalOfDigits? cs = some d) : ';' ∉ cs := by
  refine not_mem_of_digits_append ?_
  simp only [decimalOfDigits?] at h
  split at h
  · rename_i fraction point
    rw [point, List.mem_cons, not_or]
    refine ⟨by decide, not_mem_of_digits_append ?_⟩
    obtain ⟨-, h⟩ := Option.ite_none_left_eq_some.1 h
    split at h
    · rename_i none
      simp [none]
    · obtain ⟨e, read, -⟩ := Option.map_eq_some_iff.1 h
      exact not_mem_of_exponentOfEnd? read
  · obtain ⟨-, h⟩ := Option.ite_none_left_eq_some.1 h
    obtain ⟨e, read, -⟩ := Option.map_eq_some_iff.1 h
    exact not_mem_of_exponentOfEnd? read

theorem not_mem_of_floatOfWord? {word : String} {x : Binary64} (h : floatOfWord? word = some x) :
    ';' ∉ word.toList := by
  obtain ⟨d, read, -⟩ := Option.map_eq_some_iff.1 h
  rw [← splitMinus_append word.toList]
  intro mem
  rcases List.mem_append.1 mem with mem | mem
  · cases minus : (splitMinus word.toList).1 <;> simp [minus] at mem
  · exact not_mem_of_decimalOfDigits? read mem

/-! ### Semicolons of phrases

What a phrase has in its tokens it has in the strings of what it stands for, by recursion on the
tree. -/

@[simp] theorem LiteralTree.count_token (t : LiteralTree) :
    t.token.chars.count ';' = semicolonsIn t.value.strings := by
  cases t with
  | string mark content => simp [token, value, Value.strings]
  | true word => simp [token, value, Value.strings]
  | false word => simp [token, value, Value.strings]
  | null word => simp [token, value, Value.strings]
  | integer name n writes => simp [token, value, Value.strings, Value.int, ← writes]
  | float name x notInteger writes =>
      simpa [token, value, Value.strings] using
        List.count_eq_zero.2 (not_mem_of_floatOfWord? writes)

theorem LiteralTree.semicolons (t : LiteralTree) :
    semicolonsOf t.tokens = semicolonsIn t.value.strings := by
  simp [tokens]

@[simp] theorem OperandTree.count_token (t : OperandTree) :
    t.token.chars.count ';' = semicolonsIn t.value.strings := by
  cases t with
  | literal t => exact t.count_token
  | field name notInteger notFloat => simp [token, value, Operand.strings]

/-- Phrases with commas between them have the semicolons of the phrases. -/
theorem Commas.semicolons {T α : Type} {write : T → List Token} {value : T → α}
    {strings : α → List String}
    (each : ∀ t, semicolonsOf (write t) = semicolonsIn (strings (value t))) (ts : Commas T) :
    semicolonsOf (ts.tokens write) = semicolonsIn ((ts.values value).flatMap strings) := by
  induction ts with
  | last t => simp [tokens, values, each]
  | more t rest ih => simp [tokens, values, each, ih]

theorem flatMap_semicolons {T α : Type} {write : T → List Token} {value : T → α}
    {strings : α → List String}
    (each : ∀ t, semicolonsOf (write t) = semicolonsIn (strings (value t))) (ts : List T) :
    semicolonsOf (ts.flatMap write) = semicolonsIn ((ts.map value).flatMap strings) := by
  induction ts with
  | nil => rfl
  | cons t ts ih => simp [each, ih]

@[simp] theorem optionalWord_semicolons {k : Keyword} (w : Option (Spelling k)) :
    semicolonsOf (optionalWord w) = 0 := by
  cases w <;> simp [optionalWord, optional]

theorem PredicateTree.semicolons (t : PredicateTree) :
    semicolonsOf t.tokens = semicolonsIn t.condition.strings := by
  cases t with
  | isNull operand isWord notWord nullWord => simp [tokens, condition, Condition.strings]
  | inList operand notWord inWord values =>
      have literals := Commas.semicolons LiteralTree.semicolons values
      simp [tokens, condition, Condition.strings, literals]
  | like operand notWord likeWord mark pattern => simp [tokens, condition, Condition.strings]
  | ilike operand notWord likeWord mark pattern => simp [tokens, condition, Condition.strings]
  | compare left op right => simp [tokens, condition, Condition.strings]

mutual

theorem OrTree.semicolons :
    ∀ t : OrTree, semicolonsOf t.tokens = semicolonsIn t.condition.strings
  | .single t => t.semicolons
  | .or t word rest => by
      simp [OrTree.tokens, OrTree.condition, Condition.strings, Condition.stringsOfAll, t.semicolons,
        rest.semicolons_parts]

theorem OrTree.semicolons_parts :
    ∀ t : OrTree, semicolonsOf t.tokens = semicolonsIn (Condition.stringsOfAll t.parts)
  | .single t => by simp [OrTree.tokens, OrTree.parts, Condition.stringsOfAll, t.semicolons]
  | .or t word rest => by
      simp [OrTree.tokens, OrTree.parts, Condition.stringsOfAll, t.semicolons, rest.semicolons_parts]

theorem AndTree.semicolons :
    ∀ t : AndTree, semicolonsOf t.tokens = semicolonsIn t.condition.strings
  | .single t => t.semicolons
  | .and t word rest => by
      simp [AndTree.tokens, AndTree.condition, Condition.strings, Condition.stringsOfAll, t.semicolons,
        rest.semicolons_parts]

theorem AndTree.semicolons_parts :
    ∀ t : AndTree, semicolonsOf t.tokens = semicolonsIn (Condition.stringsOfAll t.parts)
  | .single t => by simp [AndTree.tokens, AndTree.parts, Condition.stringsOfAll, t.semicolons]
  | .and t word rest => by
      simp [AndTree.tokens, AndTree.parts, Condition.stringsOfAll, t.semicolons, rest.semicolons_parts]

theorem NotTree.semicolons :
    ∀ t : NotTree, semicolonsOf t.tokens = semicolonsIn t.condition.strings
  | .not word t => by simp [NotTree.tokens, NotTree.condition, Condition.strings, t.semicolons]
  | .parens t => by simp [NotTree.tokens, NotTree.condition, t.semicolons]
  | .predicate t => t.semicolons

end

/-! ### Semicolons of clauses -/

@[simp] theorem clause_semicolons {k : Keyword} {T α : Type} {write : T → List Token}
    {value : T → α} {strings : α → List String}
    (each : ∀ t, semicolonsOf (write t) = semicolonsIn (strings (value t)))
    (o : Option (Clause k T)) :
    semicolonsOf (optional (Clause.tokens write) o) =
      semicolonsIn ((o.map fun c => value c.body).toList.flatMap strings) := by
  cases o with
  | none => rfl
  | some c => simp [optional, Clause.tokens, each]

@[simp] theorem count_semicolons {k : Keyword} (o : Option (Clause k CountTree)) :
    semicolonsOf (optional (Clause.tokens CountTree.tokens) o) = 0 := by
  cases o with
  | none => rfl
  | some c => simp [optional, Clause.tokens, CountTree.tokens]

@[simp] theorem AliasTree.semicolons (t : AliasTree) :
    semicolonsOf t.tokens = semicolonsIn t.value.toList := by
  cases t <;> simp [tokens, value]

theorem ItemTree.semicolons (t : ItemTree) :
    semicolonsOf t.tokens = semicolonsIn t.value.strings := by
  simp [tokens, value, SelectItem.strings]

@[simp] theorem TableTree.semicolons (t : TableTree) :
    semicolonsOf t.tokens = semicolonsIn t.value.strings := by
  rcases t with ⟨name | quoted, given⟩ <;>
    simp [tokens, value, TableName.token, TableName.value, TableRef.strings]

/-- The column of an array that is given none has no semicolon in its name either. -/
theorem UnnestTree.semicolons (t : UnnestTree) :
    semicolonsOf t.listed = semicolonsIn t.value.strings := by
  rcases t with ⟨unnestWord, field, asWord, given, none | column⟩ <;>
    simp [listed, tokens, value, optional, Unnest.strings]

@[simp] theorem JoinHead.semicolons (t : JoinHead) : semicolonsOf t.tokens = 0 := by
  cases t <;> simp [tokens]

theorem JoinTree.semicolons (t : JoinTree) :
    semicolonsOf t.tokens = semicolonsIn t.value.strings := by
  simp [tokens, value, Join.strings, t.condition.semicolons]

@[simp] theorem DirectionTree.semicolons (t : DirectionTree) : semicolonsOf t.tokens = 0 := by
  cases t <;> simp [tokens]

theorem KeyTree.semicolons (t : KeyTree) :
    semicolonsOf t.tokens = semicolonsIn t.value.strings := by
  simp [tokens, value, OrderKey.strings]

theorem order_semicolons (o : Option (Clause .order (Clause .by (Commas KeyTree)))) :
    semicolonsOf (optional (Clause.tokens (Clause.tokens (Commas.tokens KeyTree.tokens))) o) =
      semicolonsIn ((o.elim [] fun c => c.body.body.values KeyTree.value).flatMap
        OrderKey.strings) := by
  cases o with
  | none => rfl
  | some c => simp [optional, Clause.tokens, Commas.semicolons KeyTree.semicolons]

/-- A query has its semicolons in the names and strings of its plan. -/
theorem QueryTree.semicolons_plan (t : QueryTree) :
    semicolonsOf t.tokens = semicolonsIn t.plan.strings := by
  have items := Commas.semicolons ItemTree.semicolons t.items
  have unnests := flatMap_semicolons UnnestTree.semicolons t.unnests
  have joins := flatMap_semicolons JoinTree.semicolons t.joins
  have condition := clause_semicolons OrTree.semicolons t.condition
  simp [tokens, plan, Plan.strings, items, unnests, joins, condition, order_semicolons]

/-! ### Semicolons of texts -/

/-- A text that is parsed has its semicolons, without those that it ends with, in the names and
strings of the plan. -/
theorem semicolons_of_parse {sql : String} {p : Plan} (h : parse sql = .ok p) :
    (statementText sql).count ';' = semicolonsIn p.strings := by
  rcases bind_eq_ok.1 h with ⟨ts, read, parsed⟩
  rcases ((parseTokens_eq_derivation ts).1 p).1 parsed with ⟨t, rfl, rfl⟩
  rw [(lex_eq_ok_iff.1 read).count_eq (by decide), ← t.semicolons_plan, semicolonsOf]

end Sql

end DocQuery
