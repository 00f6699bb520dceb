/-
Module: DocQuery.Proofs.PlanText
Purpose: A plan that can be written as a query is the plan that its text is parsed to.
Main exports: Condition.Writable, Plan.Writable, condition_prints, plan_prints, parse_text
-/
import DocQuery.Proofs.Printing
import DocQuery.Proofs.QueryGrammar

namespace DocQuery

/-! ### Plans that can be written

Conditions on names and values under which a plan has a text.  They are what the grammar asks of
words, said of plans. -/

/-- A condition that can be written: its operands and values can be, and its chains have several
parts. -/
inductive Condition.Writable : Condition → Prop
  | compare {left right : Operand} {o : Comparator} (hl : left.Writable)
      (supported : o.isSupported = true) (hr : right.Writable) :
      Condition.Writable (.compare left o right)
  | and {children : List Condition} (several : 2 ≤ children.length)
      (all : ∀ c ∈ children, Condition.Writable c) : Condition.Writable (.and children)
  | or {children : List Condition} (several : 2 ≤ children.length)
      (all : ∀ c ∈ children, Condition.Writable c) : Condition.Writable (.or children)
  | not {child : Condition} (h : Condition.Writable child) : Condition.Writable (.not child)
  | isNull {o : Operand} (h : o.Writable) (negated : Bool) :
      Condition.Writable (.isNull o negated)
  | inList {o : Operand} {values : List Value} (h : o.Writable) (nonempty : values ≠ [])
      (all : ∀ v ∈ values, v.IsLiteral) (negated : Bool) :
      Condition.Writable (.inList o values negated)
  | like {o : Operand} (h : o.Writable) (pattern : String) (ignoreCase negated : Bool) :
      Condition.Writable (.like o pattern ignoreCase negated)

/-- A table whose name and alias can be written as they are. -/
structure TableRef.Writable (t : TableRef) : Prop where
  name : IsName t.name
  given : ∀ a, t.aliasName = some a → IsName a

structure Unnest.Writable (u : Unnest) : Prop where
  arrayField : IsName u.arrayField
  aliasName : IsName u.aliasName
  column : IsName u.column

structure Join.Writable (j : Join) : Prop where
  table : j.table.Writable
  on : j.on.Writable

/-- An entry of the select list that can be written; one that ends in an asterisk has no alias. -/
structure SelectItem.Writable (item : SelectItem) : Prop where
  source : IsName item.source
  given : ∀ a, item.aliasName = some a → IsName a
  unnamed : item.source.toList.getLast? = some '*' → item.aliasName = none

/-- A plan that can be written as a query. -/
structure Plan.Writable (p : Plan) : Prop where
  table : p.table.Writable
  unnests : ∀ u ∈ p.unnests, u.Writable
  joins : ∀ j ∈ p.joins, j.Writable
  condition : ∀ c, p.condition = some c → c.Writable
  nonempty : p.select ≠ []
  select : ∀ item ∈ p.select, item.Writable
  orderBy : ∀ key ∈ p.orderBy, IsName key.field
  limit : ∀ v, p.limit = some v → ∃ n : Int, 0 ≤ n ∧ v = .int n

theorem IsName.ne_empty {name : String} (h : IsName name) : name ≠ "" := by
  rintro rfl
  exact h.written.1 rfl

namespace Sql

/-! ### Lists

A list that is printed with separators is a list of phrases, if each of its items is a phrase. -/

/-- Phrases with commas between them, from a first one and the others. -/
def Commas.ofList {T : Type} (t : T) : List T → Commas T
  | [] => .last t
  | u :: us => .more t (ofList u us)

namespace Commas

variable {T α : Type}

theorem tokens_ofList (write : T → List Token) (t : T) (us : List T) :
    (ofList t us).tokens write = write t ++ us.flatMap fun u => .sign .comma :: write u := by
  induction us generalizing t with
  | nil => simp [ofList, tokens]
  | cons u us ih => simp [ofList, tokens, ih]

theorem values_ofList (value : T → α) (t : T) (us : List T) :
    (ofList t us).values value = value t :: us.map value := by
  induction us generalizing t with
  | nil => rfl
  | cons u us ih => rw [ofList, values, ih, List.map_cons]

end Commas

section

variable {T α : Type} {text : α → String} {value : T → α} {tokens : T → List Token}

/-- If each item of a list is printed as a phrase, then the list is printed as phrases. -/
theorem exists_phrases {xs : List α}
    (h : ∀ x ∈ xs, ∃ t, value t = x ∧ Prints (text x) (tokens t)) :
    ∃ ts : List T, ts.map value = xs ∧ List.Forall₂ Prints (xs.map text) (ts.map tokens) := by
  induction xs with
  | nil => exact ⟨[], rfl, .nil⟩
  | cons x xs ih =>
      obtain ⟨t, rfl, first⟩ := h x List.mem_cons_self
      obtain ⟨ts, rfl, rest⟩ := ih fun y hy => h y (List.mem_cons_of_mem _ hy)
      exact ⟨t :: ts, rfl, .cons first rest⟩

/-- A list that is not empty, printed with commas. -/
theorem commas_prints {xs : List α} (nonempty : xs ≠ [])
    (h : ∀ x ∈ xs, ∃ t, value t = x ∧ Prints (text x) (tokens t)) :
    ∃ ts : Commas T, ts.values value = xs ∧
      Prints (", ".intercalate (xs.map text)) (ts.tokens tokens) := by
  obtain ⟨ts, rfl, prints⟩ := exists_phrases h
  cases ts with
  | nil => exact absurd rfl nonempty
  | cons t ts =>
      cases prints with
      | cons first rest =>
          refine ⟨.ofList t ts, Commas.values_ofList value t ts, ?_⟩
          rw [Commas.tokens_ofList]
          simpa [List.flatMap_map] using first.commas rest

end

/-! ### Conditions

By induction on the condition that can be written: each constructor is printed as one phrase of the
grammar, and a chain gets parentheses around it. -/

/-- The word of a negated condition. -/
def notWord (negated : Bool) : Option (Spelling .not) :=
  if negated then some (.capitals .not) else none

@[simp] theorem isSome_notWord (negated : Bool) : (notWord negated).isSome = negated := by
  cases negated <;> rfl

/-- The word of a negated condition, in front of the rest of it. -/
theorem negation_prints (negated : Bool) {b : String} {ts : List Token} (hb : Prints b ts) :
    Prints (DocQuery.negation negated ++ b) (optionalWord (notWord negated) ++ ts) := by
  cases negated with
  | false => exact Prints.empty.behind rfl hb
  | true =>
      have word : Prints "NOT " (optionalWord (notWord true)) := .of_lex rfl (by decide)
      exact word.behind rfl hb

/-- A condition that is no chain and no negation is printed as the grammar reads it. -/
theorem predicate_prints {c : Condition} (t : PredicateTree) (h : t.condition = c)
    (prints : Prints c.text t.tokens) :
    ∃ t : NotTree, t.condition = c ∧ Prints c.text t.tokens :=
  ⟨.predicate t, h, prints⟩

theorem isNull_prints {o : Operand} {t : OperandTree} (h : Prints o.text [t.token])
    (negated : Bool) :
    Prints (Condition.isNull o negated).text
      (PredicateTree.isNull t (.capitals .is) (notWord negated) (.capitals .null)).tokens := by
  have isWord : Prints " IS " [(Spelling.capitals .is).token] := .of_lex rfl (by decide)
  have nullWord : Prints "NULL" [(Spelling.capitals .null).token] := keyword_prints .null
  have whole := h.around isWord rfl rfl (negation_prints negated nullWord)
  simpa [Condition.text, PredicateTree.tokens, String.append_assoc] using whole

theorem inList_prints {o : Operand} {t : OperandTree} (h : Prints o.text [t.token])
    {values : List Value} {ts : Commas LiteralTree}
    (list : Prints (", ".intercalate (values.map Value.literalText)) (ts.tokens LiteralTree.tokens))
    (negated : Bool) :
    Prints (Condition.inList o values negated).text
      (PredicateTree.inList t (notWord negated) (.capitals .in) ts).tokens := by
  have inWord : Prints "IN (" [(Spelling.capitals .in).token, .sign .openParen] :=
    .of_lex rfl (by decide)
  have closeParen : Prints ")" [.sign .closeParen] := .of_lex rfl (by decide)
  have whole := h.around .blank rfl rfl
    (negation_prints negated (inWord.behind rfl (list.append closeParen (.inr rfl))))
  simpa [Condition.text, PredicateTree.tokens, String.append_assoc] using whole

theorem like_prints {o : Operand} {t : OperandTree} (h : Prints o.text [t.token])
    (pattern : String) (ignoreCase negated : Bool) :
    ∃ tree : PredicateTree, tree.condition = .like t.value pattern ignoreCase negated ∧
      Prints (Condition.like o pattern ignoreCase negated).text tree.tokens := by
  have string := quoted_prints pattern
  cases ignoreCase with
  | false =>
      have word : Prints "LIKE " [(Spelling.capitals .like).token] := .of_lex rfl (by decide)
      refine ⟨.like t (notWord negated) (.capitals .like) .single pattern, ?_, ?_⟩
      · simp [PredicateTree.condition]
      · have whole := h.around .blank rfl rfl (negation_prints negated (word.behind rfl string))
        simpa [Condition.text, PredicateTree.tokens, String.append_assoc] using whole
  | true =>
      have word : Prints "ILIKE " [(Spelling.capitals .ilike).token] := .of_lex rfl (by decide)
      refine ⟨.ilike t (notWord negated) (.capitals .ilike) .single pattern, ?_, ?_⟩
      · simp [PredicateTree.condition]
      · have whole := h.around .blank rfl rfl (negation_prints negated (word.behind rfl string))
        simpa [Condition.text, PredicateTree.tokens, String.append_assoc] using whole

/-- Conditions with AND between them. -/
theorem and_prints {cs : List Condition} (nonempty : cs ≠ [])
    (h : ∀ c ∈ cs, ∃ t : NotTree, t.condition = c ∧ Prints c.text t.tokens) :
    ∃ t : AndTree, t.parts = cs ∧ Prints (" AND ".intercalate (Condition.texts cs)) t.tokens := by
  have word : Prints " AND " [(Spelling.capitals .and).token] := .of_lex rfl (by decide)
  induction cs with
  | nil => exact absurd rfl nonempty
  | cons c cs ih =>
      obtain ⟨t, rfl, first⟩ := h c List.mem_cons_self
      cases cs with
      | nil => exact ⟨.single t, rfl, by simpa [Condition.texts, AndTree.tokens] using first⟩
      | cons d cs =>
          obtain ⟨ts, parts, rest⟩ := ih nofun fun e he => h e (List.mem_cons_of_mem _ he)
          refine ⟨.and t (.capitals .and) ts, by rw [AndTree.parts, parts], ?_⟩
          simpa [Condition.texts, AndTree.tokens, String.intercalate_cons_cons] using
            first.around word rfl rfl rest

/-- Conditions with OR between them, none of which is joined by AND. -/
theorem or_prints {cs : List Condition} (nonempty : cs ≠ [])
    (h : ∀ c ∈ cs, ∃ t : NotTree, t.condition = c ∧ Prints c.text t.tokens) :
    ∃ t : OrTree, t.parts = cs ∧ Prints (" OR ".intercalate (Condition.texts cs)) t.tokens := by
  have word : Prints " OR " [(Spelling.capitals .or).token] := .of_lex rfl (by decide)
  induction cs with
  | nil => exact absurd rfl nonempty
  | cons c cs ih =>
      obtain ⟨t, rfl, first⟩ := h c List.mem_cons_self
      cases cs with
      | nil =>
          refine ⟨.single (.single t), rfl, ?_⟩
          simpa [Condition.texts, OrTree.tokens, AndTree.tokens] using first
      | cons d cs =>
          obtain ⟨ts, parts, rest⟩ := ih nofun fun e he => h e (List.mem_cons_of_mem _ he)
          refine ⟨.or (.single t) (.capitals .or) ts, ?_, ?_⟩
          · rw [OrTree.parts, parts, AndTree.condition]
          · simpa [Condition.texts, OrTree.tokens, AndTree.tokens,
              String.intercalate_cons_cons] using first.around word rfl rfl rest

theorem collapse_of_several {combine : List Condition → Condition} {cs : List Condition}
    (several : 2 ≤ cs.length) : collapse combine cs = combine cs := by
  rcases cs with _ | ⟨c, _ | ⟨d, cs⟩⟩
  · rfl
  · exact absurd several (by simp)
  · rfl

/-- A condition is printed as the grammar reads it, its chains in parentheses. -/
theorem part_prints {c : Condition} (h : c.Writable) :
    ∃ t : NotTree, t.condition = c ∧ Prints c.text t.tokens := by
  induction h with
  | compare hl supported hr =>
      obtain ⟨left, rfl, first⟩ := operand_prints hl
      obtain ⟨op, rfl, sign⟩ := comparator_prints supported
      obtain ⟨right, rfl, second⟩ := operand_prints hr
      exact predicate_prints (.compare left op right) rfl ((first.space sign).space second)
  | and several all ih =>
      -- The parentheses hold a chain of several, which the reader does not collapse.
      obtain ⟨t, rfl, prints⟩ := and_prints (List.ne_nil_of_length_pos (by omega)) ih
      refine ⟨.parens (.single t), ?_, ?_⟩
      · rw [NotTree.condition, OrTree.condition, ← collapse_and, collapse_of_several several]
      · simpa [Condition.text, NotTree.tokens, OrTree.tokens] using prints.parens
  | or several all ih =>
      obtain ⟨t, rfl, prints⟩ := or_prints (List.ne_nil_of_length_pos (by omega)) ih
      refine ⟨.parens t, ?_, ?_⟩
      · rw [NotTree.condition, ← collapse_or, collapse_of_several several]
      · simpa [Condition.text, NotTree.tokens] using prints.parens
  | not h ih =>
      obtain ⟨t, rfl, prints⟩ := ih
      have word : Prints "NOT " [(Spelling.capitals .not).token] := .of_lex rfl (by decide)
      exact ⟨.not (.capitals .not) t, rfl, word.behind rfl prints⟩
  | isNull h negated =>
      obtain ⟨t, rfl, prints⟩ := operand_prints h
      refine predicate_prints _ ?_ (isNull_prints prints negated)
      simp [PredicateTree.condition]
  | inList h nonempty all negated =>
      obtain ⟨t, rfl, prints⟩ := operand_prints h
      obtain ⟨ts, rfl, list⟩ := commas_prints nonempty fun v hv => literal_prints (all v hv)
      refine predicate_prints _ ?_ (inList_prints prints list negated)
      simp [PredicateTree.condition]
  | like h pattern ignoreCase negated =>
      obtain ⟨t, rfl, prints⟩ := operand_prints h
      obtain ⟨t, same, prints⟩ := like_prints prints pattern ignoreCase negated
      exact predicate_prints t same prints

theorem condition_prints {c : Condition} (h : c.Writable) :
    ∃ t : OrTree, t.condition = c ∧ Prints c.text t.tokens := by
  obtain ⟨t, rfl, prints⟩ := part_prints h
  exact ⟨.single (.single t), rfl, by simpa [OrTree.tokens, AndTree.tokens] using prints⟩

/-! ### Clauses

Each clause is printed as one phrase of the grammar.  Where the grammar leaves a choice, such as
that of writing ASC or not, the printed text has always the same. -/

theorem givenAlias?_eq_some {a : String} (h : IsName a) : givenAlias? (some a) = some a := by
  simp [givenAlias?, h.ne_empty]

theorem table_prints {t : TableRef} (h : t.Writable) :
    ∃ tree : TableTree, tree.value = t ∧ Prints t.text tree.tokens := by
  rcases t with ⟨name, _ | given⟩
  · exact ⟨⟨.plain h.name.tree, .none⟩, rfl, h.name.prints⟩
  · have isName := h.given given rfl
    refine ⟨⟨.plain h.name.tree, .bare isName.tree⟩, rfl, ?_⟩
    simpa [TableRef.text, givenAlias?_eq_some isName, TableTree.tokens, TableName.token,
      AliasTree.tokens] using
      h.name.prints.space isName.prints

theorem item_prints {item : SelectItem} (h : item.Writable) :
    ∃ tree : ItemTree, tree.value = item ∧ Prints item.text tree.tokens := by
  rcases item with ⟨source, _ | given⟩
  · exact ⟨⟨h.source.tree, .none, fun _ => rfl⟩, rfl, h.source.prints⟩
  · have isName := h.given given rfl
    have word : Prints " AS " [(Spelling.capitals .as).token] := .of_lex rfl (by decide)
    have named : source.toList.getLast? = some '*' →
        AliasTree.as (.capitals .as) isName.tree = .none := by
      intro asterisk
      cases h.unnamed asterisk
    refine ⟨⟨h.source.tree, .as (.capitals .as) isName.tree, named⟩, rfl, ?_⟩
    simpa [SelectItem.text, givenAlias?_eq_some isName, ItemTree.tokens, AliasTree.tokens] using
      h.source.prints.around word rfl rfl isName.prints

theorem unnest_prints {u : Unnest} (h : u.Writable) :
    ∃ tree : UnnestTree, tree.value = u ∧ Prints u.text tree.tokens := by
  have word : Prints "UNNEST(" [(Spelling.capitals .unnest).token, .sign .openParen] :=
    .of_lex rfl (by decide)
  have asWord : Prints ") AS " [.sign .closeParen, (Spelling.capitals .as).token] :=
    .of_lex rfl (by decide)
  have openParen : Prints "(" [.sign .openParen] := .of_lex rfl (by decide)
  have closeParen : Prints ")" [.sign .closeParen] := .of_lex rfl (by decide)
  refine ⟨⟨.capitals .unnest, h.arrayField.tree, some (.capitals .as), h.aliasName.tree,
    some h.column.tree⟩, rfl, ?_⟩
  have named := (word.behind rfl h.arrayField.prints).around asWord rfl rfl h.aliasName.prints
  exact (named.around openParen rfl rfl h.column.prints).append closeParen (.inr rfl)

theorem join_prints {j : Join} (h : j.Writable) :
    ∃ tree : JoinTree, tree.value = j ∧ Prints j.text tree.tokens := by
  obtain ⟨table, sameTable, tablePrints⟩ := table_prints h.table
  obtain ⟨on, sameOn, onPrints⟩ := condition_prints h.on
  have joinWord : Prints " JOIN " [(Spelling.capitals .join).token] := .of_lex rfl (by decide)
  have onWord : Prints " ON " [(Spelling.capitals .on).token] := .of_lex rfl (by decide)
  have head : ∃ head : JoinHead, head.kind = j.kind ∧ Prints j.kind.text head.tokens := by
    cases j.kind with
    | inner => exact ⟨.inner (.capitals .inner), rfl, keyword_prints .inner⟩
    | left => exact ⟨.left (.capitals .left) none, rfl, keyword_prints .left⟩
  obtain ⟨head, sameKind, headPrints⟩ := head
  refine ⟨⟨head, .capitals .join, table, .capitals .on, on⟩, ?_, ?_⟩
  · rcases j with ⟨_, _, _⟩
    cases sameTable
    cases sameOn
    cases sameKind
    rfl
  · have whole := (headPrints.around joinWord rfl rfl tablePrints).around onWord rfl rfl onPrints
    simpa [Join.text, JoinTree.tokens] using whole

theorem key_prints {key : OrderKey} (h : IsName key.field) :
    ∃ tree : KeyTree, tree.value = key ∧ Prints key.text tree.tokens := by
  rcases key with ⟨field, _ | _⟩
  · exact ⟨⟨h.tree, .asc (.capitals .asc)⟩, rfl, h.prints.space (keyword_prints .asc)⟩
  · exact ⟨⟨h.tree, .desc (.capitals .desc)⟩, rfl, h.prints.space (keyword_prints .desc)⟩

theorem count_prints {n : Int} (nonneg : 0 ≤ n) :
    ∃ tree : CountTree, tree.value = .int n ∧ Prints (Value.int n).plain tree.tokens := by
  have value := Numeral.value_ofInt n
  refine ⟨⟨.ofInt n, value.symm ▸ nonneg⟩, congrArg Value.int value, ?_⟩
  rw [CountTree.tokens, Numeral.word_ofInt]
  exact (integer_isName n).prints

/-! ### Plans

The clauses are printed with blanks between them.  Since the tokens of the text are those of a tree,
what the grammar says of the tree is what parsing gives. -/

theorem flatten_toList {T : Type} (write : T → List Token) (o : Option T) :
    (o.toList.map write).flatten = optional write o := by
  cases o <;> simp [optional]

/-- A clause that may be left out. -/
theorem clause_prints {k : Keyword} {T α : Type} {text : α → String} {value : T → α}
    {tokens : T → List Token} {lead : String} (word : Prints lead [(Spelling.capitals k).token])
    (loose : lead.toList.getLast?.all isLoose = true) {o : Option α}
    (h : ∀ x, o = some x → ∃ t, value t = x ∧ Prints (text x) (tokens t)) :
    ∃ tree : Option (Clause k T), (tree.map fun c => value c.body) = o ∧
      List.Forall₂ Prints (o.map fun x => lead ++ text x).toList
        (tree.toList.map (Clause.tokens tokens)) := by
  cases o with
  | none => exact ⟨none, rfl, .nil⟩
  | some x =>
      obtain ⟨t, rfl, prints⟩ := h x rfl
      exact ⟨some ⟨.capitals k, t⟩, rfl, .cons (word.behind loose prints) .nil⟩

theorem order_prints {keys : List OrderKey} (h : ∀ key ∈ keys, IsName key.field) :
    ∃ tree : Option (Clause .order (Clause .by (Commas KeyTree))),
      (tree.elim [] fun c => c.body.body.values KeyTree.value) = keys ∧
      List.Forall₂ Prints
        (if keys.isEmpty then []
          else ["ORDER BY " ++ ", ".intercalate (keys.map OrderKey.text)])
        (tree.toList.map (Clause.tokens (Clause.tokens (Commas.tokens KeyTree.tokens)))) := by
  cases keys with
  | nil => exact ⟨none, rfl, .nil⟩
  | cons key keys =>
      have words : Prints "ORDER BY "
          [(Spelling.capitals .order).token, (Spelling.capitals .by).token] :=
        .of_lex rfl (by decide)
      obtain ⟨ts, values, prints⟩ :=
        commas_prints (List.cons_ne_nil key keys) fun k hk => key_prints (h k hk)
      exact ⟨some ⟨.capitals .order, ⟨.capitals .by, ts⟩⟩, values,
        .cons (words.behind rfl prints) .nil⟩

/-- A plan is printed as the grammar reads it. -/
theorem plan_prints {p : Plan} (h : p.Writable) :
    ∃ t : QueryTree, t.plan = p ∧ Prints p.text t.tokens := by
  have selectWord : Prints "SELECT " [(Spelling.capitals .select).token] :=
    .of_lex rfl (by decide)
  have fromWord : Prints "FROM " [(Spelling.capitals .from).token] := .of_lex rfl (by decide)
  have whereWord : Prints "WHERE " [(Spelling.capitals .where).token] :=
    .of_lex rfl (by decide)
  have limitWord : Prints "LIMIT " [(Spelling.capitals .limit).token] :=
    .of_lex rfl (by decide)
  -- Each part of the text is that of a phrase, and the phrases make up the tree.
  obtain ⟨items, sameItems, itemPrints⟩ :=
    commas_prints h.nonempty fun item hi => item_prints (h.select item hi)
  obtain ⟨table, sameTable, tablePrints⟩ := table_prints h.table
  obtain ⟨unnests, sameUnnests, unnestPrints⟩ :=
    exists_phrases fun u hu => unnest_prints (h.unnests u hu)
  obtain ⟨joins, sameJoins, joinPrints⟩ := exists_phrases fun j hj => join_prints (h.joins j hj)
  obtain ⟨condition, sameCondition, conditionPrints⟩ :=
    clause_prints whereWord rfl fun c hc => condition_prints (h.condition c hc)
  obtain ⟨order, sameOrder, orderPrints⟩ := order_prints h.orderBy
  obtain ⟨limit, sameLimit, limitPrints⟩ := clause_prints limitWord rfl fun v hv => by
    obtain ⟨n, nonneg, rfl⟩ := h.limit v hv
    exact count_prints nonneg
  refine ⟨⟨.capitals .select, none, items, .capitals .from, table, unnests, joins, condition,
    order, limit, .inl rfl⟩, ?_, ?_⟩
  · rcases p with ⟨_, _, _, _, _, _, _⟩
    simp only at sameItems sameTable sameUnnests sameJoins sameCondition sameOrder sameLimit
    subst_vars
    rfl
  · have clauses := List.rel_append (List.rel_append (List.rel_append joinPrints conditionPrints)
      orderPrints) limitPrints
    have sources := fromWord.behind rfl (tablePrints.commas unnestPrints)
    have whole := (selectWord.behind rfl itemPrints).spaces (.cons sources clauses)
    have noTop : optional (Clause.tokens CountTree.tokens) (none : Option (Clause .top _)) = [] :=
      rfl
    have listed : (unnests.map UnnestTree.tokens).flatMap (fun us => .sign .comma :: us) =
        unnests.flatMap UnnestTree.listed := by
      rw [List.flatMap_map]
      rfl
    have joined : (joins.map JoinTree.tokens).flatten = joins.flatMap JoinTree.tokens :=
      List.flatMap_def.symm
    simpa [Plan.text, QueryTree.tokens, flatten_toList, noTop, listed, joined] using whole

/-- The tokens of a syntax tree are parsed to its plan. -/
theorem parseTokens_tokens (t : QueryTree) : parseTokens t.tokens = .ok t.plan := by
  have span : Span ⟨0, t.tokens⟩ t.tokens ⟨0 + t.tokens.length, []⟩ :=
    ⟨(List.append_nil _).symm, rfl⟩
  exact parseTokens_eq_ok_iff.2 ⟨_, query_complete t span rfl, rfl⟩

end Sql

/-- A plan that can be written is what its text is parsed to. -/
theorem Plan.parse_text {p : Plan} (h : p.Writable) : Sql.parse p.text = .ok p := by
  obtain ⟨t, rfl, prints⟩ := Sql.plan_prints h
  rw [Sql.parse, prints.tokenize]
  exact Sql.parseTokens_tokens t

/-- A query with a mark in a string, a negation and a limit is read back from its text. -/
theorem Plan.parse_text_tags :
    let p : Plan :=
      { table := ⟨"t", some "x"⟩, unnests := [⟨"x.tags", "u", "tag"⟩], joins := []
        condition := some (.and [.compare (.field "tag") .eq (.literal (.string "it's")),
          .not (.isNull (.field "x.id") true)])
        select := [⟨"x.*", none⟩, ⟨"tag", some "label"⟩], orderBy := [⟨"tag", .descending⟩]
        limit := some (.int 3) }
    Sql.parse p.text = .ok p := by
  have name {a : String} (written : a.toList ≠ [] ∧ a.toList.all Sql.isWordChar = true)
      (free : (Sql.Token.word a).isIdentifier = true) (whole : a.toList.getLast? ≠ some ';') :
      IsName a := ⟨⟨written.1, List.all_eq_true.1 written.2⟩, free, whole⟩
  have t : IsName "t" := name (by decide) (by decide) (by decide)
  have x : IsName "x" := name (by decide) (by decide) (by decide)
  have u : IsName "u" := name (by decide) (by decide) (by decide)
  have tag : IsName "tag" := name (by decide) (by decide) (by decide)
  have tags : IsName "x.tags" := name (by decide) (by decide) (by decide)
  have id : IsName "x.id" := name (by decide) (by decide) (by decide)
  have all : IsName "x.*" := name (by decide) (by decide) (by decide)
  have label : IsName "label" := name (by decide) (by decide) (by decide)
  have equal : Condition.Writable (.compare (.field "tag") .eq (.literal (.string "it's"))) :=
    .compare (.field tag (by cbv) (by cbv)) rfl (.literal trivial)
  have given : Condition.Writable (.not (.isNull (.field "x.id") true)) :=
    .not (.isNull (.field id (by cbv) (by cbv)) true)
  exact Plan.parse_text
    { table := ⟨t, by simpa using x⟩
      unnests := by simpa using ⟨tags, u, tag⟩
      joins := by simp
      condition := by simpa using .and (by decide) (by simpa using ⟨equal, given⟩)
      nonempty := by simp
      select := by simpa using ⟨⟨all, by simp, by simp⟩, ⟨tag, by simpa using label, by decide⟩⟩
      orderBy := by simpa using tag
      limit := by simpa using ⟨3, by decide, rfl⟩ }

end DocQuery
