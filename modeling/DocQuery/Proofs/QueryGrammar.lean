/-
Module: DocQuery.Proofs.QueryGrammar
Purpose: The reader of queries takes exactly the queries of the grammar, each in one way.
Main exports: query_sound, query_complete, QueryTree.tokens_inj, parseTokens_eq_derivation
-/
import DocQuery.Proofs.ClauseGrammar

namespace DocQuery.Sql

open Outcome

/-! ### Counts, conditions and sort keys of a query

The remaining clauses, each as a reader of phrases.  They may be left out, and the reader goes on
with the next clause in either case. -/

theorem count_reads (k : Keyword) :
    Reads (count k) CountTree.tokens CountTree.value (fun _ => True) := by
  refine .of_inj count_eq_ok.1 (fun t span _ => count_eq_ok.2 ⟨t, rfl, span⟩) ?_
  intro t u same _
  apply CountTree.ext
  exact Numeral.word_inj (Token.word.inj (List.cons.inj same).1)

/-- A phrase that may be left out, in front of what is read next. -/
theorem clause_bind_eq_ok {α β : Type} {k : Keyword} {p : Parse α} {f : Option α → Parse β}
    {c c' : Cursor} {b : β} :
    (accept k >>= fun given => if given then some <$> p >>= f else pure none >>= f).run c =
        .ok (b, c') ↔
      ∃ o d, (accept k >>= fun given => if given then some <$> p else pure none).run c =
        .ok (o, d) ∧ (f o).run d = .ok (b, c') := by
  rw [← run_bind_eq_ok, bind_assoc]
  have inside : (fun given : Bool => if given then some <$> p >>= f else pure none >>= f) =
      fun given : Bool => (if given then some <$> p else pure none) >>= f := by
    funext given
    cases given <;> rfl
  rw [inside]

theorem keys_reads :
    Reads (separated orderKey (acceptSign .comma)) (Commas.tokens KeyTree.tokens)
      (Commas.values KeyTree.value) (EndsList EndsKey) :=
  key_reads.commas ⟨nofun, nofun⟩

/-- Sort keys are read as a clause that may be left out, and without it there are none. -/
theorem orderBy_eq :
    orderBy = (·.getD []) <$> (accept .order >>= fun given =>
      if given then some <$> (expect .by >>= fun _ => separated orderKey (acceptSign .comma))
      else pure none) := by
  rw [orderBy, map_bind]
  congr 1
  funext given
  cases given with
  | false => rfl
  | true => simp

theorem orderBy_reads :
    Reads orderBy (optional (Clause.tokens (Clause.tokens (Commas.tokens KeyTree.tokens))))
      (fun t : Option (Clause .order (Clause .by (Commas KeyTree))) =>
        t.elim [] fun c => c.body.body.values KeyTree.value)
      (fun t => EndsList EndsKey t ∧ t.keyword? ≠ some .order) := by
  have read := ((keys_reads.led .by).clause .order).map (·.getD [])
  rw [← orderBy_eq] at read
  convert read using 2 with t
  cases t with
  | none => rfl
  | some t => rfl

/-! ### The limit

A limit is refused if there is a count in front already.  So it is read as a clause only if there is
none, and the trees have a proof that there are not two. -/

theorem limit_run (top : Option Value) (c : Cursor) :
    (limit top).run c =
      if c.rest.head?.any (fun t => t.keyword? = some .limit) then
        if top.isSome then .error .topAndLimit else (some <$> count .limit).run c.next
      else .ok (top, c) := by
  cases seen : c.rest.head?.any (fun t => decide (t.keyword? = some .limit)) with
  | false => simp [limit, sees, seen]
  | true =>
      cases top with
      | none => simp [limit, sees, seen, advance_run]
      | some v => simp [limit, sees, seen]

theorem limit_none_run (c : Cursor) :
    (limit none).run c = (accept .limit >>= fun given =>
      if given then some <$> count .limit else pure none).run c := by
  rw [limit_run, StateT.run_bind, accept_run]
  cases c.rest.head?.any (fun t => decide (t.keyword? = some .limit)) with
  | false => rfl
  | true => rfl

/-- A limit is read unless the query has a count already. -/
theorem limit_sound {top v : Option Value} {c c' : Cursor} (h : (limit top).run c = .ok (v, c')) :
    ∃ t : Option (Clause .limit CountTree), (top = none ∨ t = none) ∧
      top.or (t.map fun l => l.body.value) = v ∧
      Span c (optional (Clause.tokens CountTree.tokens) t) c' := by
  cases top with
  | none =>
      rw [limit_none_run] at h
      rcases ((count_reads .limit).clause .limit).sound h with ⟨t, value, span⟩
      exact ⟨t, .inl rfl, value, span⟩
  | some n =>
      rw [limit_run] at h
      cases seen : c.rest.head?.any (fun t => decide (t.keyword? = some .limit)) with
      | true =>
          rw [seen] at h
          cases h
      | false =>
          rw [seen] at h
          cases h
          exact ⟨none, .inr rfl, rfl, Span.nil_iff.2 rfl⟩

theorem limit_complete {top : Option Value} {c c' : Cursor} (t : Option (Clause .limit CountTree))
    (oneCount : top = none ∨ t = none)
    (span : Span c (optional (Clause.tokens CountTree.tokens) t) c') (ended : c'.rest = []) :
    (limit top).run c = .ok (top.or (t.map fun l => l.body.value), c') := by
  cases top with
  | none =>
      have stop : Before (fun t => True ∧ t.keyword? ≠ some .limit) c'.rest := by
        rw [ended]
        exact .nil
      rw [limit_none_run]
      exact ((count_reads .limit).clause .limit).complete t span stop
  | some n =>
      obtain rfl : t = none := oneCount.resolve_left nofun
      obtain rfl := Span.nil_iff.1 span
      rw [limit_run, ended]
      rfl

/-! ### What follows each part of a query

Each part of a query ends where the next one starts, which may be several parts further on.  For
every part it is shown that the rest of the query cannot go on with it. -/

namespace QueryTree

variable (t : QueryTree)

/-- The tokens of a query from its limit on. -/
def fromLimit : List Token :=
  optional (Clause.tokens CountTree.tokens) t.limit

/-- The tokens of a query from its sort keys on. -/
def fromOrder : List Token :=
  optional (Clause.tokens (Clause.tokens (Commas.tokens KeyTree.tokens))) t.order ++ t.fromLimit

/-- The tokens of a query from its condition on. -/
def fromCondition : List Token :=
  optional (Clause.tokens OrTree.tokens) t.condition ++ t.fromOrder

/-- The tokens of a query from its joins on. -/
def fromJoins : List Token :=
  t.joins.flatMap JoinTree.tokens ++ t.fromCondition

/-- The tokens of a query from its unnested arrays on. -/
def fromUnnests : List Token :=
  t.unnests.flatMap UnnestTree.listed ++ t.fromJoins

theorem tokens_eq :
    t.tokens = t.selectWord.token :: (optional (Clause.tokens CountTree.tokens) t.top ++
      (t.items.tokens ItemTree.tokens ++ t.fromWord.token :: (t.table.tokens ++
        t.fromUnnests))) := by
  simp [tokens, fromUnnests, fromJoins, fromCondition, fromOrder, fromLimit]

end QueryTree

/-- A phrase that may be left out starts with its reserved word. -/
theorem before_clause {T : Type} {k : Keyword} {ks : List Keyword} {write : T → List Token}
    (o : Option (Clause k T)) (mem : k ∈ ks) :
    Before (IsOneOf ks) (optional (Clause.tokens write) o) := by
  cases o with
  | none => exact .nil
  | some c => exact Before.cons_iff.2 (c.lead.isOneOf mem)

namespace QueryTree

variable (t : QueryTree)

theorem before_limit : Before (IsOneOf [.limit]) t.fromLimit :=
  before_clause t.limit (by decide)

theorem before_order : Before (IsOneOf [.order, .limit]) t.fromOrder := by
  apply Before.append
  · exact before_clause t.order (by decide)
  · exact t.before_limit.mono fun _ h => h.mono (by decide)

theorem before_condition : Before (IsOneOf [.where, .order, .limit]) t.fromCondition := by
  apply Before.append
  · exact before_clause t.condition (by decide)
  · exact t.before_order.mono fun _ h => h.mono (by decide)

/-- The words that can follow the tables of the FROM clause. -/
def afterTables : List Keyword :=
  joinStarts ++ [.where, .order, .limit]

theorem before_joins : Before (IsOneOf afterTables) t.fromJoins := by
  rw [fromJoins]
  cases t.joins with
  | nil => exact t.before_condition.mono fun _ h => h.mono (by decide)
  | cons j js =>
      rcases j.exists_head with ⟨u, us, head, starts⟩
      rw [List.flatMap_cons, head]
      exact Before.cons_iff.2 (starts.mono (by decide))

theorem before_unnests :
    Before (fun u => u = .sign .comma ∨ IsOneOf afterTables u) t.fromUnnests := by
  rw [fromUnnests]
  cases t.unnests with
  | nil => exact t.before_joins.mono fun _ => .inr
  | cons u us => exact Before.cons_iff.2 (.inl rfl)

theorem endsName_fromUnnests : Before EndsName t.fromUnnests := by
  refine t.before_unnests.mono ?_
  rintro u (rfl | reserved)
  · exact endsName_comma
  · exact .of_keyword reserved (by decide)

theorem endsUnnests_fromJoins :
    Before (fun u => EndsUnnest u ∧ u ≠ .sign .comma) t.fromJoins :=
  t.before_joins.mono fun _ h => ⟨h.ne_sign _, h.ne_sign _⟩

theorem endsJoins_fromCondition :
    Before (fun u => EndsOr u ∧ ¬ IsOneOf joinStarts u) t.fromCondition := by
  have apart : ∀ k ∈ joinStarts, k ∉ [Keyword.where, .order, .limit] := by
    decide
  refine t.before_condition.mono fun u reserved => ?_
  refine ⟨.of_keyword reserved (by decide) (by decide), ?_⟩
  rintro ⟨k, mem, starts⟩
  exact reserved.keyword?_ne (apart k mem) starts

theorem endsCondition_fromOrder :
    Before (fun u => EndsOr u ∧ u.keyword? ≠ some .where) t.fromOrder :=
  t.before_order.mono fun _ h =>
    ⟨.of_keyword h (by decide) (by decide), h.keyword?_ne (by decide)⟩

theorem endsOrder_fromLimit :
    Before (fun u => EndsList EndsKey u ∧ u.keyword? ≠ some .order) t.fromLimit :=
  t.before_limit.mono fun _ h =>
    ⟨⟨⟨h.keyword?_ne (by decide), h.keyword?_ne (by decide)⟩, h.ne_sign _⟩,
      h.keyword?_ne (by decide)⟩

/-- The select list starts with a name. -/
theorem endsTop_items (rest : List Token) :
    Before (fun u => True ∧ u.keyword? ≠ some .top) (t.items.tokens ItemTree.tokens ++ rest) := by
  cases t.items with
  | last item => exact Before.cons_iff.2 ⟨trivial, by simp⟩
  | more item items => exact Before.cons_iff.2 ⟨trivial, by simp⟩

theorem endsItems_from (rest : List Token) :
    Before (EndsList EndsName) (t.fromWord.token :: rest) := by
  have reserved := t.fromWord.isOneOf (List.mem_singleton_self Keyword.from)
  exact Before.cons_iff.2 ⟨.of_keyword reserved (by decide), reserved.ne_sign _⟩

end QueryTree

/-! ### Queries -/

theorem query_sound {c c' : Cursor} {p : Plan} (h : query.run c = .ok (p, c')) :
    ∃ t : QueryTree, t.plan = p ∧ Span c t.tokens c' := by
  rcases run_bind_eq_ok.1 h with ⟨_, d, readSelect, h⟩
  rcases expect_eq_ok.1 readSelect with ⟨selectWord, select⟩
  rcases clause_bind_eq_ok.1 h with ⟨_, d, readTop, h⟩
  rcases ((count_reads .top).clause .top).sound readTop with ⟨top, rfl, topSpan⟩
  -- Each clause is read by a reader of phrases, and the spans of the phrases add up.
  rcases run_bind_eq_ok.1 h with ⟨_, d, readItems, h⟩
  rcases (item_reads.commas endsName_comma).sound readItems with ⟨items, rfl, itemsSpan⟩
  rcases run_bind_eq_ok.1 h with ⟨_, d, readFrom, h⟩
  rcases expect_eq_ok.1 readFrom with ⟨fromWord, from'⟩
  rcases run_bind_eq_ok.1 h with ⟨_, d, readTable, h⟩
  rcases table_reads.sound readTable with ⟨table, rfl, tableSpan⟩
  rcases run_bind_eq_ok.1 h with ⟨_, d, fuel, h⟩
  cases fuel
  rcases run_bind_eq_ok.1 h with ⟨_, d, readUnnests, h⟩
  rcases unnest_repeats.many_sound _ readUnnests with ⟨unnests, rfl, unnestsSpan⟩
  rcases run_bind_eq_ok.1 h with ⟨_, d, fuel, h⟩
  cases fuel
  rcases run_bind_eq_ok.1 h with ⟨_, d, readJoins, h⟩
  rcases join_repeats.many_sound _ readJoins with ⟨joins, rfl, joinsSpan⟩
  rcases clause_bind_eq_ok.1 h with ⟨_, d, readCondition, h⟩
  rcases (condition_reads.clause .where).sound readCondition with ⟨condition, rfl, conditionSpan⟩
  rcases run_bind_eq_ok.1 h with ⟨_, d, readOrder, h⟩
  rcases orderBy_reads.sound readOrder with ⟨order, rfl, orderSpan⟩
  rcases run_bind_eq_ok.1 h with ⟨_, d, readLimit, done⟩
  rcases limit_sound readLimit with ⟨limit, one, rfl, limitSpan⟩
  rcases run_pure_eq_ok.1 done with ⟨rfl, rfl⟩
  have oneCount : top = none ∨ limit = none := one.imp_left Option.map_eq_none_iff.1
  refine ⟨⟨selectWord, top, items, fromWord, table, unnests, joins, condition, order, limit,
    oneCount⟩, rfl, ?_⟩
  exact (((((((select.cons topSpan).append itemsSpan).append (from'.cons tableSpan)).append
    unnestsSpan).append joinsSpan).append conditionSpan).append orderSpan).append limitSpan

theorem query_complete (t : QueryTree) {c c' : Cursor} (span : Span c t.tokens c')
    (ended : c'.rest = []) : query.run c = .ok (t.plan, c') := by
  have rest {d : Cursor} {ts : List Token} (h : Span d ts c') : d.rest = ts := by
    rw [h.1, ended, List.append_nil]
  rw [t.tokens_eq] at span
  -- What follows a phrase is the rest of the query, and it ends the phrase.
  rcases Span.cons_iff.1 span with ⟨d1, select, span⟩
  rcases Span.append_iff.1 span with ⟨d2, top, span1⟩
  rcases Span.append_iff.1 span1 with ⟨d3, items, span2⟩
  rcases Span.cons_iff.1 span2 with ⟨d4, from', span⟩
  rcases Span.append_iff.1 span with ⟨d5, table, span3⟩
  rcases Span.append_iff.1 span3 with ⟨d6, unnests, span4⟩
  rcases Span.append_iff.1 span4 with ⟨d7, joins, span5⟩
  rcases Span.append_iff.1 span5 with ⟨d8, condition, span6⟩
  rcases Span.append_iff.1 span6 with ⟨d9, order, span7⟩
  apply run_bind_ok
  · exact expect_eq_ok.2 ⟨t.selectWord, select⟩
  apply clause_bind_eq_ok.2
  refine ⟨_, d2, ((count_reads .top).clause .top).complete t.top top ?_, ?_⟩
  · rw [rest span1]
    exact t.endsTop_items _
  apply run_bind_ok
  · refine (item_reads.commas endsName_comma).complete t.items items ?_
    rw [rest span2]
    exact t.endsItems_from _
  apply run_bind_ok
  · exact expect_eq_ok.2 ⟨t.fromWord, from'⟩
  apply run_bind_ok
  · refine table_reads.complete t.table table ?_
    rw [rest span3]
    exact t.endsName_fromUnnests
  apply run_bind_ok (a := d5) (d := d5) rfl
  apply run_bind_ok
  · refine unnest_repeats.many_complete t.unnests unnests.length_le unnests ?_
    rw [rest span4]
    exact t.endsUnnests_fromJoins
  apply run_bind_ok (a := d6) (d := d6) rfl
  apply run_bind_ok
  · refine join_repeats.many_complete t.joins joins.length_le joins ?_
    rw [rest span5]
    exact t.endsJoins_fromCondition
  apply clause_bind_eq_ok.2
  refine ⟨_, d8, (condition_reads.clause .where).complete t.condition condition ?_, ?_⟩
  · rw [rest span6]
    exact t.endsCondition_fromOrder
  apply run_bind_ok
  · refine orderBy_reads.complete t.order order ?_
    rw [rest span7]
    exact t.endsOrder_fromLimit
  apply run_bind_ok
  · refine limit_complete t.limit ?_ span7 ended
    exact t.oneCount.imp_left fun none' => by rw [none']; rfl
  · rfl

/-- The tokens of a query tell how it is derived. -/
theorem QueryTree.tokens_inj {t u : QueryTree} (same : t.tokens = u.tokens) : t = u := by
  rw [t.tokens_eq, u.tokens_eq] at same
  -- Phrase after phrase is split off, each told from the rest by the token that ends it.
  rcases List.cons.inj same with ⟨selects, same⟩
  rcases ((count_reads .top).clause .top).split same (t.endsTop_items _) (u.endsTop_items _) with
    ⟨tops, same⟩
  rcases (item_reads.commas endsName_comma).split same (t.endsItems_from _) (u.endsItems_from _)
    with ⟨items, same⟩
  rcases List.cons.inj same with ⟨froms, same⟩
  rcases table_reads.split same t.endsName_fromUnnests u.endsName_fromUnnests with ⟨tables, same⟩
  rcases unnest_repeats.reads.split same t.endsUnnests_fromJoins u.endsUnnests_fromJoins with
    ⟨unnests, same⟩
  rcases join_repeats.reads.split same t.endsJoins_fromCondition u.endsJoins_fromCondition with
    ⟨joins, same⟩
  rcases (condition_reads.clause .where).split same t.endsCondition_fromOrder
    u.endsCondition_fromOrder with ⟨conditions, same⟩
  rcases orderBy_reads.split same t.endsOrder_fromLimit u.endsOrder_fromLimit with ⟨orders, same⟩
  have limits := ((count_reads .limit).clause .limit).inj same
  have select : t.selectWord = u.selectWord := Spelling.token_inj selects
  have from' : t.fromWord = u.fromWord := Spelling.token_inj froms
  rcases t with ⟨_, _, _, _, _, _, _, _, _, _, _⟩
  rcases u with ⟨_, _, _, _, _, _, _, _, _, _, _⟩
  cases select
  cases tops
  cases items
  cases from'
  cases tables
  cases unnests
  cases joins
  cases conditions
  cases orders
  cases limits
  rfl

/-! ### All lists of tokens

A query is parsed if nothing is left behind it.  Everything else is an error, and so the grammar
decides which lists of tokens are queries. -/

/-- A query is parsed if it is read up to the last token. -/
theorem parseTokens_eq_ok_iff {ts : List Token} {p : Plan} :
    parseTokens ts = .ok p ↔ ∃ c, query.run ⟨0, ts⟩ = .ok (p, c) ∧ c.rest = [] := by
  cases ts with
  | nil =>
      constructor
      · intro h
        cases h
      · rintro ⟨c, h, _⟩
        cases h
  | cons t ts =>
      constructor
      · intro h
        rcases bind_eq_ok.1 h with ⟨⟨q, ⟨position, rest⟩⟩, read, done⟩
        cases rest with
        | nil =>
            cases done
            exact ⟨⟨position, []⟩, read, rfl⟩
        | cons u us => cases done
      · rintro ⟨⟨position, rest⟩, read, ended⟩
        cases ended
        exact bind_eq_ok.2 ⟨(p, ⟨position, []⟩), read, rfl⟩

/-- A list of tokens is parsed exactly if the grammar derives it, and then in one way only; the
plan is the one of that derivation.  Every other list of tokens is an error. -/
theorem parseTokens_eq_derivation (ts : List Token) :
    (∀ p, parseTokens ts = .ok p ↔ ∃ t : QueryTree, t.tokens = ts ∧ t.plan = p) ∧
      (∀ t u : QueryTree, t.tokens = ts → u.tokens = ts → t = u) ∧
      ((∀ t : QueryTree, t.tokens ≠ ts) → ∃ e, parseTokens ts = .error e) := by
  have parses (p : Plan) :
      parseTokens ts = .ok p ↔ ∃ t : QueryTree, t.tokens = ts ∧ t.plan = p := by
    rw [parseTokens_eq_ok_iff]
    constructor
    · rintro ⟨c, h, ended⟩
      rcases query_sound h with ⟨t, rfl, span⟩
      refine ⟨t, ?_, rfl⟩
      have whole := span.1
      rw [ended, List.append_nil] at whole
      exact whole.symm
    · rintro ⟨t, rfl, rfl⟩
      have span : Span ⟨0, t.tokens⟩ t.tokens ⟨0 + t.tokens.length, []⟩ :=
        ⟨(List.append_nil _).symm, rfl⟩
      exact ⟨_, query_complete t span rfl, rfl⟩
  refine ⟨parses, ?_, ?_⟩
  · intro t u ht hu
    exact QueryTree.tokens_inj (ht.trans hu.symm)
  · intro underivable
    cases result : parseTokens ts with
    | error e => exact ⟨e, rfl⟩
    | ok p =>
        rcases (parses p).1 result with ⟨t, ht, _⟩
        exact absurd ht (underivable t)

/-- Three conditions joined by OR are one node, and parentheses leave none. -/
example :
    (parseTokens [.word "select", .word "*", .word "From", .word "t", .word "WHERE",
      .word "a", .sign .eq, .word "TRUE", .word "or", .word "b", .sign .lessGreater, .word "NULL",
      .word "Or", .sign .openParen, .word "c", .word "is", .word "null",
      .sign .closeParen]).toOption.bind Plan.condition =
      some (.or [.compare (.field "a") .eq (.literal (.bool true)),
        .compare (.field "b") .ne (.literal .null), .isNull (.field "c") false]) :=
  rfl

end DocQuery.Sql
