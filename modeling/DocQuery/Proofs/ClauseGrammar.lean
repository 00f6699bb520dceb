/-
Module: DocQuery.Proofs.ClauseGrammar
Purpose: The readers of the parts of a query take exactly the phrases of the grammar, each in one
  way.
Main exports: alias_reads, item_reads, table_reads, unnest_repeats, join_repeats, key_reads
-/
import DocQuery.Proofs.ConditionGrammar

namespace DocQuery.Sql

open Outcome

/-! ### Names given by the query

An alias needs no word in front of it: whatever name stands in its place is taken for one.  So what
ends a phrase with an alias is a token that is neither AS nor a name. -/

/-- Where a name may stand, only AS and names go on. -/
def EndsName (t : Token) : Prop :=
  t.keyword? ≠ some .as ∧ t.isIdentifier = false

theorem EndsName.of_keyword {ks : List Keyword} {t : Token} (h : IsOneOf ks t)
    (notAs : .as ∉ ks) : EndsName t :=
  ⟨h.keyword?_ne notAs, h.isIdentifier⟩

theorem endsName_comma : EndsName (.sign .comma) :=
  ⟨nofun, rfl⟩

theorem alias_sound {what : String} {c c' : Cursor} {a : Option String}
    (h : (aliasName what).run c = .ok (a, c')) :
    ∃ t : AliasTree, t.value = a ∧ Span c t.tokens c' := by
  rcases accept_bind_eq_ok.1 h with ⟨w, d, word, h⟩ | ⟨-, h⟩
  · rcases run_bind_eq_ok.1 h with ⟨name, e, readName, done⟩
    rcases identifier_eq_ok.1 readName with ⟨n, rfl, span⟩
    rcases run_pure_eq_ok.1 done with ⟨rfl, rfl⟩
    exact ⟨.as w n, rfl, word.cons span⟩
  cases a with
  | none =>
      rcases acceptIdentifier_eq_none.1 h with ⟨rfl, _⟩
      exact ⟨.none, rfl, Span.nil_iff.2 rfl⟩
  | some name =>
      rcases acceptIdentifier_eq_some.1 h with ⟨n, rfl, span⟩
      exact ⟨.bare n, rfl, span⟩

theorem alias_complete {what : String} {c c' : Cursor} (t : AliasTree) (span : Span c t.tokens c')
    (stop : Before EndsName c'.rest) : (aliasName what).run c = .ok (t.value, c') := by
  cases t with
  | none =>
      obtain rfl := Span.nil_iff.1 span
      apply run_bind_ok (accept_eq_false.2 ⟨rfl, stop.mono fun _ => And.left⟩)
      exact acceptIdentifier_eq_none.2 ⟨rfl, stop.mono fun _ => And.right⟩
  | bare n =>
      have noAs : (accept .as).run c = .ok (false, c) := by
        apply accept_absent span
        simp
      apply run_bind_ok noAs
      exact acceptIdentifier_eq_some.2 ⟨n, rfl, span⟩
  | as w n =>
      rcases Span.cons_iff.1 span with ⟨d, word, span⟩
      apply run_bind_ok (accept_eq_true.2 ⟨w, word⟩)
      apply run_bind_ok (identifier_eq_ok.2 ⟨n, rfl, span⟩)
      rfl

/-- The number of tokens tells the form of an alias. -/
theorem AliasTree.tokens_inj {t u : AliasTree} (same : t.tokens = u.tokens) : t = u := by
  cases t with
  | none =>
      cases u with
      | none => rfl
      | _ => cases same
  | bare n =>
      cases u with
      | none => cases same
      | bare m => rw [Name.token_inj (List.cons.inj same).1]
      | as w m => cases (List.cons.inj same).2
  | as w n =>
      cases u with
      | none => cases same
      | bare m => cases (List.cons.inj same).2
      | as v m =>
          rcases List.cons.inj same with ⟨words, names⟩
          rw [Spelling.token_inj words, Name.token_inj (List.cons.inj names).1]

theorem alias_reads (what : String) :
    Reads (aliasName what) AliasTree.tokens AliasTree.value EndsName :=
  .of_inj alias_sound alias_complete fun same _ => AliasTree.tokens_inj same

/-! ### Entries of the select list

The reader refuses an alias behind an asterisk, and so does the grammar, whose trees carry the proof
that there is none. -/

theorem AliasTree.isSome_value (t : AliasTree) : t.value.isSome = true ↔ t ≠ .none := by
  cases t with
  | none => simp [value]
  | bare n => simp [value]
  | as w n => simp [value]

theorem endsInAsterisk_iff (source : String) :
    endsInAsterisk source = true ↔ source.toList.getLast? = some '*' :=
  decide_eq_true_iff

theorem item_sound {c c' : Cursor} {a : SelectItem} (h : selectItem.run c = .ok (a, c')) :
    ∃ t : ItemTree, t.value = a ∧ Span c t.tokens c' := by
  rcases run_bind_eq_ok.1 h with ⟨_, d, readName, h⟩
  rcases identifier_eq_ok.1 readName with ⟨n, rfl, source⟩
  rcases run_bind_eq_ok.1 h with ⟨_, e, readAlias, h⟩
  rcases (alias_reads _).sound readAlias with ⟨g, rfl, given⟩
  cases refused : g.value.isSome && endsInAsterisk n.word with
  | true =>
      rw [refused] at h
      cases h
  | false =>
      rw [refused] at h
      rcases run_pure_eq_ok.1 h with ⟨rfl, rfl⟩
      have unnamed : n.word.toList.getLast? = some '*' → g = .none := by
        intro star
        rw [(endsInAsterisk_iff _).2 star, Bool.and_true] at refused
        by_contra named
        rw [g.isSome_value.2 named] at refused
        cases refused
      exact ⟨⟨n, g, unnamed⟩, rfl, source.cons given⟩

theorem item_complete {c c' : Cursor} (t : ItemTree) (span : Span c t.tokens c')
    (stop : Before EndsName c'.rest) : selectItem.run c = .ok (t.value, c') := by
  rcases t with ⟨n, g, unnamed⟩
  rcases Span.cons_iff.1 span with ⟨d, source, given⟩
  have accepted : (g.value.isSome && endsInAsterisk n.word) = false := by
    cases star : endsInAsterisk n.word with
    | false => rw [Bool.and_false]
    | true =>
        rw [unnamed ((endsInAsterisk_iff _).1 star)]
        rfl
  apply run_bind_ok (identifier_eq_ok.2 ⟨n, rfl, source⟩)
  apply run_bind_ok ((alias_reads _).complete g given stop)
  rw [accepted]
  rfl

theorem item_reads : Reads selectItem ItemTree.tokens ItemTree.value EndsName := by
  refine .of_inj item_sound item_complete ?_
  rintro ⟨n, g, unnamed⟩ ⟨m, f, unnamed'⟩ same _
  rcases List.cons.inj same with ⟨names, given⟩
  obtain rfl : n = m := Name.token_inj names
  obtain rfl : g = f := (alias_reads "").inj given
  rfl

/-! ### Tables -/

theorem TableName.token_inj {t u : TableName} (h : t.token = u.token) : t = u := by
  cases t with
  | plain n =>
      cases u with
      | plain m => rw [Name.token_inj h]
      | quoted mark content => cases h
  | quoted mark content =>
      cases u with
      | plain m => cases h
      | quoted mark' content' =>
          cases h
          rfl

theorem table_sound {c c' : Cursor} {a : TableRef} (h : tableRef.run c = .ok (a, c')) :
    ∃ t : TableTree, t.value = a ∧ Span c t.tokens c' := by
  rcases run_bind_eq_ok.1 h with ⟨quotedName, d, readQuoted, h⟩
  cases quotedName with
  | some content =>
      rcases acceptQuoted_eq_some.1 readQuoted with ⟨mark, source⟩
      rcases run_bind_eq_ok.1 h with ⟨_, d, readName, h⟩
      rcases run_pure_eq_ok.1 readName with ⟨rfl, rfl⟩
      rcases run_bind_eq_ok.1 h with ⟨_, d, readAlias, done⟩
      rcases (alias_reads _).sound readAlias with ⟨g, rfl, given⟩
      rcases run_pure_eq_ok.1 done with ⟨rfl, rfl⟩
      exact ⟨⟨.quoted mark content, g⟩, rfl, source.cons given⟩
  | none =>
      rcases acceptQuoted_eq_none.1 readQuoted with ⟨rfl, _⟩
      rcases run_bind_eq_ok.1 h with ⟨_, d, readName, h⟩
      rcases identifier_eq_ok.1 readName with ⟨n, rfl, source⟩
      rcases run_bind_eq_ok.1 h with ⟨_, d, readAlias, done⟩
      rcases (alias_reads _).sound readAlias with ⟨g, rfl, given⟩
      rcases run_pure_eq_ok.1 done with ⟨rfl, rfl⟩
      exact ⟨⟨.plain n, g⟩, rfl, source.cons given⟩

theorem table_complete {c c' : Cursor} (t : TableTree) (span : Span c t.tokens c')
    (stop : Before EndsName c'.rest) : tableRef.run c = .ok (t.value, c') := by
  rcases t with ⟨name, g⟩
  rcases Span.cons_iff.1 span with ⟨d, source, given⟩
  have readAlias := (alias_reads "table alias").complete g given stop
  cases name with
  | quoted mark content =>
      apply run_bind_ok (acceptQuoted_eq_some.2 ⟨mark, source⟩)
      apply run_bind_ok rfl
      apply run_bind_ok readAlias
      rfl
  | plain n =>
      have unquoted : acceptQuoted.run c = .ok (none, c) :=
        acceptQuoted_eq_none.2 ⟨rfl, .of_span source nofun⟩
      apply run_bind_ok unquoted
      apply run_bind_ok (identifier_eq_ok.2 ⟨n, rfl, source⟩)
      apply run_bind_ok readAlias
      rfl

theorem table_reads : Reads tableRef TableTree.tokens TableTree.value EndsName := by
  refine .of_inj table_sound table_complete ?_
  rintro ⟨name, g⟩ ⟨name', f⟩ same _
  rcases List.cons.inj same with ⟨names, given⟩
  obtain rfl : name = name' := TableName.token_inj names
  obtain rfl : g = f := (alias_reads "").inj given
  rfl

/-! ### Unnested arrays

Each stands behind a comma, which the tokens of the whole list include.  The column in parentheses
is the last part, so that an opening parenthesis is what goes on with such a phrase. -/

/-- An array's column may be named in parentheses. -/
def EndsUnnest (t : Token) : Prop :=
  t ≠ .sign .openParen

theorem unnest_sound {c c' : Cursor} {a : Unnest} (h : unnest.run c = .ok (a, c')) :
    ∃ t : UnnestTree, t.value = a ∧ Span c t.tokens c' := by
  rcases accept_bind_eq_ok.1 h with ⟨unnestWord, d, word, h⟩ | ⟨-, h⟩
  case inr => cases h
  rcases acceptSign_bind_eq_ok.1 h with ⟨e, opening, h⟩ | ⟨-, h⟩
  case inr => cases h
  rcases run_bind_eq_ok.1 h with ⟨_, f, readField, h⟩
  rcases identifier_eq_ok.1 readField with ⟨field, rfl, fieldSpan⟩
  rcases run_bind_eq_ok.1 h with ⟨_, g, readClose, h⟩
  have closing := expectSign_eq_ok.1 readClose
  rcases run_bind_eq_ok.1 h with ⟨_, i, readAs, h⟩
  rcases (accept_reads .as).sound readAs with ⟨asWord, rfl, as⟩
  rcases run_bind_eq_ok.1 h with ⟨name, j, readName, h⟩
  have head := word.cons (opening.cons (fieldSpan.cons (closing.cons as)))
  -- The array has to be named, and its column may be.
  cases name with
  | none => cases h
  | some name =>
      rcases acceptIdentifier_eq_some.1 readName with ⟨given, rfl, givenSpan⟩
      rcases acceptSign_bind_eq_ok.1 h with ⟨k, opening', h⟩ | ⟨-, h⟩
      · rcases run_bind_eq_ok.1 h with ⟨_, l, readColumn, h⟩
        rcases identifier_eq_ok.1 readColumn with ⟨column, rfl, columnSpan⟩
        rcases run_bind_eq_ok.1 h with ⟨_, m, readClose', done⟩
        have closing' := expectSign_eq_ok.1 readClose'
        rcases run_pure_eq_ok.1 done with ⟨rfl, rfl⟩
        exact ⟨⟨unnestWord, field, asWord, given, some column⟩, rfl,
          head.append (givenSpan.cons (opening'.cons (columnSpan.cons closing')))⟩
      · rcases run_pure_eq_ok.1 h with ⟨rfl, rfl⟩
        exact ⟨⟨unnestWord, field, asWord, given, none⟩, rfl, head.append givenSpan⟩

theorem unnest_complete {c c' : Cursor} (t : UnnestTree) (span : Span c t.tokens c')
    (stop : Before EndsUnnest c'.rest) : unnest.run c = .ok (t.value, c') := by
  rcases t with ⟨unnestWord, field, asWord, given, column⟩
  rcases Span.append_iff.1 span with ⟨d, head, tail⟩
  rcases Span.cons_iff.1 head with ⟨d1, word, head⟩
  rcases Span.cons_iff.1 head with ⟨d2, opening, head⟩
  rcases Span.cons_iff.1 head with ⟨d3, fieldSpan, head⟩
  rcases Span.cons_iff.1 head with ⟨d4, closing, as⟩
  rcases Span.cons_iff.1 tail with ⟨e, givenSpan, tail⟩
  have follows : Before (fun t => t.keyword? ≠ some .as) d.rest :=
    .of_span givenSpan (by simp)
  apply run_bind_ok (accept_eq_true.2 ⟨unnestWord, word⟩)
  apply run_bind_ok (acceptSign_eq_true.2 opening)
  apply run_bind_ok (identifier_eq_ok.2 ⟨field, rfl, fieldSpan⟩)
  apply run_bind_ok (expectSign_eq_ok.2 closing)
  apply run_bind_ok ((accept_reads .as).complete asWord as follows)
  apply run_bind_ok (acceptIdentifier_eq_some.2 ⟨given, rfl, givenSpan⟩)
  cases column with
  | none =>
      obtain rfl := Span.nil_iff.1 tail
      apply run_bind_ok (acceptSign_eq_false.2 ⟨rfl, stop⟩)
      rfl
  | some column =>
      rcases Span.cons_iff.1 tail with ⟨e1, opening', tail⟩
      rcases Span.cons_iff.1 tail with ⟨e2, columnSpan, closing'⟩
      apply run_bind_ok (acceptSign_eq_true.2 opening')
      apply run_bind_ok (identifier_eq_ok.2 ⟨column, rfl, columnSpan⟩)
      apply run_bind_ok (expectSign_eq_ok.2 closing')
      rfl

theorem UnnestTree.tokens_inj {t u : UnnestTree} (same : t.tokens = u.tokens) : t = u := by
  rcases t with ⟨unnestWord, field, asWord, given, column⟩
  rcases u with ⟨unnestWord', field', asWord', given', column'⟩
  simp only [tokens, List.cons_append] at same
  rcases List.cons.inj same with ⟨words, same⟩
  rcases List.cons.inj (List.cons.inj same).2 with ⟨fields, same⟩
  have follows (n : Name) (r : List Token) :
      Before (fun t => t.keyword? ≠ some .as) (n.token :: r) :=
    Before.cons_iff.2 (by simp)
  obtain ⟨ases, same⟩ :=
    (accept_reads .as).split (List.cons.inj same).2 (follows _ _) (follows _ _)
  rcases List.cons.inj same with ⟨names, columns⟩
  have column_eq : column = column' := by
    cases column with
    | none =>
        cases column' with
        | none => rfl
        | some n => cases columns
    | some m =>
        cases column' with
        | none => cases columns
        | some n => rw [Name.token_inj (List.cons.inj (List.cons.inj columns).2).1]
  rw [Spelling.token_inj words, Name.token_inj fields, ases, Name.token_inj names, column_eq]

theorem unnest_reads : Reads unnest UnnestTree.tokens UnnestTree.value EndsUnnest :=
  .of_inj unnest_sound unnest_complete fun same _ => UnnestTree.tokens_inj same

theorem unnest_repeats :
    Repeats (acceptSign .comma) unnest UnnestTree.listed UnnestTree.value EndsUnnest
      (fun t => t ≠ .sign .comma) where
  stay h := (acceptSign_eq_false.1 h).1
  sound := by
    intro c d c' a start read
    rcases unnest_reads.sound read with ⟨t, rfl, span⟩
    exact ⟨t, rfl, (acceptSign_eq_true.1 start).cons span⟩
  complete := by
    intro c c' t span stop
    rcases Span.cons_iff.1 span with ⟨d, comma, span⟩
    exact ⟨d, acceptSign_eq_true.2 comma, unnest_reads.complete t span stop⟩
  unique := by
    intro t u r r' same stop stop'
    exact unnest_reads.unique (List.cons.inj same).2 stop stop'
  stop h := acceptSign_eq_false.2 ⟨rfl, h⟩
  first t := ⟨.sign .comma, t.tokens, rfl, nofun⟩

/-! ### Joins

A join is recognized by one word without being read, so that the list of joins is read by looking
ahead, unlike that of the arrays.  The words in front of JOIN are a phrase of their own. -/

theorem head_sound {c c' : Cursor} {a : JoinKind} (h : joinKind.run c = .ok (a, c')) :
    ∃ t : JoinHead, t.kind = a ∧ Span c t.tokens c' := by
  rcases accept_bind_eq_ok.1 h with ⟨w, d, word, h⟩ | ⟨-, h⟩
  · rcases run_pure_eq_ok.1 h with ⟨rfl, rfl⟩
    exact ⟨.inner w, rfl, word⟩
  rcases accept_bind_eq_ok.1 h with ⟨w, d, word, h⟩ | ⟨-, h⟩
  · rcases run_bind_eq_ok.1 h with ⟨_, e, readOuter, done⟩
    rcases (accept_reads .outer).sound readOuter with ⟨outerWord, rfl, outer⟩
    rcases run_pure_eq_ok.1 done with ⟨rfl, rfl⟩
    exact ⟨.left w outerWord, rfl, word.cons outer⟩
  rcases run_pure_eq_ok.1 h with ⟨rfl, rfl⟩
  exact ⟨.plain, rfl, Span.nil_iff.2 rfl⟩

/-- What JOIN follows is read up to it, since JOIN is neither of the words asked for. -/
theorem head_complete {c c' : Cursor} (t : JoinHead) (span : Span c t.tokens c')
    (stop : Before (fun t => t.keyword? = some .join) c'.rest) :
    joinKind.run c = .ok (t.kind, c') := by
  have absent (k : Keyword) (other : .join ≠ k) :
      Before (fun t => t.keyword? ≠ some k) c'.rest :=
    stop.mono fun t join same => other (Option.some.inj (join.symm.trans same))
  cases t with
  | plain =>
      obtain rfl := Span.nil_iff.1 span
      apply run_bind_ok (accept_eq_false.2 ⟨rfl, absent _ (by decide)⟩)
      apply run_bind_ok (accept_eq_false.2 ⟨rfl, absent _ (by decide)⟩)
      rfl
  | inner w =>
      apply run_bind_ok (accept_eq_true.2 ⟨w, span⟩)
      rfl
  | left w outerWord =>
      have noInner := accept_absent span (w.keyword?_ne (k := .inner) (by decide))
      rcases Span.cons_iff.1 span with ⟨d, word, outer⟩
      apply run_bind_ok noInner
      apply run_bind_ok (accept_eq_true.2 ⟨w, word⟩)
      apply run_bind_ok ((accept_reads .outer).complete outerWord outer (absent _ (by decide)))
      rfl

/-- The kinds tell INNER from LEFT; an inner join may go without its word. -/
theorem JoinHead.tokens_inj {t u : JoinHead} (same : t.tokens = u.tokens)
    (kinds : t.kind = u.kind) : t = u := by
  cases t with
  | plain =>
      cases u with
      | plain => rfl
      | inner w => cases same
      | left w outerWord => cases kinds
  | inner w =>
      cases u with
      | plain => cases same
      | inner v => rw [Spelling.token_inj (List.cons.inj same).1]
      | left v outerWord => cases kinds
  | left w outerWord =>
      cases u with
      | plain => cases kinds
      | inner v => cases kinds
      | left v outerWord' =>
          rcases List.cons.inj same with ⟨words, outers⟩
          rw [Spelling.token_inj words, (accept_reads .outer).inj outers]

theorem head_reads :
    Reads joinKind JoinHead.tokens JoinHead.kind (fun t => t.keyword? = some .join) :=
  .of_inj head_sound head_complete JoinHead.tokens_inj

theorem join_sound {c c' : Cursor} {a : Join} (h : join.run c = .ok (a, c')) :
    ∃ t : JoinTree, t.value = a ∧ Span c t.tokens c' := by
  rcases run_bind_eq_ok.1 h with ⟨_, d, readHead, h⟩
  rcases head_reads.sound readHead with ⟨head, rfl, headSpan⟩
  rcases run_bind_eq_ok.1 h with ⟨_, d, readJoin, h⟩
  rcases expect_eq_ok.1 readJoin with ⟨joinWord, join⟩
  rcases run_bind_eq_ok.1 h with ⟨_, d, readTable, h⟩
  rcases table_reads.sound readTable with ⟨table, rfl, tableSpan⟩
  rcases run_bind_eq_ok.1 h with ⟨_, d, readOn, h⟩
  rcases expect_eq_ok.1 readOn with ⟨onWord, on⟩
  rcases run_bind_eq_ok.1 h with ⟨_, d, readCondition, done⟩
  rcases condition_reads.sound readCondition with ⟨condition, rfl, conditionSpan⟩
  rcases run_pure_eq_ok.1 done with ⟨rfl, rfl⟩
  refine ⟨⟨head, joinWord, table, onWord, condition⟩, rfl, ?_⟩
  exact (headSpan.append (join.cons tableSpan)).append (on.cons conditionSpan)

theorem join_complete {c c' : Cursor} (t : JoinTree) (span : Span c t.tokens c')
    (stop : Before EndsOr c'.rest) : join.run c = .ok (t.value, c') := by
  rcases t with ⟨head, joinWord, table, onWord, condition⟩
  rcases Span.append_iff.1 span with ⟨d3, span, tail⟩
  rcases Span.append_iff.1 span with ⟨d1, headSpan, span⟩
  rcases Span.cons_iff.1 span with ⟨d2, join, tableSpan⟩
  rcases Span.cons_iff.1 tail with ⟨d4, on, conditionSpan⟩
  have headEnds : Before (fun t => t.keyword? = some .join) d1.rest :=
    .of_span join joinWord.keyword?_token
  have tableEnds : Before EndsName d3.rest :=
    .of_span on (.of_keyword (onWord.isOneOf (List.mem_singleton_self _)) (by decide))
  apply run_bind_ok (head_reads.complete head headSpan headEnds)
  apply run_bind_ok (expect_eq_ok.2 ⟨joinWord, join⟩)
  apply run_bind_ok (table_reads.complete table tableSpan tableEnds)
  apply run_bind_ok (expect_eq_ok.2 ⟨onWord, on⟩)
  apply run_bind_ok (condition_reads.complete condition conditionSpan stop)
  rfl

theorem JoinTree.tokens_inj {t u : JoinTree} (same : t.tokens = u.tokens) : t = u := by
  rcases t with ⟨head, joinWord, table, onWord, condition⟩
  rcases u with ⟨head', joinWord', table', onWord', condition'⟩
  simp only [tokens, List.append_assoc, List.cons_append] at same
  have headEnds (w : Spelling .join) (r : List Token) :
      Before (fun t => t.keyword? = some .join) (w.token :: r) :=
    Before.cons_iff.2 w.keyword?_token
  have tableEnds (w : Spelling .on) (r : List Token) : Before EndsName (w.token :: r) :=
    Before.cons_iff.2 (.of_keyword (w.isOneOf (List.mem_singleton_self _)) (by decide))
  rcases head_reads.split same (headEnds _ _) (headEnds _ _) with ⟨heads, same⟩
  rcases List.cons.inj same with ⟨joins, same⟩
  rcases table_reads.split same (tableEnds _ _) (tableEnds _ _) with ⟨tables, same⟩
  rcases List.cons.inj same with ⟨ons, same⟩
  rw [heads, Spelling.token_inj joins, tables, Spelling.token_inj ons, condition_reads.inj same]

theorem join_reads : Reads join JoinTree.tokens JoinTree.value EndsOr :=
  .of_inj join_sound join_complete fun same _ => JoinTree.tokens_inj same

/-- The words that a join can start with. -/
def joinStarts : List Keyword :=
  [.inner, .left, .join]

theorem seesJoin_eq_true {c c' : Cursor} :
    seesJoin.run c = .ok (true, c') ↔
      c = c' ∧ ∃ t, c.rest.head? = some t ∧ IsOneOf joinStarts t := by
  obtain ⟨seen, run, means⟩ : ∃ seen, seesJoin.run c = .ok (seen, c) ∧
      (seen = true ↔ ∃ t, c.rest.head? = some t ∧ IsOneOf joinStarts t) := by
    refine ⟨_, rfl, ?_⟩
    cases c.rest.head? with
    | none => simp
    | some t => simp [IsOneOf, joinStarts, or_assoc]
  rw [run, ← means, Except.ok.injEq, Prod.mk.injEq, and_comm]

theorem seesJoin_eq_false {c c' : Cursor} :
    seesJoin.run c = .ok (false, c') ↔
      c = c' ∧ Before (fun t => ¬ IsOneOf joinStarts t) c.rest := by
  obtain ⟨seen, run, means⟩ : ∃ seen, seesJoin.run c = .ok (seen, c) ∧
      (seen = false ↔ Before (fun t => ¬ IsOneOf joinStarts t) c.rest) := by
    refine ⟨_, rfl, ?_⟩
    rw [Before]
    cases c.rest.head? with
    | none => simp
    | some t => simp [IsOneOf, joinStarts, and_assoc]
  rw [run, ← means, Except.ok.injEq, Prod.mk.injEq, and_comm]

theorem JoinTree.exists_head (t : JoinTree) :
    ∃ u us, t.tokens = u :: us ∧ IsOneOf joinStarts u := by
  rcases t with ⟨head, joinWord, table, onWord, condition⟩
  cases head with
  | plain => exact ⟨_, _, rfl, joinWord.isOneOf (by decide)⟩
  | inner w => exact ⟨_, _, rfl, w.isOneOf (by decide)⟩
  | left w outerWord => exact ⟨_, _, rfl, w.isOneOf (by decide)⟩

theorem join_repeats :
    Repeats seesJoin join JoinTree.tokens JoinTree.value EndsOr
      (fun t => ¬ IsOneOf joinStarts t) where
  stay h := (seesJoin_eq_false.1 h).1
  sound := by
    intro c d c' a start read
    rcases seesJoin_eq_true.1 start with ⟨rfl, _⟩
    exact join_reads.sound read
  complete := by
    intro c c' t span stop
    rcases t.exists_head with ⟨u, us, head, starts⟩
    have first : c.rest.head? = some u := by
      rw [span.1, head]
      rfl
    exact ⟨c, seesJoin_eq_true.2 ⟨rfl, u, first, starts⟩, join_reads.complete t span stop⟩
  unique := join_reads.unique
  stop h := seesJoin_eq_false.2 ⟨rfl, h⟩
  first t := by
    rcases t.exists_head with ⟨u, us, head, starts⟩
    exact ⟨u, us, head, .of_keyword starts (by decide) (by decide)⟩

/-! ### Sort keys -/

/-- A sort key goes on with its direction. -/
def EndsKey (t : Token) : Prop :=
  t.keyword? ≠ some .asc ∧ t.keyword? ≠ some .desc

theorem direction_sound {c c' : Cursor} {a : Direction} (h : direction.run c = .ok (a, c')) :
    ∃ t : DirectionTree, t.value = a ∧ Span c t.tokens c' := by
  rcases accept_bind_eq_ok.1 h with ⟨w, d, word, h⟩ | ⟨-, h⟩
  · rcases run_pure_eq_ok.1 h with ⟨rfl, rfl⟩
    exact ⟨.asc w, rfl, word⟩
  rcases accept_bind_eq_ok.1 h with ⟨w, d, word, h⟩ | ⟨-, h⟩
  · rcases run_pure_eq_ok.1 h with ⟨rfl, rfl⟩
    exact ⟨.desc w, rfl, word⟩
  rcases run_pure_eq_ok.1 h with ⟨rfl, rfl⟩
  exact ⟨.none, rfl, Span.nil_iff.2 rfl⟩

theorem direction_complete {c c' : Cursor} (t : DirectionTree) (span : Span c t.tokens c')
    (stop : Before EndsKey c'.rest) : direction.run c = .ok (t.value, c') := by
  cases t with
  | none =>
      obtain rfl := Span.nil_iff.1 span
      apply run_bind_ok (accept_eq_false.2 ⟨rfl, stop.mono fun _ => And.left⟩)
      apply run_bind_ok (accept_eq_false.2 ⟨rfl, stop.mono fun _ => And.right⟩)
      rfl
  | asc w =>
      apply run_bind_ok (accept_eq_true.2 ⟨w, span⟩)
      rfl
  | desc w =>
      have noAsc := accept_absent span (w.keyword?_ne (k := .asc) (by decide))
      apply run_bind_ok noAsc
      apply run_bind_ok (accept_eq_true.2 ⟨w, span⟩)
      rfl

/-- The directions tell ASC from DESC; ascending order may go without its word. -/
theorem DirectionTree.tokens_inj {t u : DirectionTree} (same : t.tokens = u.tokens)
    (values : t.value = u.value) : t = u := by
  cases t with
  | none =>
      cases u with
      | none => rfl
      | asc w => cases same
      | desc w => cases values
  | asc w =>
      cases u with
      | none => cases same
      | asc v => rw [Spelling.token_inj (List.cons.inj same).1]
      | desc v => cases values
  | desc w =>
      cases u with
      | none => cases values
      | asc v => cases values
      | desc v => rw [Spelling.token_inj (List.cons.inj same).1]

theorem direction_reads : Reads direction DirectionTree.tokens DirectionTree.value EndsKey :=
  .of_inj direction_sound direction_complete DirectionTree.tokens_inj

theorem key_reads : Reads orderKey KeyTree.tokens KeyTree.value EndsKey := by
  refine .of_inj ?_ ?_ ?_
  · intro c c' a h
    rcases run_bind_eq_ok.1 h with ⟨_, d, readField, h⟩
    rcases identifier_eq_ok.1 readField with ⟨field, rfl, fieldSpan⟩
    rcases run_bind_eq_ok.1 h with ⟨_, d, readDirection, done⟩
    rcases direction_reads.sound readDirection with ⟨t, rfl, span⟩
    rcases run_pure_eq_ok.1 done with ⟨rfl, rfl⟩
    exact ⟨⟨field, t⟩, rfl, fieldSpan.cons span⟩
  · rintro c c' ⟨field, t⟩ span stop
    rcases Span.cons_iff.1 span with ⟨d, fieldSpan, span⟩
    apply run_bind_ok (identifier_eq_ok.2 ⟨field, rfl, fieldSpan⟩)
    apply run_bind_ok (direction_reads.complete t span stop)
    rfl
  · rintro ⟨field, t⟩ ⟨field', t'⟩ same _
    rcases List.cons.inj same with ⟨fields, directions⟩
    have field_eq : field = field' := Name.token_inj fields
    have direction_eq : t = t' := direction_reads.inj directions
    rw [field_eq, direction_eq]

end DocQuery.Sql
