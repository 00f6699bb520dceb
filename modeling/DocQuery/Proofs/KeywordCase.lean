/-
Module: DocQuery.Proofs.KeywordCase
Purpose: How the reserved words of a query are spelled, and what stands between its tokens, decides
  nothing about how it is read.
Main exports: Token.Alike, Cursor.Alike, InStep, Blind, query_blind, parse_alike
-/
import DocQuery.Proofs.QuotedContent
import Mathlib.Data.List.Forall2

namespace DocQuery.Sql

open Outcome

/-! ### Numerals and reserved words

A row count is the one place where any token is taken for a text.  No reserved word writes a number
in any spelling, so that its spelling shows in the text of an error only. -/

theorem exists_range_of_digit {c : Char} (h : Text.isDecimalDigit c = true) :
    ∃ r ∈ Text.decimalDigitRanges, r.1 ≤ c.toNat ∧ c.toNat ≤ r.2 := by
  obtain ⟨n, value⟩ := Option.isSome_iff_exists.1 h
  obtain ⟨r, found, -⟩ := Option.map_eq_some_iff.1 value
  refine ⟨r, List.mem_of_find?_eq_some found, ?_⟩
  simpa using List.find?_some found

/-- Decimal digits have no case. -/
theorem asciiUpper_of_digit {c : Char} (h : Text.isDecimalDigit c = true) :
    Text.asciiUpper c = [c] := by
  obtain ⟨r, mem, first, last⟩ := exists_range_of_digit h
  have unlisted : Text.asciiUpperForms.lookup c.toNat = none := by
    have apart : ∀ r ∈ Text.decimalDigitRanges, ∀ f ∈ Text.asciiUpperForms,
        f.1 < r.1 ∨ r.2 < f.1 := by decide
    refine List.lookup_eq_none_iff.2 fun f hf => bne_iff_ne.2 ?_
    have beside := apart r mem f hf
    omega
  have upper : c.toUpper = c := by
    have apart : ∀ r ∈ Text.decimalDigitRanges, r.2 < 'a'.toNat ∨ 'z'.toNat < r.1 := by decide
    refine dif_neg fun letter => ?_
    have low : 'a'.toNat ≤ c.toNat := letter.1
    have high : c.toNat ≤ 'z'.toNat := letter.2
    have beside := apart r mem
    omega
  rw [Text.asciiUpper, unlisted, upper, Option.getD_none]

/-- No reserved word is a numeral. -/
theorem Spelling.integerOfWord?_word {k : Keyword} (w : Spelling k) :
    integerOfWord? w.word = none := by
  refine integerOfWord?_eq_none_iff.2 fun n same => ?_
  have letters : ∀ d ∈ k.text.toList, Text.isDecimalDigit d = false := by
    cases k <;> exact List.all_iff_forall_prop.1 (by decide)
  obtain ⟨d, mem⟩ := List.exists_mem_of_ne_nil _ n.nonempty
  have digit := n.decimal d mem
  have spelled : d ∈ k.text.toList := by
    rw [← w.spells, Text.capitals, String.toList_ofList, List.mem_flatMap]
    refine ⟨d, ?_, ?_⟩
    · rw [← same, Numeral.word, String.toList_ofList]
      exact List.mem_append_right _ mem
    · rw [asciiUpper_of_digit digit]
      exact List.mem_singleton_self d
  rw [letters d spelled] at digit
  cases digit

/-! ### Tokens and cursors that are alike

Two readings go on side by side, at cursors whose tokens are alike.  `InStep` is what a reader
preserves, and `Blind` says that it does so at all such cursors. -/

/-- Two tokens that are the same, or that spell one reserved word. -/
inductive Token.Alike : Token → Token → Prop
  | same (t : Token) : Token.Alike t t
  | spelled {k : Keyword} (a b : Spelling k) : Token.Alike a.token b.token

namespace Token.Alike

variable {t u : Token}

theorem keyword?_eq (h : t.Alike u) : t.keyword? = u.keyword? := by
  cases h with
  | same => rfl
  | spelled a b => rw [a.keyword?_token, b.keyword?_token]

theorem isIdentifier_eq (h : t.Alike u) : t.isIdentifier = u.isIdentifier := by
  cases h with
  | same => rfl
  | spelled a b => rw [a.isIdentifier_token, b.isIdentifier_token]

theorem eq_sign_iff (h : t.Alike u) (s : Sign) : t = .sign s ↔ u = .sign s := by
  cases h with
  | same => rfl
  | spelled a b => exact ⟨nofun, nofun⟩

theorem comparator?_eq (h : t.Alike u) : t.comparator? = u.comparator? := by
  cases h with
  | same => rfl
  | spelled a b => rfl

/-- A name is one token in one spelling. -/
theorem eq_of_isIdentifier (h : t.Alike u) (named : t.isIdentifier = true) : t = u := by
  cases h with
  | same => rfl
  | spelled a b =>
      rw [a.isIdentifier_token] at named
      cases named

/-- TRUE, FALSE and NULL are values in every spelling. -/
theorem tokenOperand_eq (h : t.Alike u) : tokenOperand t = tokenOperand u := by
  cases h with
  | same => rfl
  | @spelled k a b =>
      simp only [Spelling.token, tokenOperand, wordOperand, Spelling.ofWord?_word]
      cases k <;> rfl

theorem integerOfWord?_eq (h : t.Alike u) : integerOfWord? t.text = integerOfWord? u.text := by
  cases h with
  | same => rfl
  | spelled a b => exact a.integerOfWord?_word.trans b.integerOfWord?_word.symm

end Token.Alike

/-- Two cursors with as many tokens behind them and with tokens ahead that are alike. -/
structure Cursor.Alike (c d : Cursor) : Prop where
  position : c.position = d.position
  rest : List.Forall₂ Token.Alike c.rest d.rest

/-- Both queries are at their end, or the next tokens are alike and so are those behind them. -/
theorem Cursor.Alike.cases {c d : Cursor} (h : c.Alike d) :
    (c.rest.head? = none ∧ d.rest.head? = none) ∨
      ∃ t u, c.rest.head? = some t ∧ d.rest.head? = some u ∧ t.Alike u ∧ c.next.Alike d.next := by
  rcases c with ⟨position, ts⟩
  rcases d with ⟨position', us⟩
  obtain ⟨rfl, rest⟩ := h
  cases rest with
  | nil => exact .inl ⟨rfl, rfl⟩
  | cons first rest => exact .inr ⟨_, _, rfl, rfl, first, rfl, rest⟩

/-- How two readings end that started at cursors which are alike: both fail with errors of one kind,
or both read one thing and stop at cursors which are alike. -/
inductive InStep {α : Type} :
    Except ParseError (α × Cursor) → Except ParseError (α × Cursor) → Prop
  | fails {e f : ParseError} (same : e.isCount = f.isCount) : InStep (.error e) (.error f)
  | reads (a : α) {c d : Cursor} (h : c.Alike d) : InStep (.ok (a, c)) (.ok (a, d))

/-- A reader that does not see how reserved words are spelled. -/
def Blind {α : Type} (p : Parse α) : Prop :=
  ∀ c d : Cursor, c.Alike d → InStep (p.run c) (p.run d)

variable {α β : Type}

/-! ### Readers one after another

Blind readers can be put together.  Below, each reader is taken apart as it is defined, and the
proofs follow its branches. -/

namespace Blind

theorem pure (a : α) : Blind (pure a) :=
  fun _ _ h => .reads a h

theorem throw {e : ParseError} : Blind (throw e : Parse α) :=
  fun _ _ _ => .fails rfl

theorem bind {p : Parse α} {f : α → Parse β} (hp : Blind p) (hf : ∀ a, Blind (f a)) :
    Blind (p >>= f) := by
  intro c d h
  have first := hp c d h
  rw [StateT.run_bind, StateT.run_bind]
  generalize p.run c = x at first ⊢
  generalize p.run d = y at first ⊢
  cases first with
  | fails same => exact .fails same
  | reads a h => exact hf a _ _ h

theorem map {p : Parse α} (hp : Blind p) (f : α → β) : Blind (f <$> p) := by
  rw [map_eq_pure_bind]
  exact hp.bind fun a => pure (f a)

/-- The number of tokens that are left does not tell the spellings apart. -/
theorem sized {f : Cursor → Parse α} (h : ∀ c, Blind (f c))
    (size : ∀ c d, c.rest.length = d.rest.length → f c = f d) : Blind (get >>= f) := by
  intro c d alike
  change InStep ((f c).run c) ((f d).run d)
  rw [← size c d alike.rest.length_eq]
  exact h c c d alike

theorem fails {p : Parse α} (h : ∀ c, ∃ e, p.run c = .error e ∧ e.isCount = false) : Blind p := by
  intro c d _
  obtain ⟨e, readC, kindC⟩ := h c
  obtain ⟨f, readD, kindD⟩ := h d
  rw [readC, readD]
  exact .fails (kindC.trans kindD.symm)

end Blind

/-! ### Single tokens

A reader looks at a token through its reserved word, its sign, its string or its name.  All of these
are the same for tokens that are alike. -/

theorem sees_blind (k : Keyword) : Blind (sees k) := by
  intro c d h
  have run (c : Cursor) :
      (sees k).run c = .ok (c.rest.head?.any fun t => t.keyword? = some k, c) := rfl
  rw [run, run]
  rcases h.cases with ⟨headC, headD⟩ | ⟨t, u, headC, headD, alike, -⟩
  · rw [headC, headD]
    exact .reads false h
  · rw [headC, headD, Option.any_some, Option.any_some, alike.keyword?_eq]
    exact .reads _ h

theorem accept_blind (k : Keyword) : Blind (accept k) := by
  intro c d h
  rw [accept_run, accept_run]
  rcases h.cases with ⟨headC, headD⟩ | ⟨t, u, headC, headD, alike, next⟩
  · rw [headC, headD]
    exact .reads false h
  · rw [headC, headD, Option.any_some, Option.any_some, alike.keyword?_eq]
    split
    · exact .reads true next
    · exact .reads false h

theorem acceptSign_blind (s : Sign) : Blind (acceptSign s) := by
  intro c d h
  rw [acceptSign_run, acceptSign_run]
  rcases h.cases with ⟨headC, headD⟩ | ⟨t, u, headC, headD, alike, next⟩
  · rw [headC, headD]
    exact .reads false h
  · simp only [headC, headD, Option.some.injEq, alike.eq_sign_iff]
    split
    · exact .reads true next
    · exact .reads false h

theorem acceptIdentifier_blind : Blind acceptIdentifier := by
  intro c d h
  rw [acceptIdentifier_run, acceptIdentifier_run]
  rcases h.cases with ⟨headC, headD⟩ | ⟨t, u, headC, headD, alike, next⟩
  · rw [headC, headD]
    exact .reads none h
  · rw [headC, headD, Option.any_some, Option.any_some, ← alike.isIdentifier_eq]
    split
    · rename_i named
      rw [alike.eq_of_isIdentifier named]
      exact .reads _ next
    · exact .reads none h

theorem acceptQuoted_blind : Blind acceptQuoted := by
  intro c d h
  rw [acceptQuoted_run, acceptQuoted_run]
  rcases h.cases with ⟨headC, headD⟩ | ⟨t, u, headC, headD, alike, next⟩
  · rw [headC, headD]
    exact .reads none h
  · rw [headC, headD]
    cases alike with
    | spelled a b => exact .reads none h
    | same =>
        split
        · exact .reads _ next
        · exact .reads none h

theorem operand_blind : Blind operand := by
  intro c d h
  rw [operand_run, operand_run]
  rcases h.cases with ⟨headC, headD⟩ | ⟨t, u, headC, headD, alike, next⟩
  · rw [headC, headD]
    exact .fails rfl
  · simp only [headC, headD, alike.tokenOperand_eq]
    split
    · exact .reads _ next
    · exact .fails rfl

theorem comparator_blind : Blind comparator := by
  intro c d h
  rw [comparator_run, comparator_run]
  rcases h.cases with ⟨headC, headD⟩ | ⟨t, u, headC, headD, alike, next⟩
  · rw [headC, headD]
    exact .fails rfl
  · simp only [headC, headD, Option.bind_some, alike.comparator?_eq]
    split
    · exact .reads _ next
    · exact .fails rfl

theorem expect_blind (k : Keyword) : Blind (expect k) := by
  refine (accept_blind k).bind fun accepted => ?_
  cases accepted with
  | false => exact .fails (expected_fails _)
  | true => exact .pure ()

theorem expectSign_blind (s : Sign) : Blind (expectSign s) := by
  refine (acceptSign_blind s).bind fun accepted => ?_
  cases accepted with
  | false => exact .fails (expected_fails _)
  | true => exact .pure ()

theorem identifier_blind (what : String) : Blind (identifier what) := by
  refine acceptIdentifier_blind.bind fun name => ?_
  cases name with
  | none => exact .fails (expectedName_fails what)
  | some name => exact .pure name

/-! ### Lists

By induction on the fuel, which is the same on both sides because as many tokens are left. -/

theorem chain_blind {item : Parse α} {more : Parse Bool} (hItem : Blind item) (hMore : Blind more)
    (fuel : Nat) : Blind (chain item more fuel) := by
  induction fuel with
  | zero => exact hItem.bind fun a => .pure [a]
  | succ fuel ih =>
      refine hItem.bind fun first => hMore.bind fun another => ?_
      cases another with
      | false => exact .pure [first]
      | true => exact ih.bind fun rest => .pure (first :: rest)

theorem separated_blind {item : Parse α} {more : Parse Bool} (hItem : Blind item)
    (hMore : Blind more) : Blind (separated item more) :=
  .sized (fun c => chain_blind hItem hMore c.rest.length) fun c d same => by rw [same]

theorem many_blind {starts : Parse Bool} {item : Parse α} (hStarts : Blind starts)
    (hItem : Blind item) (fuel : Nat) : Blind (many starts item fuel) := by
  induction fuel with
  | zero => exact .pure []
  | succ fuel ih =>
      refine hStarts.bind fun another => ?_
      cases another with
      | false => exact .pure []
      | true => exact hItem.bind fun first => ih.bind fun rest => .pure (first :: rest)

/-! ### Conditions

The readers of conditions call each other through fuel, and the induction is on that. -/

theorem listValue_blind : Blind listValue := by
  refine operand_blind.bind fun o => ?_
  cases o with
  | literal value => exact .pure value
  | field name => exact .throw

theorem valueList_blind : Blind valueList := by
  refine (expectSign_blind .openParen).bind fun _ => ?_
  refine (separated_blind listValue_blind (acceptSign_blind .comma)).bind fun values => ?_
  exact (expectSign_blind .closeParen).bind fun _ => .pure values

theorem pattern_blind : Blind pattern := by
  refine acceptQuoted_blind.bind fun content => ?_
  cases content with
  | none => exact .fails fun c => ⟨_, rfl, rfl⟩
  | some content => exact .pure content

theorem predicateTail_blind (left : Operand) : Blind (predicateTail left) := by
  refine (accept_blind .is).bind fun isNull => ?_
  cases isNull with
  | true =>
      refine (accept_blind .not).bind fun negated => ?_
      exact (expect_blind .null).bind fun _ => .pure _
  | false =>
      refine (accept_blind .not).bind fun negated => ?_
      refine (accept_blind .in).bind fun isList => ?_
      cases isList with
      | true => exact valueList_blind.bind fun values => .pure _
      | false =>
          refine (accept_blind .like).bind fun isLike => ?_
          cases isLike with
          | true => exact pattern_blind.bind fun text => .pure _
          | false =>
              refine (accept_blind .ilike).bind fun isIlike => ?_
              cases isIlike with
              | true => exact pattern_blind.bind fun text => .pure _
              | false =>
                  cases negated with
                  | true => exact .fails fun c => ⟨_, rfl, rfl⟩
                  | false =>
                      refine comparator_blind.bind fun o => ?_
                      exact operand_blind.bind fun right => .pure _

theorem conjunction_blind {item : Parse Condition} (h : Blind item) : Blind (conjunction item) :=
  (separated_blind h (accept_blind .and)).bind fun _ => .pure _

theorem disjunction_blind {item : Parse Condition} (h : Blind item) : Blind (disjunction item) :=
  (separated_blind (conjunction_blind h) (accept_blind .or)).bind fun _ => .pure _

theorem negation_blind (fuel : Nat) : Blind (negation fuel) := by
  induction fuel with
  | zero => exact .throw
  | succ fuel ih =>
      refine (accept_blind .not).bind fun isNegated => ?_
      cases isNegated with
      | true => exact ih.bind fun c => .pure _
      | false =>
          refine (acceptSign_blind .openParen).bind fun isOpen => ?_
          cases isOpen with
          | true =>
              refine (disjunction_blind ih).bind fun c => ?_
              exact (expectSign_blind .closeParen).bind fun _ => .pure c
          | false => exact operand_blind.bind predicateTail_blind

theorem condition_blind : Blind condition :=
  .sized (fun c => disjunction_blind (negation_blind (c.rest.length + 1)))
    fun c d same => by rw [same]

/-! ### Clauses -/

/-- What is read behind any token must not tell its spellings apart. -/
theorem anyToken_bind_blind {text : String} {f : Token → Parse α}
    (h : ∀ t u, t.Alike u → ∀ c d, c.Alike d → InStep ((f t).run c) ((f u).run d)) :
    Blind (anyToken text >>= f) := by
  intro c d hcd
  rw [StateT.run_bind, StateT.run_bind, anyToken_run, anyToken_run]
  rcases hcd.cases with ⟨headC, headD⟩ | ⟨t, u, headC, headD, alike, next⟩
  · rw [headC, headD]
    exact .fails rfl
  · rw [headC, headD]
    exact h t u alike _ _ next

/-- A reserved word in the place of a row count is refused in every spelling. -/
theorem count_blind (k : Keyword) : Blind (count k) := by
  refine anyToken_bind_blind fun t u alike c d h => ?_
  rw [← alike.integerOfWord?_eq]
  cases integerOfWord? t.text with
  | none => exact .fails rfl
  | some n =>
      by_cases negative : n < 0
      · simp only [negative, if_true]
        exact .fails rfl
      · simp only [negative, if_false]
        exact .reads _ h

theorem aliasName_blind (what : String) : Blind (aliasName what) := by
  refine (accept_blind .as).bind fun named => ?_
  cases named with
  | true => exact (identifier_blind what).bind fun name => .pure (some name)
  | false => exact acceptIdentifier_blind

theorem selectItem_blind : Blind selectItem := by
  refine (identifier_blind "column name").bind fun source => ?_
  refine (aliasName_blind "column alias").bind fun given => ?_
  cases given.isSome && endsInAsterisk source with
  | false => exact .pure _
  | true => exact .throw

theorem tableRef_blind : Blind tableRef := by
  refine acceptQuoted_blind.bind fun name => ?_
  cases name with
  | some name => exact (aliasName_blind "table alias").bind fun given => .pure _
  | none =>
      refine (identifier_blind "table name").bind fun name => ?_
      exact (aliasName_blind "table alias").bind fun given => .pure _

theorem unnest_blind : Blind unnest := by
  refine (accept_blind .unnest).bind fun word => ?_
  cases word with
  | false => exact .fails fun c => ⟨_, rfl, rfl⟩
  | true =>
      refine (acceptSign_blind .openParen).bind fun shaped => ?_
      cases shaped with
      | false => exact .throw
      | true =>
          refine (identifier_blind "array field").bind fun field => ?_
          refine (expectSign_blind .closeParen).bind fun _ => ?_
          refine (accept_blind .as).bind fun _ => ?_
          refine acceptIdentifier_blind.bind fun given => ?_
          cases given with
          | none => exact .throw
          | some given =>
              refine (acceptSign_blind .openParen).bind fun named => ?_
              cases named with
              | false => exact .pure _
              | true =>
                  refine (identifier_blind "UNNEST column name").bind fun column => ?_
                  exact (expectSign_blind .closeParen).bind fun _ => .pure _

theorem seesJoin_blind : Blind seesJoin := by
  refine (sees_blind .inner).bind fun inner => ?_
  refine (sees_blind .left).bind fun left => ?_
  exact (sees_blind .join).bind fun join => .pure _

theorem joinKind_blind : Blind joinKind := by
  refine (accept_blind .inner).bind fun inner => ?_
  cases inner with
  | true => exact .pure _
  | false =>
      refine (accept_blind .left).bind fun left => ?_
      cases left with
      | true => exact (accept_blind .outer).bind fun _ => .pure _
      | false => exact .pure _

theorem join_blind : Blind join := by
  refine joinKind_blind.bind fun kind => ?_
  refine (expect_blind .join).bind fun _ => ?_
  refine tableRef_blind.bind fun table => ?_
  refine (expect_blind .on).bind fun _ => ?_
  exact condition_blind.bind fun on => .pure _

theorem direction_blind : Blind direction := by
  refine (accept_blind .asc).bind fun asc => ?_
  cases asc with
  | true => exact .pure _
  | false =>
      refine (accept_blind .desc).bind fun desc => ?_
      cases desc with
      | true => exact .pure _
      | false => exact .pure _

theorem orderKey_blind : Blind orderKey := by
  refine (identifier_blind "ORDER BY column").bind fun field => ?_
  exact direction_blind.bind fun direction => .pure _

theorem orderBy_blind : Blind orderBy := by
  refine (accept_blind .order).bind fun ordered => ?_
  cases ordered with
  | false => exact .pure []
  | true =>
      refine (expect_blind .by).bind fun _ => ?_
      exact separated_blind orderKey_blind (acceptSign_blind .comma)

theorem limit_blind (top : Option Value) : Blind (limit top) := by
  intro c d h
  cases top with
  | none =>
      rw [limit_none_run, limit_none_run]
      refine Blind.bind (accept_blind .limit) (fun given => ?_) c d h
      cases given with
      | false => exact .pure none
      | true => exact (count_blind .limit).map some
  | some n =>
      -- A second count is refused before it is read, so the cursors need not move.
      rw [limit_run, limit_run]
      rcases h.cases with ⟨headC, headD⟩ | ⟨t, u, headC, headD, alike, -⟩
      · rw [headC, headD]
        exact .reads _ h
      · rw [headC, headD, Option.any_some, Option.any_some, alike.keyword?_eq]
        split
        · exact .fails rfl
        · exact .reads _ h

/-- A phrase that may be left out, in front of what is read next. -/
theorem clause_blind {k : Keyword} {p : Parse α} {f : Option α → Parse β} (hp : Blind p)
    (hf : ∀ o, Blind (f o)) :
    Blind (accept k >>= fun given => if given then some <$> p >>= f else pure none >>= f) := by
  refine (accept_blind k).bind fun given => ?_
  cases given with
  | false => exact hf none
  | true => exact (hp.map some).bind hf

theorem query_blind : Blind query := by
  refine (expect_blind .select).bind fun _ => ?_
  refine clause_blind (count_blind .top) fun top => ?_
  refine (separated_blind selectItem_blind (acceptSign_blind .comma)).bind fun select => ?_
  refine (expect_blind .from).bind fun _ => ?_
  refine tableRef_blind.bind fun table => ?_
  refine .sized (fun c => ?_) fun c d same => by rw [same]
  refine (many_blind (acceptSign_blind .comma) unnest_blind _).bind fun unnests => ?_
  refine .sized (fun c => ?_) fun c d same => by rw [same]
  refine (many_blind seesJoin_blind join_blind _).bind fun joins => ?_
  refine clause_blind condition_blind fun on => ?_
  refine orderBy_blind.bind fun order => ?_
  exact (limit_blind top).bind fun limit => .pure _

/-! ### Texts -/

/-- Lists of tokens that are alike make up one query, or none with errors of one kind. -/
theorem parseTokens_alike {ts us : List Token} (h : List.Forall₂ Token.Alike ts us) :
    (∃ p, parseTokens ts = .ok p ∧ parseTokens us = .ok p) ∨
      ∃ e f, parseTokens ts = .error e ∧ parseTokens us = .error f ∧ e.isCount = f.isCount := by
  cases h with
  | nil => exact .inr ⟨_, _, rfl, rfl, rfl⟩
  | @cons t u ts us first rest =>
      have ends := query_blind ⟨0, t :: ts⟩ ⟨0, u :: us⟩ ⟨rfl, .cons first rest⟩
      rw [parseTokens_of_ne_nil (List.cons_ne_nil t ts),
        parseTokens_of_ne_nil (List.cons_ne_nil u us)]
      generalize query.run ⟨0, t :: ts⟩ = x at ends ⊢
      generalize query.run ⟨0, u :: us⟩ = y at ends ⊢
      cases ends with
      | fails same => exact .inr ⟨_, _, rfl, rfl, same⟩
      | @reads p c d h =>
          rcases c with ⟨position, left⟩
          rcases d with ⟨position', left'⟩
          -- Tokens are left behind one query exactly if some are left behind the other.
          cases h.rest with
          | nil => exact .inl ⟨p, rfl, rfl⟩
          | cons => exact .inr ⟨_, _, rfl, rfl, rfl⟩

/-- Two texts whose tokens are the same, but for the case of their reserved words, are the same
query, or both are none, with errors of one kind. -/
theorem parse_alike {s s' : String} {ts us : List Token} (read : tokenize s = .ok ts)
    (read' : tokenize s' = .ok us) (alike : List.Forall₂ Token.Alike ts us) :
    (∃ p, parse s = .ok p ∧ parse s' = .ok p) ∨
      ∃ e f, parse s = .error e ∧ parse s' = .error f ∧ e.isCount = f.isCount := by
  rw [parse, parse, read, read']
  exact parseTokens_alike alike

/-- One query in small letters on a line and in capitals on two. -/
theorem parse_alike_allFields :
    let plan : Plan := ⟨⟨"t", none⟩, [], [], none, [⟨"*", none⟩], [], none⟩
    tokenize "select * From t" = .ok [.word "select", .word "*", .word "From", .word "t"] ∧
      tokenize "SELECT *\nFROM t;" = .ok [.word "SELECT", .word "*", .word "FROM", .word "t"] ∧
      List.Forall₂ Token.Alike [.word "select", .word "*", .word "From", .word "t"]
        [.word "SELECT", .word "*", .word "FROM", .word "t"] ∧
      parse "select * From t" = .ok plan ∧ parse "SELECT *\nFROM t;" = .ok plan := by
  intro plan
  have small : tokenize "select * From t" =
      .ok [.word "select", .word "*", .word "From", .word "t"] := by cbv
  have large : tokenize "SELECT *\nFROM t;" =
      .ok [.word "SELECT", .word "*", .word "FROM", .word "t"] := by cbv
  have alike : List.Forall₂ Token.Alike [.word "select", .word "*", .word "From", .word "t"]
      [.word "SELECT", .word "*", .word "FROM", .word "t"] := by
    refine .cons (.spelled (k := .select) ⟨"select", rfl⟩ ⟨"SELECT", rfl⟩) (.cons (.same _) ?_)
    exact .cons (.spelled (k := .from) ⟨"From", rfl⟩ ⟨"FROM", rfl⟩) (.cons (.same _) .nil)
  have first : parse "select * From t" = .ok plan := by rw [parse, small]; rfl
  rcases parse_alike small large alike with ⟨p, parsed, parsed'⟩ | ⟨e, _, failed, -⟩
  · cases first.symm.trans parsed
    exact ⟨small, large, alike, first, parsed'⟩
  · cases first.symm.trans failed

end DocQuery.Sql
