/-
Module: DocQuery.Proofs.PredicateGrammar
Purpose: The reader of single conditions takes exactly those of the grammar, each in one way.
Main exports: listValue_reads, valueList_sound, predicate_sound, predicate_complete,
  PredicateTree.tokens_inj, predicate_reads
-/
import DocQuery.Proofs.Phrases

namespace DocQuery.Sql

open Outcome

/-! ### Lists of values -/

theorem listValue_reads :
    Reads listValue LiteralTree.tokens LiteralTree.value (fun _ => True) := by
  refine .of_inj listValue_eq_ok.1 ?_ ?_
  · intro c c' t span _
    exact listValue_eq_ok.2 ⟨t, rfl, span⟩
  · intro t t' same _
    exact LiteralTree.token_inj (List.cons.inj same).1

theorem values_reads :
    Reads (separated listValue (acceptSign .comma)) (Commas.tokens LiteralTree.tokens)
      (Commas.values LiteralTree.value) (EndsList fun _ => True) :=
  listValue_reads.commas trivial

theorem valueList_sound {c c' : Cursor} {vs : List Value} (h : valueList.run c = .ok (vs, c')) :
    ∃ ts : Commas LiteralTree, ts.values LiteralTree.value = vs ∧
      Span c (.sign .openParen :: ts.tokens LiteralTree.tokens ++ [.sign .closeParen]) c' := by
  rcases run_bind_eq_ok.1 h with ⟨_, d, opening, h⟩
  rcases run_bind_eq_ok.1 h with ⟨_, e, values, h⟩
  rcases run_bind_eq_ok.1 h with ⟨_, f, closing, done⟩
  rcases run_pure_eq_ok.1 done with ⟨rfl, rfl⟩
  rcases values_reads.sound values with ⟨ts, rfl, span⟩
  exact ⟨ts, rfl, ((expectSign_eq_ok.1 opening).cons span).append (expectSign_eq_ok.1 closing)⟩

theorem valueList_complete {c c' : Cursor} (ts : Commas LiteralTree)
    (span : Span c (.sign .openParen :: ts.tokens LiteralTree.tokens ++ [.sign .closeParen]) c') :
    valueList.run c = .ok (ts.values LiteralTree.value, c') := by
  rcases Span.append_iff.1 span with ⟨e, span, closing⟩
  rcases Span.cons_iff.1 span with ⟨d, opening, span⟩
  have stop : Before (EndsList fun _ => True) e.rest :=
    .of_span closing ⟨trivial, by decide⟩
  apply run_bind_ok (expectSign_eq_ok.2 opening)
  apply run_bind_ok (values_reads.complete ts span stop)
  apply run_bind_ok (expectSign_eq_ok.2 closing)
  rfl

/-- Reads a condition that is not joined, negated or in parentheses. -/
def predicate : Parse Condition := do
  predicateTail (← operand)

/-- A pattern and what is made of it, for LIKE and ILIKE alike. -/
theorem pattern_bind_eq_ok {c c' : Cursor} {f : String → Condition} {a : Condition} :
    (pattern >>= fun text => pure (f text)).run c = .ok (a, c') ↔
      ∃ mark text, f text = a ∧ Span c [.quoted mark text] c' := by
  rw [run_bind_eq_ok]
  constructor
  · rintro ⟨text, d, read, done⟩
    rcases run_pure_eq_ok.1 done with ⟨rfl, rfl⟩
    rcases pattern_eq_ok.1 read with ⟨mark, quoted⟩
    exact ⟨mark, text, rfl, quoted⟩
  · rintro ⟨mark, text, rfl, quoted⟩
    exact ⟨text, c', pattern_eq_ok.2 ⟨mark, quoted⟩, rfl⟩

theorem predicate_sound {c c' : Cursor} {a : Condition} (h : predicate.run c = .ok (a, c')) :
    ∃ t : PredicateTree, t.condition = a ∧ Span c t.tokens c' := by
  rcases run_bind_eq_ok.1 h with ⟨_, d, readLeft, h⟩
  rcases operand_eq_ok.1 readLeft with ⟨o, rfl, left⟩
  rw [predicateTail] at h
  -- Only IS has its NOT behind it; for the other words it is read first.
  rcases accept_bind_eq_ok.1 h with ⟨isWord, e, is, h⟩ | ⟨-, h⟩
  · rcases run_bind_eq_ok.1 h with ⟨_, f, readNot, h⟩
    rcases (accept_reads .not).sound readNot with ⟨notWord, rfl, negated⟩
    rcases run_bind_eq_ok.1 h with ⟨_, g, readNull, done⟩
    rcases expect_eq_ok.1 readNull with ⟨nullWord, null⟩
    rcases run_pure_eq_ok.1 done with ⟨rfl, rfl⟩
    exact ⟨.isNull o isWord notWord nullWord, rfl, (left.cons (is.cons negated)).append null⟩
  rcases run_bind_eq_ok.1 h with ⟨_, e, readNot, h⟩
  rcases (accept_reads .not).sound readNot with ⟨notWord, rfl, negated⟩
  have head := left.cons negated
  rcases accept_bind_eq_ok.1 h with ⟨inWord, f, inSpan, h⟩ | ⟨-, h⟩
  · rcases run_bind_eq_ok.1 h with ⟨vs, g, readValues, done⟩
    rcases valueList_sound readValues with ⟨ts, rfl, values⟩
    rcases run_pure_eq_ok.1 done with ⟨rfl, rfl⟩
    refine ⟨.inList o notWord inWord ts, rfl, ?_⟩
    simpa [PredicateTree.tokens] using head.append (inSpan.cons values)
  rcases accept_bind_eq_ok.1 h with ⟨likeWord, f, like, h⟩ | ⟨-, h⟩
  · rcases pattern_bind_eq_ok.1 h with ⟨mark, text, rfl, quoted⟩
    exact ⟨.like o notWord likeWord mark text, rfl, head.append (like.cons quoted)⟩
  rcases accept_bind_eq_ok.1 h with ⟨likeWord, f, like, h⟩ | ⟨-, final⟩
  · rcases pattern_bind_eq_ok.1 h with ⟨mark, text, rfl, quoted⟩
    exact ⟨.ilike o notWord likeWord mark text, rfl, head.append (like.cons quoted)⟩
  -- A NOT is an error here, so that only a comparison is left.
  cases notWord with
  | some w => cases final
  | none =>
      obtain rfl := Span.nil_iff.1 negated
      rcases run_bind_eq_ok.1 final with ⟨_, f, readOp, final⟩
      rcases comparator_eq_ok.1 readOp with ⟨op, rfl, sign⟩
      rcases run_bind_eq_ok.1 final with ⟨_, g, readRight, done⟩
      rcases operand_eq_ok.1 readRight with ⟨right, rfl, right'⟩
      rcases run_pure_eq_ok.1 done with ⟨rfl, rfl⟩
      exact ⟨.compare o op right, rfl, left.cons (sign.cons right')⟩

/-- Behind an operand, the word of a condition that may be negated is found past the NOT. -/
theorem negated_complete {c c' : Cursor} {k : Keyword} {w : Spelling k}
    (notWord : Option (Spelling .not)) {us : List Token}
    (span : Span c (optionalWord notWord ++ w.token :: us) c') (notIs : k ≠ .is)
    (notNot : k ≠ .not) :
    ∃ d, (accept .is).run c = .ok (false, c) ∧ (accept .not).run c = .ok (notWord.isSome, d) ∧
      Span d (w.token :: us) c' := by
  rcases Span.append_iff.1 span with ⟨d, negated, rest⟩
  refine ⟨d, ?_, ?_, rest⟩
  · cases notWord with
    | none =>
        obtain rfl := Span.nil_iff.1 negated
        exact accept_absent rest (w.keyword?_ne notIs)
    | some v => exact accept_absent negated (v.keyword?_ne (by decide))
  · apply (accept_reads .not).complete notWord negated
    exact .of_span rest (w.keyword?_ne notNot)

theorem predicate_complete {c c' : Cursor} (t : PredicateTree) (span : Span c t.tokens c') :
    predicate.run c = .ok (t.condition, c') := by
  -- Each form is read step by step; before its own word, those asked for earlier are not found.
  cases t with
  | isNull o isWord notWord nullWord =>
      rcases Span.append_iff.1 span with ⟨f, span, null⟩
      rcases Span.cons_iff.1 span with ⟨d, left, span⟩
      rcases Span.cons_iff.1 span with ⟨e, is, negated⟩
      have stop : Before (fun t => t.keyword? ≠ some .not) f.rest :=
        .of_span null (nullWord.keyword?_ne (by decide))
      apply run_bind_ok (operand_eq_ok.2 ⟨o, rfl, left⟩)
      apply run_bind_ok (accept_eq_true.2 ⟨isWord, is⟩)
      apply run_bind_ok ((accept_reads .not).complete notWord negated stop)
      apply run_bind_ok (expect_eq_ok.2 ⟨nullWord, null⟩)
      rfl
  | inList o notWord inWord values =>
      rw [PredicateTree.tokens, List.append_assoc, List.cons_append, List.cons_append] at span
      rcases Span.cons_iff.1 span with ⟨d, left, span⟩
      rcases negated_complete notWord span (by decide) (by decide) with ⟨e, noIs, negated, span⟩
      rcases Span.cons_iff.1 span with ⟨f, inSpan, span⟩
      apply run_bind_ok (operand_eq_ok.2 ⟨o, rfl, left⟩)
      apply run_bind_ok noIs
      apply run_bind_ok negated
      apply run_bind_ok (accept_eq_true.2 ⟨inWord, inSpan⟩)
      apply run_bind_ok (valueList_complete values span)
      rfl
  | like o notWord likeWord mark text =>
      rcases Span.cons_iff.1 span with ⟨d, left, span⟩
      rcases negated_complete notWord span (by decide) (by decide) with ⟨e, noIs, negated, span⟩
      have noIn := accept_absent span (likeWord.keyword?_ne (k := .in) (by decide))
      rcases Span.cons_iff.1 span with ⟨f, like, quoted⟩
      apply run_bind_ok (operand_eq_ok.2 ⟨o, rfl, left⟩)
      apply run_bind_ok noIs
      apply run_bind_ok negated
      apply run_bind_ok noIn
      apply run_bind_ok (accept_eq_true.2 ⟨likeWord, like⟩)
      exact pattern_bind_eq_ok.2 ⟨mark, text, rfl, quoted⟩
  | ilike o notWord likeWord mark text =>
      rcases Span.cons_iff.1 span with ⟨d, left, span⟩
      rcases negated_complete notWord span (by decide) (by decide) with ⟨e, noIs, negated, span⟩
      have noIn := accept_absent span (likeWord.keyword?_ne (k := .in) (by decide))
      have noLike := accept_absent span (likeWord.keyword?_ne (k := .like) (by decide))
      rcases Span.cons_iff.1 span with ⟨f, like, quoted⟩
      apply run_bind_ok (operand_eq_ok.2 ⟨o, rfl, left⟩)
      apply run_bind_ok noIs
      apply run_bind_ok negated
      apply run_bind_ok noIn
      apply run_bind_ok noLike
      apply run_bind_ok (accept_eq_true.2 ⟨likeWord, like⟩)
      exact pattern_bind_eq_ok.2 ⟨mark, text, rfl, quoted⟩
  | compare l op r =>
      rcases Span.cons_iff.1 span with ⟨d, left, span⟩
      -- A sign is no reserved word, so that all five are asked for in vain, NOT included.
      have absent (k : Keyword) : (accept k).run d = .ok (false, d) :=
        accept_absent span nofun
      rcases Span.cons_iff.1 span with ⟨e, sign, right⟩
      apply run_bind_ok (operand_eq_ok.2 ⟨l, rfl, left⟩)
      apply run_bind_ok (absent _)
      apply run_bind_ok (absent _)
      apply run_bind_ok (absent _)
      apply run_bind_ok (absent _)
      apply run_bind_ok (absent _)
      apply run_bind_ok (comparator_eq_ok.2 ⟨op, rfl, sign⟩)
      apply run_bind_ok (operand_eq_ok.2 ⟨r, rfl, right⟩)
      rfl

/-- A word that may be negated is reached over the same NOT in two readings. -/
theorem negated_split {j k : Keyword} {v : Spelling j} {w : Spelling k}
    {m n : Option (Spelling .not)} {r r' : List Token}
    (same : optionalWord m ++ v.token :: r = optionalWord n ++ w.token :: r') (hj : j ≠ .not)
    (hk : k ≠ .not) : m = n ∧ v.token = w.token ∧ r = r' := by
  rcases (accept_reads .not).split same (Before.cons_iff.2 (v.keyword?_ne hj))
    (Before.cons_iff.2 (w.keyword?_ne hk)) with ⟨negated, rest⟩
  exact ⟨negated, List.cons.inj rest⟩

theorem PredicateTree.tokens_inj {t t' : PredicateTree} (same : t.tokens = t'.tokens)
    (values : t.condition = t'.condition) : t = t' := by
  -- The conditions tell the forms apart.  Within a form, token after token tells the part of the
  -- tree that it spells, and only NOT may be missing.
  cases t with
  | isNull o isWord notWord nullWord =>
      cases t' with
      | isNull o' isWord' notWord' nullWord' =>
          rcases List.cons.inj same with ⟨operands, same⟩
          rcases List.cons.inj same with ⟨is, same⟩
          rcases negated_split same (by decide) (by decide) with ⟨rfl, null, _⟩
          rw [OperandTree.token_inj operands, Spelling.token_inj is, Spelling.token_inj null]
      | _ => cases values
  | inList o notWord inWord vs =>
      cases t' with
      | inList o' notWord' inWord' vs' =>
          simp only [tokens, List.append_assoc, List.cons_append] at same
          rcases List.cons.inj same with ⟨operands, same⟩
          rcases negated_split same (by decide) (by decide) with ⟨rfl, words, same⟩
          have closing : Before (EndsList fun _ => True) [.sign .closeParen] :=
            Before.cons_iff.2 ⟨trivial, by decide⟩
          have lists := values_reads.unique (List.cons.inj same).2 closing closing
          rw [OperandTree.token_inj operands, Spelling.token_inj words, lists]
      | _ => cases values
  | like o notWord likeWord mark text =>
      cases t' with
      | like o' notWord' likeWord' mark' text' =>
          rcases List.cons.inj same with ⟨operands, same⟩
          rcases negated_split same (by decide) (by decide) with ⟨rfl, words, quoted⟩
          rcases Token.quoted.inj (List.cons.inj quoted).1 with ⟨rfl, rfl⟩
          rw [OperandTree.token_inj operands, Spelling.token_inj words]
      | ilike => simp [condition] at values
      | _ => cases values
  | ilike o notWord likeWord mark text =>
      cases t' with
      | ilike o' notWord' likeWord' mark' text' =>
          rcases List.cons.inj same with ⟨operands, same⟩
          rcases negated_split same (by decide) (by decide) with ⟨rfl, words, quoted⟩
          rcases Token.quoted.inj (List.cons.inj quoted).1 with ⟨rfl, rfl⟩
          rw [OperandTree.token_inj operands, Spelling.token_inj words]
      | like => simp [condition] at values
      | _ => cases values
  | compare l op r =>
      cases t' with
      | compare l' op' r' =>
          rcases List.cons.inj same with ⟨left, same⟩
          rcases List.cons.inj same with ⟨sign, same⟩
          have right := (List.cons.inj same).1
          rw [OperandTree.token_inj left, OpTree.sign_inj (Token.sign.inj sign),
            OperandTree.token_inj right]
      | _ => cases values

/-- A single condition ends where its last token is. -/
theorem predicate_reads :
    Reads predicate PredicateTree.tokens PredicateTree.condition (fun _ => True) :=
  .of_inj predicate_sound (fun t span _ => predicate_complete t span) PredicateTree.tokens_inj

end DocQuery.Sql
