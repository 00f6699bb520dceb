/-
Module: DocQuery.Proofs.ConditionGrammar
Purpose: The reader of conditions takes exactly the conditions of the grammar, each in one way.
Main exports: negation_sound, OrTree.chain_complete, OrTree.unique, condition_reads
-/
import DocQuery.Proofs.PredicateGrammar

namespace DocQuery.Sql

open Outcome

/-! ### Chains of conditions

AND and OR are read by the same reader of chains.  What it reads is a condition of the grammar if
each part is, and the parts are by induction on the fuel, which bounds how deep they are nested. -/

theorem collapse_and (t : AndTree) : collapse .and t.parts = t.condition := by
  cases t with
  | single t => rfl
  | and t word rest => cases rest <;> rfl

theorem collapse_or (t : OrTree) : collapse .or t.parts = t.condition := by
  cases t with
  | single t => rfl
  | or t word rest => cases rest <;> rfl

section

variable {item : Parse Condition} {c c' : Cursor} {a : Condition}

theorem conjunction_sound
    (sound : ∀ {c c' a}, item.run c = .ok (a, c') →
      ∃ t : NotTree, t.condition = a ∧ Span c t.tokens c')
    (h : (conjunction item).run c = .ok (a, c')) :
    ∃ t : AndTree, t.condition = a ∧ Span c t.tokens c' := by
  rcases run_bind_eq_ok.1 h with ⟨as, d, read, done⟩
  rcases run_pure_eq_ok.1 done with ⟨rfl, rfl⟩
  suffices ∃ t : AndTree, t.parts = as ∧ Span c t.tokens d by
    rcases this with ⟨t, rfl, span⟩
    exact ⟨t, (collapse_and t).symm, span⟩
  refine chain_induct (motive := fun c as c' => ∃ t : AndTree, t.parts = as ∧ Span c t.tokens c')
    (fun stop => (accept_eq_false.1 stop).1) ?_ ?_ c.rest.length read
  · intro c c' a first
    rcases sound first with ⟨t, rfl, span⟩
    exact ⟨.single t, rfl, span⟩
  · intro c d e c' a as first sep rest
    rcases sound first with ⟨t, rfl, span⟩
    rcases accept_eq_true.1 sep with ⟨w, word⟩
    rcases rest with ⟨ts, rfl, span'⟩
    exact ⟨.and t w ts, rfl, span.append (word.cons span')⟩

theorem disjunction_sound
    (sound : ∀ {c c' a}, item.run c = .ok (a, c') →
      ∃ t : NotTree, t.condition = a ∧ Span c t.tokens c')
    (h : (disjunction item).run c = .ok (a, c')) :
    ∃ t : OrTree, t.condition = a ∧ Span c t.tokens c' := by
  rcases run_bind_eq_ok.1 h with ⟨as, d, read, done⟩
  rcases run_pure_eq_ok.1 done with ⟨rfl, rfl⟩
  suffices ∃ t : OrTree, t.parts = as ∧ Span c t.tokens d by
    rcases this with ⟨t, rfl, span⟩
    exact ⟨t, (collapse_or t).symm, span⟩
  refine chain_induct (motive := fun c as c' => ∃ t : OrTree, t.parts = as ∧ Span c t.tokens c')
    (fun stop => (accept_eq_false.1 stop).1) ?_ ?_ c.rest.length read
  · intro c c' a first
    rcases conjunction_sound sound first with ⟨t, rfl, span⟩
    exact ⟨.single t, rfl, span⟩
  · intro c d e c' a as first sep rest
    rcases conjunction_sound sound first with ⟨t, rfl, span⟩
    rcases accept_eq_true.1 sep with ⟨w, word⟩
    rcases rest with ⟨ts, rfl, span'⟩
    exact ⟨.or t w ts, rfl, span.append (word.cons span')⟩

/-- Whatever is read as a condition that is not joined is one of the grammar, by induction on the
depth that the fuel allows. -/
theorem negation_sound (fuel : Nat) :
    ∀ {c c' a}, (negation fuel).run c = .ok (a, c') →
      ∃ t : NotTree, t.condition = a ∧ Span c t.tokens c' := by
  induction fuel with
  | zero =>
      intro c c' a h
      cases h
  | succ fuel ih =>
      intro c c' a h
      rcases accept_bind_eq_ok.1 h with ⟨w, d, word, h⟩ | ⟨-, h⟩
      · rcases run_bind_eq_ok.1 h with ⟨b, e, child, done⟩
        rcases run_pure_eq_ok.1 done with ⟨rfl, rfl⟩
        rcases ih child with ⟨t, rfl, span⟩
        exact ⟨.not w t, rfl, word.cons span⟩
      rcases acceptSign_bind_eq_ok.1 h with ⟨d, opening, h⟩ | ⟨-, h⟩
      · rcases run_bind_eq_ok.1 h with ⟨b, e, inner, h⟩
        rcases run_bind_eq_ok.1 h with ⟨_, f, readClose, done⟩
        rcases run_pure_eq_ok.1 done with ⟨rfl, rfl⟩
        rcases disjunction_sound ih inner with ⟨t, rfl, span⟩
        exact ⟨.parens t, rfl, (opening.cons span).append (expectSign_eq_ok.1 readClose)⟩
      rcases predicate_sound h with ⟨t, rfl, span⟩
      exact ⟨.predicate t, rfl, span⟩

end

/-! ### All conditions are read

Completeness is by mutual recursion on the three kinds of trees.  The fuel of a chain is compared
with the number of its tokens, of which every part takes at least one. -/

/-- A condition joined by AND goes on behind AND only. -/
def EndsAnd (t : Token) : Prop :=
  t.keyword? ≠ some .and

/-- A condition goes on behind AND and OR only. -/
def EndsOr (t : Token) : Prop :=
  EndsAnd t ∧ t.keyword? ≠ some .or

theorem EndsOr.of_keyword {ks : List Keyword} {t : Token} (h : IsOneOf ks t)
    (notAnd : .and ∉ ks) (notOr : .or ∉ ks) : EndsOr t :=
  ⟨h.keyword?_ne notAnd, h.keyword?_ne notOr⟩

theorem endsAnd_or (w : Spelling .or) : EndsAnd w.token :=
  (w.isOneOf (List.mem_singleton_self _)).keyword?_ne (by decide)

theorem endsOr_closeParen : EndsOr (.sign .closeParen) :=
  ⟨nofun, nofun⟩

theorem PredicateTree.exists_operand (t : PredicateTree) :
    ∃ (o : OperandTree) (us : List Token), t.tokens = o.token :: us := by
  cases t with
  | isNull o => exact ⟨o, _, rfl⟩
  | inList o => exact ⟨o, _, rfl⟩
  | like o => exact ⟨o, _, rfl⟩
  | ilike o => exact ⟨o, _, rfl⟩
  | compare o => exact ⟨o, _, rfl⟩

theorem OperandTree.keyword?_ne_not (o : OperandTree) : o.token.keyword? ≠ some .not := by
  intro h
  rcases exists_spelling h with ⟨w, hw⟩
  have read := o.tokenOperand_token
  rw [← hw] at read
  simp [Spelling.token, tokenOperand, wordOperand] at read

theorem OperandTree.ne_sign (o : OperandTree) (s : Sign) : o.token ≠ .sign s := by
  intro h
  have read := o.tokenOperand_token
  rw [h] at read
  cases read

theorem conjunction_run {item : Parse Condition} {c c' : Cursor} {t : AndTree}
    (h : (chain item (accept .and) c.rest.length).run c = .ok (t.parts, c')) :
    (conjunction item).run c = .ok (t.condition, c') := by
  rw [← collapse_and]
  exact run_bind_eq_ok.2 ⟨_, c', h, rfl⟩

theorem disjunction_run {item : Parse Condition} {c c' : Cursor} {t : OrTree}
    (h : (chain (conjunction item) (accept .or) c.rest.length).run c = .ok (t.parts, c')) :
    (disjunction item).run c = .ok (t.condition, c') := by
  rw [← collapse_or]
  exact run_bind_eq_ok.2 ⟨_, c', h, rfl⟩

mutual

/-- A condition with less tokens than `fuel` is nested less deep, and a chain of no more tokens than
`n` has no more parts. -/
theorem OrTree.chain_complete : ∀ (t : OrTree) {fuel n : Nat} {c c' : Cursor},
    t.tokens.length < fuel → t.tokens.length ≤ n → Span c t.tokens c' →
    Before EndsOr c'.rest →
    (chain (conjunction (negation fuel)) (accept .or) n).run c = .ok (t.parts, c')
  | .single t, fuel, n, c, c', deep, long, span, stop => by
      apply chain_last
      · exact conjunction_run
          (t.chain_complete deep span.length_le span (stop.mono fun _ => And.left))
      · exact accept_eq_false.2 ⟨rfl, stop.mono fun _ => And.right⟩
  | .or t w rest, fuel, n, c, c', deep, long, span, stop => by
      rw [OrTree.tokens, List.length_append, List.length_cons] at deep long
      rcases Span.append_iff.1 span with ⟨d, first, span⟩
      rcases Span.cons_iff.1 span with ⟨e, word, span⟩
      have follows : Before EndsAnd d.rest :=
        .of_span word (endsAnd_or w)
      cases n with
      | zero => omega
      | succ n =>
          apply chain_next
          · exact conjunction_run (t.chain_complete (by omega) first.length_le first follows)
          · exact accept_eq_true.2 ⟨w, word⟩
          · exact rest.chain_complete (by omega) (by omega) span stop

theorem AndTree.chain_complete : ∀ (t : AndTree) {fuel n : Nat} {c c' : Cursor},
    t.tokens.length < fuel → t.tokens.length ≤ n → Span c t.tokens c' →
    Before EndsAnd c'.rest →
    (chain (negation fuel) (accept .and) n).run c = .ok (t.parts, c')
  | .single t, fuel, n, c, c', deep, long, span, stop => by
      apply chain_last
      · exact t.complete deep span
      · exact accept_eq_false.2 ⟨rfl, stop⟩
  | .and t w rest, fuel, n, c, c', deep, long, span, stop => by
      rw [AndTree.tokens, List.length_append, List.length_cons] at deep long
      rcases Span.append_iff.1 span with ⟨d, first, span⟩
      rcases Span.cons_iff.1 span with ⟨e, word, span⟩
      cases n with
      | zero => omega
      | succ n =>
          apply chain_next
          · exact t.complete (by omega) first
          · exact accept_eq_true.2 ⟨w, word⟩
          · exact rest.chain_complete (by omega) (by omega) span stop

theorem NotTree.complete : ∀ (t : NotTree) {fuel : Nat} {c c' : Cursor},
    t.tokens.length < fuel → Span c t.tokens c' →
    (negation fuel).run c = .ok (t.condition, c')
  | .not w t, fuel + 1, c, c', deep, span => by
      rw [NotTree.tokens, List.length_cons] at deep
      rcases Span.cons_iff.1 span with ⟨d, word, span⟩
      apply run_bind_ok (accept_eq_true.2 ⟨w, word⟩)
      apply run_bind_ok (t.complete (by omega) span)
      rfl
  | .parens t, fuel + 1, c, c', deep, span => by
      rw [NotTree.tokens, List.length_append, List.length_cons] at deep
      rcases Span.append_iff.1 span with ⟨e, span, closing⟩
      rcases Span.cons_iff.1 span with ⟨d, opening, inner⟩
      have noNot : (accept .not).run c = .ok (false, c) := accept_absent opening nofun
      have follows : Before EndsOr e.rest := .of_span closing endsOr_closeParen
      apply run_bind_ok noNot
      apply run_bind_ok (acceptSign_eq_true.2 opening)
      have less : t.tokens.length < fuel := by
        omega
      apply run_bind_ok (disjunction_run (t.chain_complete less inner.length_le inner follows))
      apply run_bind_ok (expectSign_eq_ok.2 closing)
      rfl
  | .predicate t, fuel + 1, c, c', deep, span => by
      rcases t.exists_operand with ⟨o, us, head⟩
      have first : Span c (o.token :: us) c' := head ▸ span
      have noParen : (acceptSign .openParen).run c = .ok (false, c) :=
        acceptSign_eq_false.2 ⟨rfl, .of_span first (o.ne_sign _)⟩
      apply run_bind_ok (accept_absent first o.keyword?_ne_not)
      apply run_bind_ok noParen
      exact predicate_complete t span

end

/-! ### No condition is read in two ways

The trees of one list of tokens are compared from the left.  A part ends where the reader stops, at
the first word that cannot go on with it, so that equal tokens mean equal parts. -/

mutual

theorem OrTree.unique : ∀ (t u : OrTree) {r r' : List Token},
    t.tokens ++ r = u.tokens ++ r' → Before EndsOr r → Before EndsOr r' → t = u
  | .single t, .single u, r, r', same, stop, stop' => by
      rw [t.unique u same (stop.mono fun _ => And.left) (stop'.mono fun _ => And.left)]
  | .single t, .or u w us, r, r', same, stop, stop' => by
      rw [OrTree.tokens, OrTree.tokens, List.append_assoc] at same
      obtain rfl := t.unique u same (stop.mono fun _ => And.left) (Before.cons_iff.2 (endsAnd_or w))
      rw [List.append_cancel_left same] at stop
      exact absurd w.keyword?_token (Before.cons_iff.1 stop).2
  | .or t w ts, .single u, r, r', same, stop, stop' => by
      rw [OrTree.tokens, OrTree.tokens, List.append_assoc] at same
      obtain rfl :=
        t.unique u same (Before.cons_iff.2 (endsAnd_or w)) (stop'.mono fun _ => And.left)
      rw [← List.append_cancel_left same] at stop'
      exact absurd w.keyword?_token (Before.cons_iff.1 stop').2
  | .or t w ts, .or u v us, r, r', same, stop, stop' => by
      rw [OrTree.tokens, OrTree.tokens, List.append_assoc, List.append_assoc] at same
      obtain rfl := t.unique u same (Before.cons_iff.2 (endsAnd_or w))
        (Before.cons_iff.2 (endsAnd_or v))
      rcases List.cons.inj (List.append_cancel_left same) with ⟨words, rest⟩
      rw [Spelling.token_inj words, ts.unique us rest stop stop']

theorem AndTree.unique : ∀ (t u : AndTree) {r r' : List Token},
    t.tokens ++ r = u.tokens ++ r' → Before EndsAnd r → Before EndsAnd r' → t = u
  | .single t, .single u, r, r', same, stop, stop' => by
      rw [t.unique u same]
  | .single t, .and u w us, r, r', same, stop, stop' => by
      rw [AndTree.tokens, AndTree.tokens, List.append_assoc] at same
      obtain rfl := t.unique u same
      rw [List.append_cancel_left same] at stop
      exact absurd w.keyword?_token (Before.cons_iff.1 stop)
  | .and t w ts, .single u, r, r', same, stop, stop' => by
      rw [AndTree.tokens, AndTree.tokens, List.append_assoc] at same
      obtain rfl := t.unique u same
      rw [← List.append_cancel_left same] at stop'
      exact absurd w.keyword?_token (Before.cons_iff.1 stop')
  | .and t w ts, .and u v us, r, r', same, stop, stop' => by
      rw [AndTree.tokens, AndTree.tokens, List.append_assoc, List.append_assoc] at same
      obtain rfl := t.unique u same
      rcases List.cons.inj (List.append_cancel_left same) with ⟨words, rest⟩
      rw [Spelling.token_inj words, ts.unique us rest stop stop']

theorem NotTree.unique : ∀ (t u : NotTree) {r r' : List Token},
    t.tokens ++ r = u.tokens ++ r' → t = u
  | .not w t, .not v u, r, r', same => by
      rcases List.cons.inj same with ⟨words, rest⟩
      rw [Spelling.token_inj words, t.unique u rest]
  | .parens t, .parens u, r, r', same => by
      rw [NotTree.tokens, NotTree.tokens, List.append_assoc, List.append_assoc] at same
      rw [t.unique u (List.cons.inj same).2 (Before.cons_iff.2 endsOr_closeParen)
        (Before.cons_iff.2 endsOr_closeParen)]
  | .predicate t, .predicate u, r, r', same => by
      have fits {rest : List Token} : Before (fun _ => True) rest := fun _ _ => trivial
      rw [predicate_reads.unique same fits fits]
  | .not w t, .parens u, r, r', same => by
      cases (List.cons.inj same).1
  | .parens t, .not v u, r, r', same => by
      cases (List.cons.inj same).1
  | .not w t, .predicate u, r, r', same => by
      rcases u.exists_operand with ⟨o, us, head⟩
      rw [NotTree.tokens, NotTree.tokens, head] at same
      exact absurd ((List.cons.inj same).1 ▸ w.keyword?_token) o.keyword?_ne_not
  | .predicate t, .not v u, r, r', same => by
      rcases t.exists_operand with ⟨o, us, head⟩
      rw [NotTree.tokens, NotTree.tokens, head] at same
      exact absurd ((List.cons.inj same).1 ▸ v.keyword?_token) o.keyword?_ne_not
  | .parens t, .predicate u, r, r', same => by
      rcases u.exists_operand with ⟨o, us, head⟩
      rw [NotTree.tokens, NotTree.tokens, head] at same
      exact absurd (List.cons.inj same).1.symm (o.ne_sign _)
  | .predicate t, .parens u, r, r', same => by
      rcases t.exists_operand with ⟨o, us, head⟩
      rw [NotTree.tokens, NotTree.tokens, head] at same
      exact absurd (List.cons.inj same).1 (o.ne_sign _)

end

theorem condition_run (c : Cursor) :
    condition.run c = (disjunction (negation (c.rest.length + 1))).run c := by
  rw [condition, StateT.run_bind, StateT.run_get, pure_bind]

/-- The conditions of queries: NOT binds tighter than AND, and AND tighter than OR. -/
theorem condition_reads : Reads condition OrTree.tokens OrTree.condition EndsOr where
  sound := by
    intro c c' a h
    rw [condition_run] at h
    exact disjunction_sound (negation_sound _) h
  complete := by
    intro c c' t span stop
    have deep : t.tokens.length < c.rest.length + 1 := Nat.lt_succ_of_le span.length_le
    rw [condition_run]
    exact disjunction_run (t.chain_complete deep span.length_le span stop)
  unique := OrTree.unique _ _

end DocQuery.Sql
