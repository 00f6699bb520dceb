/-
Module: DocQuery.Proofs.Reading
Purpose: What the readers of single tokens take from a list of tokens, and how readings compose.
Main exports: Span, Before, run_bind_eq_ok, accept_eq_true, accept_eq_false, identifier_eq_ok,
  operand_eq_ok, count_eq_ok
-/
import DocQuery.Proofs.Outcome
import DocQuery.Proofs.Words

namespace DocQuery.Sql

open Outcome

/-! ### Tokens between two cursors

A reader takes a stretch of tokens.  `Span` says which stretch lies between two cursors, so that
what a sequence of readers takes is put together from what each of them takes. -/

/-- The tokens `ts` are those between two cursors. -/
def Span (c : Cursor) (ts : List Token) (c' : Cursor) : Prop :=
  c.rest = ts ++ c'.rest ∧ c'.position = c.position + ts.length

namespace Span

variable {c c' d d' : Cursor} {t t' : Token} {ts us : List Token}

theorem nil_iff : Span c [] c' ↔ c' = c := by
  rcases c with ⟨n, rest⟩
  rcases c' with ⟨n', rest'⟩
  constructor
  · rintro ⟨hrest, hposition⟩
    cases hrest
    cases hposition
    rfl
  · intro h
    cases h
    exact ⟨rfl, rfl⟩

theorem append_iff : Span c (ts ++ us) c' ↔ ∃ d, Span c ts d ∧ Span d us c' := by
  constructor
  · rintro ⟨hrest, hposition⟩
    refine ⟨⟨c.position + ts.length, us ++ c'.rest⟩, ⟨?_, rfl⟩, rfl, ?_⟩
    · rw [hrest, List.append_assoc]
    · rw [hposition, List.length_append, Nat.add_assoc]
  · rintro ⟨d, ⟨hrest, hposition⟩, hrest', hposition'⟩
    constructor
    · rw [hrest, hrest', List.append_assoc]
    · rw [hposition', hposition, List.length_append, Nat.add_assoc]

theorem cons_iff : Span c (t :: ts) c' ↔ ∃ d, Span c [t] d ∧ Span d ts c' := by
  rw [← List.singleton_append, append_iff]

theorem append (first : Span c ts d) (second : Span d us c') : Span c (ts ++ us) c' :=
  append_iff.2 ⟨d, first, second⟩

theorem cons (first : Span c [t] d) (second : Span d ts c') : Span c (t :: ts) c' :=
  append first second

theorem length_le (h : Span c ts c') : ts.length ≤ c.rest.length := by
  rw [h.1, List.length_append]
  exact Nat.le_add_right _ _

end Span

/-- What is left is empty, or its first token has the property `Q`. -/
def Before (Q : Token → Prop) (rest : List Token) : Prop :=
  ∀ t, rest.head? = some t → Q t

namespace Before

variable {Q R : Token → Prop} {t : Token} {ts rest : List Token}

theorem nil : Before Q [] := by
  intro t ht
  cases ht

@[simp] theorem cons_iff : Before Q (t :: ts) ↔ Q t := by
  constructor
  · intro h
    exact h t rfl
  · intro h u hu
    cases hu
    exact h

theorem mono (h : Before Q rest) (imp : ∀ t, Q t → R t) : Before R rest :=
  fun t ht => imp t (h t ht)

theorem append (h : Before Q ts) (h' : Before Q rest) : Before Q (ts ++ rest) := by
  cases ts with
  | nil => exact h'
  | cons t ts => exact cons_iff.2 (cons_iff.1 h)

theorem of_span {c c' : Cursor} (span : Span c (t :: ts) c') (h : Q t) : Before Q c.rest := by
  rw [span.1]
  exact cons_iff.2 h

end Before

/-! ### Runs

A run of two readers succeeds if both do, the second one from where the first one stops. -/

section

variable {α β : Type} {c c' : Cursor}

theorem run_bind_eq_ok {x : Parse α} {f : α → Parse β} {b : β} :
    (x >>= f).run c = .ok (b, c') ↔
      ∃ a d, x.run c = .ok (a, d) ∧ (f a).run d = .ok (b, c') := by
  rw [StateT.run_bind, bind_eq_ok]
  constructor
  · rintro ⟨⟨a, d⟩, first, second⟩
    exact ⟨a, d, first, second⟩
  · rintro ⟨a, d, first, second⟩
    exact ⟨(a, d), first, second⟩

theorem run_bind_ok {x : Parse α} {f : α → Parse β} {a : α} {b : β} {d : Cursor}
    (first : x.run c = .ok (a, d)) (second : (f a).run d = .ok (b, c')) :
    (x >>= f).run c = .ok (b, c') :=
  run_bind_eq_ok.2 ⟨a, d, first, second⟩

theorem run_pure_eq_ok {a b : α} : (pure a : Parse α).run c = .ok (b, c') ↔ a = b ∧ c = c' := by
  rw [StateT.run_pure, pure_eq_ok, Except.ok.injEq, Prod.mk.injEq]

end

/-! ### Steps of a cursor -/

section

variable {c c' : Cursor} {k : Keyword} {s : Sign}

/-- The cursor behind the next token. -/
def Cursor.next (c : Cursor) : Cursor :=
  ⟨c.position + 1, c.rest.drop 1⟩

theorem Span.single_iff {t : Token} : Span c [t] c' ↔ c.rest.head? = some t ∧ c' = c.next := by
  constructor
  · rintro ⟨hrest, hposition⟩
    rcases c' with ⟨position', rest'⟩
    cases hposition
    rw [Cursor.next, hrest]
    exact ⟨rfl, rfl⟩
  · rintro ⟨head, rfl⟩
    rcases c with ⟨position, _ | ⟨u, rest⟩⟩
    · cases head
    · cases head
      exact ⟨rfl, rfl⟩

theorem advance_run (c : Cursor) : advance.run c = .ok ((), c.next) :=
  rfl

theorem accept_run (k : Keyword) (c : Cursor) :
    (accept k).run c =
      if c.rest.head?.any (fun t => t.keyword? = some k) then .ok (true, c.next)
      else .ok (false, c) := by
  cases seen : c.rest.head?.any (fun t => decide (t.keyword? = some k)) with
  | false => simp [accept, sees, seen]
  | true => simp [accept, sees, seen, advance_run]

theorem acceptSign_run (s : Sign) (c : Cursor) :
    (acceptSign s).run c =
      if c.rest.head? = some (.sign s) then .ok (true, c.next) else .ok (false, c) := by
  by_cases seen : c.rest.head? = some (.sign s)
  · simp [acceptSign, seesSign, seen, advance_run]
  · simp [acceptSign, seesSign, seen]

theorem acceptIdentifier_run (c : Cursor) :
    acceptIdentifier.run c =
      if c.rest.head?.any Token.isIdentifier then .ok (c.rest.head?.map Token.text, c.next)
      else .ok (none, c) := by
  cases head : c.rest.head? with
  | none => simp [acceptIdentifier, current, head]
  | some t =>
      cases named : t.isIdentifier with
      | false => simp [acceptIdentifier, current, head, named]
      | true => simp [acceptIdentifier, current, head, named, advance_run]

/-! ### Readers that may take nothing

Each of these answers whether it took something.  Both answers are characterized by the tokens
ahead, so that proofs about grammar need not look into the readers again. -/

theorem accept_eq_true :
    (accept k).run c = .ok (true, c') ↔ ∃ w : Spelling k, Span c [w.token] c' := by
  constructor
  · intro h
    cases head : c.rest.head? with
    | none => simp [accept_run, head] at h
    | some t =>
        by_cases seen : t.keyword? = some k
        · simp [accept_run, head, seen] at h
          rcases exists_spelling seen with ⟨w, rfl⟩
          exact ⟨w, Span.single_iff.2 ⟨head, h.symm⟩⟩
        · simp [accept_run, head, seen] at h
  · rintro ⟨w, span⟩
    rcases Span.single_iff.1 span with ⟨head, rfl⟩
    simp [accept_run, head]

theorem accept_eq_false :
    (accept k).run c = .ok (false, c') ↔ c = c' ∧ Before (fun t => t.keyword? ≠ some k) c.rest := by
  rw [accept_run, Before]
  cases head : c.rest.head? with
  | none => simp
  | some t =>
      by_cases seen : t.keyword? = some k
      · simp [seen]
      · simp [seen]

/-- A reader that first asks for a reserved word goes on in one way behind the word, and in another
way where the word is not found. -/
theorem accept_bind_eq_ok {β : Type} {f : Bool → Parse β} {b : β} :
    (accept k >>= f).run c = .ok (b, c') ↔
      (∃ (w : Spelling k) (d : Cursor), Span c [w.token] d ∧ (f true).run d = .ok (b, c')) ∨
        Before (fun t => t.keyword? ≠ some k) c.rest ∧ (f false).run c = .ok (b, c') := by
  rw [run_bind_eq_ok]
  constructor
  · rintro ⟨given, d, read, goesOn⟩
    cases given with
    | true =>
        rcases accept_eq_true.1 read with ⟨w, word⟩
        exact .inl ⟨w, d, word, goesOn⟩
    | false =>
        rcases accept_eq_false.1 read with ⟨rfl, absent⟩
        exact .inr ⟨absent, goesOn⟩
  · rintro (⟨w, d, word, goesOn⟩ | ⟨absent, goesOn⟩)
    · exact ⟨true, d, accept_eq_true.2 ⟨w, word⟩, goesOn⟩
    · exact ⟨false, c, accept_eq_false.2 ⟨rfl, absent⟩, goesOn⟩

/-- Another token than the wanted word is at the cursor. -/
theorem accept_absent {t : Token} {us : List Token} (span : Span c (t :: us) c')
    (other : t.keyword? ≠ some k) : (accept k).run c = .ok (false, c) :=
  accept_eq_false.2 ⟨rfl, .of_span span other⟩

theorem acceptSign_eq_true : (acceptSign s).run c = .ok (true, c') ↔ Span c [.sign s] c' := by
  rw [acceptSign_run, Span.single_iff]
  by_cases seen : c.rest.head? = some (.sign s)
  · simp [seen, eq_comm]
  · simp [seen]

theorem acceptSign_eq_false :
    (acceptSign s).run c = .ok (false, c') ↔ c = c' ∧ Before (fun t => t ≠ .sign s) c.rest := by
  rw [acceptSign_run, Before]
  by_cases seen : c.rest.head? = some (.sign s)
  · simp [seen]
  · have other : ∀ t, c.rest.head? = some t → t ≠ .sign s := by
      intro t ht same
      exact seen (same ▸ ht)
    simp only [seen, if_false, Except.ok.injEq, Prod.mk.injEq, true_and]
    exact ⟨fun same => ⟨same, other⟩, And.left⟩

/-- A sign is asked for as a reserved word is. -/
theorem acceptSign_bind_eq_ok {β : Type} {f : Bool → Parse β} {b : β} :
    (acceptSign s >>= f).run c = .ok (b, c') ↔
      (∃ d, Span c [.sign s] d ∧ (f true).run d = .ok (b, c')) ∨
        Before (fun t => t ≠ .sign s) c.rest ∧ (f false).run c = .ok (b, c') := by
  rw [run_bind_eq_ok]
  constructor
  · rintro ⟨given, d, read, goesOn⟩
    cases given with
    | true => exact .inl ⟨d, acceptSign_eq_true.1 read, goesOn⟩
    | false =>
        rcases acceptSign_eq_false.1 read with ⟨rfl, absent⟩
        exact .inr ⟨absent, goesOn⟩
  · rintro (⟨d, sign, goesOn⟩ | ⟨absent, goesOn⟩)
    · exact ⟨true, d, acceptSign_eq_true.2 sign, goesOn⟩
    · exact ⟨false, c, acceptSign_eq_false.2 ⟨rfl, absent⟩, goesOn⟩

theorem acceptIdentifier_eq_some {name : String} :
    acceptIdentifier.run c = .ok (some name, c') ↔
      ∃ n : Name, n.word = name ∧ Span c [n.token] c' := by
  constructor
  · intro h
    cases head : c.rest.head? with
    | none => simp [acceptIdentifier_run, head] at h
    | some t =>
        cases named : t.isIdentifier with
        | false => simp [acceptIdentifier_run, head, named] at h
        | true =>
            simp [acceptIdentifier_run, head, named] at h
            rcases exists_name named with ⟨n, rfl⟩
            exact ⟨n, h.1, Span.single_iff.2 ⟨head, h.2.symm⟩⟩
  · rintro ⟨n, rfl, span⟩
    rcases Span.single_iff.1 span with ⟨head, rfl⟩
    simp [acceptIdentifier_run, head, Name.token, Token.text]
    exact n.isIdentifier_token

theorem acceptIdentifier_eq_none :
    acceptIdentifier.run c = .ok (none, c') ↔
      c = c' ∧ Before (fun t => t.isIdentifier = false) c.rest := by
  rw [acceptIdentifier_run, Before]
  cases head : c.rest.head? with
  | none => simp
  | some t =>
      cases named : t.isIdentifier with
      | false => simp [named]
      | true => simp [named]

theorem acceptQuoted_run (c : Cursor) :
    acceptQuoted.run c =
      match c.rest.head? with
      | some (.quoted _ content) => .ok (some content, c.next)
      | _ => .ok (none, c) := by
  rcases head : c.rest.head? with _ | ⟨mark, content⟩ | s | word
  · simp [acceptQuoted, current, head]
  · simp [acceptQuoted, current, head, advance_run]
  · simp [acceptQuoted, current, head]
  · simp [acceptQuoted, current, head]

theorem acceptQuoted_eq_some {content : String} :
    acceptQuoted.run c = .ok (some content, c') ↔
      ∃ mark, Span c [.quoted mark content] c' := by
  simp only [acceptQuoted_run, Span.single_iff]
  rcases c.rest.head? with _ | ⟨mark, content'⟩ | s | word
  · simp
  · simp [eq_comm]
  · simp
  · simp

theorem acceptQuoted_eq_none :
    acceptQuoted.run c = .ok (none, c') ↔
      c = c' ∧ Before (fun t => ∀ mark content, t ≠ .quoted mark content) c.rest := by
  simp only [acceptQuoted_run, Before]
  rcases c.rest.head? with _ | ⟨mark, content⟩ | s | word
  · simp
  · simp
  · simp
  · simp

/-! ### Readers of one token

These fail where they take nothing, and what they take is one token of the grammar. -/

theorem expected_ne_ok {α : Type} {text : String} {a : α} :
    (expected text : Parse α).run c ≠ .ok (a, c') := by
  intro h
  cases head : c.rest.head? with
  | none => simp [expected, current, head] at h
  | some t => simp [expected, current, head] at h

theorem expectedName_ne_ok {α : Type} {what : String} {a : α} :
    (expectedName what : Parse α).run c ≠ .ok (a, c') := by
  intro h
  cases h

theorem expect_eq_ok :
    (expect k).run c = .ok ((), c') ↔ ∃ w : Spelling k, Span c [w.token] c' := by
  rw [← accept_eq_true, expect, run_bind_eq_ok]
  constructor
  · rintro ⟨accepted, d, h, done⟩
    cases accepted with
    | false => exact absurd done expected_ne_ok
    | true =>
        rcases run_pure_eq_ok.1 done with ⟨_, rfl⟩
        exact h
  · intro h
    exact ⟨true, c', h, rfl⟩

theorem expectSign_eq_ok : (expectSign s).run c = .ok ((), c') ↔ Span c [.sign s] c' := by
  rw [← acceptSign_eq_true, expectSign, run_bind_eq_ok]
  constructor
  · rintro ⟨accepted, d, h, done⟩
    cases accepted with
    | false => exact absurd done expected_ne_ok
    | true =>
        rcases run_pure_eq_ok.1 done with ⟨_, rfl⟩
        exact h
  · intro h
    exact ⟨true, c', h, rfl⟩

theorem identifier_eq_ok {what name : String} :
    (identifier what).run c = .ok (name, c') ↔ ∃ n : Name, n.word = name ∧ Span c [n.token] c' := by
  rw [← acceptIdentifier_eq_some, identifier, run_bind_eq_ok]
  constructor
  · rintro ⟨read, d, h, done⟩
    cases read with
    | none => exact absurd done expectedName_ne_ok
    | some name' =>
        rcases run_pure_eq_ok.1 done with ⟨rfl, rfl⟩
        exact h
  · intro h
    exact ⟨some name, c', h, rfl⟩

theorem pattern_eq_ok {content : String} :
    pattern.run c = .ok (content, c') ↔ ∃ mark, Span c [.quoted mark content] c' := by
  rw [← acceptQuoted_eq_some, pattern, run_bind_eq_ok]
  constructor
  · rintro ⟨read, d, h, done⟩
    cases read with
    | none => cases done
    | some content' =>
        rcases run_pure_eq_ok.1 done with ⟨rfl, rfl⟩
        exact h
  · intro h
    exact ⟨some content, c', h, rfl⟩

theorem comparator_eq_ok {comparator' : Comparator} :
    comparator.run c = .ok (comparator', c') ↔
      ∃ op : OpTree, op.comparator = comparator' ∧ Span c [.sign op.sign] c' := by
  constructor
  · intro h
    rcases head : c.rest.head? with _ | ⟨mark, content⟩ | s | word
    · simp [comparator, current, head, expectedName] at h
    · simp [comparator, current, head, expectedName] at h
    · cases means : s.comparator? with
      | none => simp [comparator, current, head, means, expectedName] at h
      | some o =>
          simp [comparator, current, head, means, advance_run] at h
          rcases Sign.comparator?_eq_some_iff.1 means with ⟨op, rfl, rfl⟩
          exact ⟨op, h.1, Span.single_iff.2 ⟨head, h.2.symm⟩⟩
    · simp [comparator, current, head, expectedName] at h
  · rintro ⟨op, rfl, span⟩
    rcases Span.single_iff.1 span with ⟨head, rfl⟩
    have means := Sign.comparator?_eq_some_iff.2 ⟨op, rfl, rfl⟩
    simp [comparator, current, head, means, advance_run]

theorem operand_eq_ok {o : Operand} :
    operand.run c = .ok (o, c') ↔ ∃ t : OperandTree, t.value = o ∧ Span c [t.token] c' := by
  constructor
  · intro h
    cases head : c.rest.head? with
    | none => simp [operand, current, head] at h
    | some u =>
        cases means : tokenOperand u with
        | none => simp [operand, current, head, means, expectedName] at h
        | some o' =>
            simp [operand, current, head, means, advance_run] at h
            rcases tokenOperand_eq_some_iff.1 means with ⟨t, rfl, rfl⟩
            exact ⟨t, h.1, Span.single_iff.2 ⟨head, h.2.symm⟩⟩
  · rintro ⟨t, rfl, span⟩
    rcases Span.single_iff.1 span with ⟨head, rfl⟩
    simp [operand, current, head, t.tokenOperand_token, advance_run]

theorem listValue_eq_ok {v : Value} :
    listValue.run c = .ok (v, c') ↔ ∃ t : LiteralTree, t.value = v ∧ Span c [t.token] c' := by
  rw [listValue, run_bind_eq_ok]
  constructor
  · rintro ⟨o, d, h, done⟩
    rcases operand_eq_ok.1 h with ⟨t, rfl, span⟩
    cases t with
    | literal t =>
        rcases run_pure_eq_ok.1 done with ⟨rfl, rfl⟩
        exact ⟨t, rfl, span⟩
    | field name notInteger notFloat => cases done
  · rintro ⟨t, rfl, span⟩
    exact ⟨.literal t.value, c', operand_eq_ok.2 ⟨.literal t, rfl, span⟩, rfl⟩

theorem anyToken_eq_ok {text : String} {t : Token} :
    (anyToken text).run c = .ok (t, c') ↔ Span c [t] c' := by
  rw [Span.single_iff]
  cases head : c.rest.head? with
  | none => simp [anyToken, current, head]
  | some u => simp [anyToken, current, head, advance_run, eq_comm]

theorem count_eq_ok {v : Value} :
    (count k).run c = .ok (v, c') ↔ ∃ t : CountTree, t.value = v ∧ Span c t.tokens c' := by
  rw [count, run_bind_eq_ok]
  constructor
  · rintro ⟨u, d, h, done⟩
    have span := anyToken_eq_ok.1 h
    cases read : integerOfWord? u.text with
    | none => simp [read] at done
    | some n =>
        by_cases negative : n < 0
        · simp [read, negative] at done
        · simp [read, negative] at done
          rcases done with ⟨rfl, rfl⟩
          rcases integerOfWord?_eq_some_iff.1 read with ⟨m, written, rfl⟩
          refine ⟨⟨m, Int.not_lt.1 negative⟩, rfl, ?_⟩
          rw [Numeral.token_eq_word written] at span
          exact span
  · rintro ⟨⟨m, nonneg⟩, rfl, span⟩
    have read := integerOfWord?_eq_some_iff.2 ⟨m, rfl, rfl⟩
    refine ⟨.word m.word, c', anyToken_eq_ok.2 span, ?_⟩
    simp [Token.text, read, Int.not_lt.2 nonneg, CountTree.value]

end

end DocQuery.Sql
