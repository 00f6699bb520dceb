/-
Module: DocQuery.Proofs.QuotedContent
Purpose: What stands inside the quotes of a string decides nothing about how a query is read.
Main exports: DifferOnce, Plan.Exchange, Carries, query_carries, parse_quoted
-/
import DocQuery.Proofs.Lexing
import DocQuery.Proofs.QueryGrammar

namespace DocQuery

/-! ### Plans that differ in one string

An exchange is a relation between two plans: they have the same shape and the same content, but for
one string in one place. -/

/-- Two lists that differ in one item, where `D` relates the two. -/
inductive DifferOnce {α : Type} (D : α → α → Prop) : List α → List α → Prop
  | here {a b : α} (as : List α) (h : D a b) : DifferOnce D (a :: as) (b :: as)
  | later (a : α) {as bs : List α} (h : DifferOnce D as bs) : DifferOnce D (a :: as) (a :: bs)

/-- The string `v` in the place of the string `w`. -/
inductive Value.Exchange (v w : String) : Value → Value → Prop
  | string : Value.Exchange v w (.string v) (.string w)

inductive Operand.Exchange (v w : String) : Operand → Operand → Prop
  | literal {a b : Value} (h : a.Exchange v w b) : Operand.Exchange v w (.literal a) (.literal b)

/-- Conditions that differ in one string: a value, an element of a list of values or a pattern. -/
inductive Condition.Exchange (v w : String) : Condition → Condition → Prop
  | left {a b : Operand} (h : a.Exchange v w b) (o : Comparator) (right : Operand) :
      Condition.Exchange v w (.compare a o right) (.compare b o right)
  | right {a b : Operand} (left : Operand) (o : Comparator) (h : a.Exchange v w b) :
      Condition.Exchange v w (.compare left o a) (.compare left o b)
  | and {cs ds : List Condition} (h : DifferOnce (Condition.Exchange v w) cs ds) :
      Condition.Exchange v w (.and cs) (.and ds)
  | or {cs ds : List Condition} (h : DifferOnce (Condition.Exchange v w) cs ds) :
      Condition.Exchange v w (.or cs) (.or ds)
  | not {c d : Condition} (h : Condition.Exchange v w c d) :
      Condition.Exchange v w (.not c) (.not d)
  | isNull {a b : Operand} (h : a.Exchange v w b) (negated : Bool) :
      Condition.Exchange v w (.isNull a negated) (.isNull b negated)
  | member {a b : Operand} (h : a.Exchange v w b) (values : List Value) (negated : Bool) :
      Condition.Exchange v w (.inList a values negated) (.inList b values negated)
  | element (o : Operand) {as bs : List Value} (h : DifferOnce (Value.Exchange v w) as bs)
      (negated : Bool) : Condition.Exchange v w (.inList o as negated) (.inList o bs negated)
  | subject {a b : Operand} (h : a.Exchange v w b) (text : String) (ignoreCase negated : Bool) :
      Condition.Exchange v w (.like a text ignoreCase negated) (.like b text ignoreCase negated)
  | pattern (o : Operand) (ignoreCase negated : Bool) :
      Condition.Exchange v w (.like o v ignoreCase negated) (.like o w ignoreCase negated)

/-- The table named `v` in the place of the one named `w`, under the same alias. -/
inductive TableRef.Exchange (v w : String) : TableRef → TableRef → Prop
  | name (given : Option String) : TableRef.Exchange v w ⟨v, given⟩ ⟨w, given⟩

inductive Join.Exchange (v w : String) : Join → Join → Prop
  | table {t u : TableRef} (h : t.Exchange v w u) (kind : JoinKind) (on : Condition) :
      Join.Exchange v w ⟨t, kind, on⟩ ⟨u, kind, on⟩
  | on (t : TableRef) (kind : JoinKind) {c d : Condition} (h : c.Exchange v w d) :
      Join.Exchange v w ⟨t, kind, c⟩ ⟨t, kind, d⟩

/-- Plans that differ in one string, which is `v` in the first and `w` in the second. -/
inductive Plan.Exchange (v w : String) : Plan → Plan → Prop
  | table (p : Plan) {t u : TableRef} (h : t.Exchange v w u) :
      Plan.Exchange v w { p with table := t } { p with table := u }
  | joins (p : Plan) {js ks : List Join} (h : DifferOnce (Join.Exchange v w) js ks) :
      Plan.Exchange v w { p with joins := js } { p with joins := ks }
  | condition (p : Plan) {c d : Condition} (h : c.Exchange v w d) :
      Plan.Exchange v w { p with condition := some c } { p with condition := some d }

namespace DifferOnce

variable {α : Type} {D : α → α → Prop} {as bs : List α}

theorem length_eq (h : DifferOnce D as bs) : as.length = bs.length := by
  induction h with
  | here => rfl
  | later a _ ih => rw [List.length_cons, List.length_cons, ih]

theorem ne_nil (h : DifferOnce D as bs) : as ≠ [] ∧ bs ≠ [] := by
  cases h with
  | here => exact ⟨nofun, nofun⟩
  | later => exact ⟨nofun, nofun⟩

/-- Lists that differ have an item that differs. -/
theorem not_of_never (h : DifferOnce D as bs) (never : ∀ a b, ¬ D a b) : False := by
  induction h with
  | here as h => exact never _ _ h
  | later _ _ ih => exact ih

theorem append (before : List α) {a b : α} (h : D a b) (after : List α) :
    DifferOnce D (before ++ a :: after) (before ++ b :: after) := by
  induction before with
  | nil => exact .here after h
  | cons c before ih => exact .later c ih

end DifferOnce

namespace Sql

open Outcome

/-! ### Cursors that differ in one string

Two readings go on side by side.  While the string is ahead, they read the same; the reader that
takes it reads two things that differ in it; behind it they read the same tokens again. -/

/-- The string token with content `v` in the place of the one with content `w`. -/
inductive Token.Exchange (v w : String) : Token → Token → Prop
  | quoted (mark : Quote) : Token.Exchange v w (.quoted mark v) (.quoted mark w)

/-- The tokens left at two cursors differ in the content of one string, which is still ahead. -/
structure Cursor.Exchange (v w : String) (c d : Cursor) : Prop where
  position : c.position = d.position
  rest : DifferOnce (Token.Exchange v w) c.rest d.rest

/-- The next tokens are the two strings, or they are the same token and the strings follow. -/
theorem Cursor.Exchange.cases {v w : String} {c d : Cursor} (h : c.Exchange v w d) :
    (∃ mark, c.rest.head? = some (.quoted mark v) ∧ d.rest.head? = some (.quoted mark w) ∧
      c.next = d.next) ∨
      ∃ t, c.rest.head? = some t ∧ d.rest.head? = some t ∧ c.next.Exchange v w d.next := by
  rcases c with ⟨position, ts⟩
  rcases d with ⟨position', us⟩
  obtain ⟨rfl, rest⟩ := h
  cases rest with
  | here rest h =>
      obtain ⟨mark⟩ := h
      exact .inl ⟨mark, rfl, rfl, rfl⟩
  | later t h => exact .inr ⟨t, rfl, rfl, rfl, h⟩

/-- A refused row count is an error of its own kind; all other faults are of one kind. -/
def ParseError.isCount : ParseError → Bool
  | .count _ => true
  | _ => false

/-- How two readings end that started at cursors which differ in one string.  Both fail with errors
of one kind, or both succeed.  Then either the strings are still ahead and nothing has come of them
yet, or they are read and all difference is in what was read, as `D` says. -/
inductive Agree (v w : String) {α : Type} (D : α → α → Prop) :
    Except ParseError (α × Cursor) → Except ParseError (α × Cursor) → Prop
  | fails {e f : ParseError} (same : e.isCount = f.isCount) : Agree v w D (.error e) (.error f)
  | ahead (a : α) {c d : Cursor} (h : c.Exchange v w d) : Agree v w D (.ok (a, c)) (.ok (a, d))
  | behind {a b : α} (c : Cursor) (h : D a b) : Agree v w D (.ok (a, c)) (.ok (b, c))

theorem Agree.mono {v w : String} {α : Type} {D E : α → α → Prop}
    {x y : Except ParseError (α × Cursor)} (h : Agree v w D x y) (imp : ∀ a b, D a b → E a b) :
    Agree v w E x y := by
  cases h with
  | fails same => exact .fails same
  | ahead a h => exact .ahead a h
  | behind c h => exact .behind c (imp _ _ h)

/-- A reader that carries an exchange of two strings over to what it reads. -/
def Carries (v w : String) {α : Type} (p : Parse α) (D : α → α → Prop) : Prop :=
  ∀ c d : Cursor, c.Exchange v w d → Agree v w D (p.run c) (p.run d)

/-- Two readers that end alike at one cursor, but for what they read. -/
def Tandem (v w : String) {α : Type} (p q : Parse α) (D : α → α → Prop) : Prop :=
  ∀ c : Cursor, Agree v w D (p.run c) (q.run c)

/-- What is read does not depend on the strings. -/
def Never {α : Type} (_ _ : α) : Prop :=
  False

variable {v w : String} {α β : Type} {D : α → α → Prop} {E : β → β → Prop}

/-! ### Readers one after another

What a sequence of readers reads depends on which of them took the string.  `Tandem` deals with the
rest of a sequence once the string was taken. -/

namespace Tandem

theorem pure {a b : α} (h : D a b) : Tandem v w (pure a) (pure b) D :=
  fun c => .behind c h

/-- Readers that start with the same one. -/
theorem bind (p : Parse α) {f g : α → Parse β} (h : ∀ a, Tandem v w (f a) (g a) E) :
    Tandem v w (p >>= f) (p >>= g) E := by
  intro c
  rw [StateT.run_bind, StateT.run_bind]
  cases p.run c with
  | error e => exact .fails rfl
  | ok read => exact h read.1 read.2

theorem throw {e f : ParseError} (same : e.isCount = f.isCount) :
    Tandem v w (throw e : Parse α) (throw f) D :=
  fun _ => .fails same

end Tandem

namespace Carries

theorem pure (a : α) : Carries v w (pure a) D :=
  fun _ _ h => .ahead a h

theorem throw {e : ParseError} : Carries v w (throw e : Parse α) D :=
  fun _ _ _ => .fails rfl

/-- After a reader, the strings are still ahead, or what was read differs. -/
theorem bind {p : Parse α} {f : α → Parse β} (hp : Carries v w p D)
    (ahead : ∀ a, Carries v w (f a) E) (behind : ∀ a b, D a b → Tandem v w (f a) (f b) E) :
    Carries v w (p >>= f) E := by
  intro c d h
  have first := hp c d h
  rw [StateT.run_bind, StateT.run_bind]
  cases readC : p.run c with
  | error e =>
      rw [readC] at first
      cases readD : p.run d with
      | ok _ =>
          rw [readD] at first
          cases first
      | error f =>
          rw [readD] at first
          cases first with
          | fails same => exact .fails same
  | ok a =>
      rw [readC] at first
      cases readD : p.run d with
      | error f =>
          rw [readD] at first
          cases first
      | ok b =>
          rw [readD] at first
          cases first with
          | ahead a h => exact ahead a _ _ h
          | behind c' h => exact behind _ _ h c'

/-- After a reader that does not read the strings, they are still ahead. -/
theorem bind_never {p : Parse α} {f : α → Parse β} (hp : Carries v w p Never)
    (ahead : ∀ a, Carries v w (f a) E) : Carries v w (p >>= f) E :=
  hp.bind ahead fun _ _ h => h.elim

/-- The number of tokens that are left does not tell the strings apart. -/
theorem sized {f : Cursor → Parse α} (h : ∀ c, Carries v w (f c) D)
    (size : ∀ c d, c.rest.length = d.rest.length → f c = f d) : Carries v w (get >>= f) D := by
  intro c d hcd
  change Agree v w D ((f c).run c) ((f d).run d)
  rw [← size c d hcd.rest.length_eq]
  exact h c c d hcd

theorem fails {p : Parse α} (h : ∀ c, ∃ e, p.run c = .error e ∧ e.isCount = false) :
    Carries v w p D := by
  intro c d _
  obtain ⟨e, readC, kindC⟩ := h c
  obtain ⟨f, readD, kindD⟩ := h d
  rw [readC, readD]
  exact .fails (kindC.trans kindD.symm)

theorem mono {F : α → α → Prop} {p : Parse α} (hp : Carries v w p D) (imp : ∀ a b, D a b → F a b) :
    Carries v w p F :=
  fun c d h => (hp c d h).mono imp

theorem map {p : Parse α} {f : α → β} (hp : Carries v w p D) (h : ∀ a b, D a b → E (f a) (f b)) :
    Carries v w (do return f (← p)) E :=
  hp.bind (fun a => pure (f a)) fun a b hab => .pure (h a b hab)

end Carries

/-! ### Single tokens

No reader looks into a string.  The one that takes it hands it on as a name, a value or a
pattern. -/

theorem expected_fails (text : String) (c : Cursor) :
    ∃ e, (expected text : Parse α).run c = .error e ∧ e.isCount = false := by
  cases head : c.rest.head? with
  | none => exact ⟨.endOfQuery text, by simp [expected, current, head], rfl⟩
  | some t => exact ⟨.expectedToken text t c.position, by simp [expected, current, head], rfl⟩

theorem expectedName_fails (what : String) (c : Cursor) :
    ∃ e, (expectedName what : Parse α).run c = .error e ∧ e.isCount = false :=
  ⟨.expectedName what c.rest.head? c.position, rfl, rfl⟩

theorem accept_carries (k : Keyword) : Carries v w (accept k) Never := by
  intro c d h
  rw [accept_run, accept_run]
  rcases h.cases with ⟨mark, headC, headD, -⟩ | ⟨t, headC, headD, next⟩
  · rw [headC, headD]
    exact .ahead false h
  · rw [headC, headD]
    split
    · exact .ahead true next
    · exact .ahead false h

theorem acceptSign_carries (s : Sign) : Carries v w (acceptSign s) Never := by
  intro c d h
  rw [acceptSign_run, acceptSign_run]
  rcases h.cases with ⟨mark, headC, headD, -⟩ | ⟨t, headC, headD, next⟩
  · rw [headC, headD, if_neg (by simp), if_neg (by simp)]
    exact .ahead false h
  · rw [headC, headD]
    split
    · exact .ahead true next
    · exact .ahead false h

theorem acceptIdentifier_carries : Carries v w acceptIdentifier Never := by
  intro c d h
  rw [acceptIdentifier_run, acceptIdentifier_run]
  rcases h.cases with ⟨mark, headC, headD, -⟩ | ⟨t, headC, headD, next⟩
  · rw [headC, headD]
    exact .ahead none h
  · rw [headC, headD]
    split
    · exact .ahead _ next
    · exact .ahead none h

/-- A string is read as its content. -/
theorem acceptQuoted_carries :
    Carries v w acceptQuoted fun a b => a = some v ∧ b = some w := by
  intro c d h
  rw [acceptQuoted_run, acceptQuoted_run]
  rcases h.cases with ⟨mark, headC, headD, next⟩ | ⟨t, headC, headD, next⟩
  · rw [headC, headD]
    simp only
    rw [next]
    exact .behind d.next ⟨rfl, rfl⟩
  · rw [headC, headD]
    split
    · exact .ahead _ next
    · exact .ahead none h

theorem expect_carries (k : Keyword) : Carries v w (expect k) Never := by
  refine (accept_carries k).bind_never fun accepted => ?_
  cases accepted with
  | false => exact .fails (expected_fails _)
  | true => exact .pure ()

theorem expectSign_carries (s : Sign) : Carries v w (expectSign s) Never := by
  refine (acceptSign_carries s).bind_never fun accepted => ?_
  cases accepted with
  | false => exact .fails (expected_fails _)
  | true => exact .pure ()

theorem identifier_carries (what : String) : Carries v w (identifier what) Never := by
  refine acceptIdentifier_carries.bind_never fun name => ?_
  cases name with
  | none => exact .fails (expectedName_fails what)
  | some name => exact .pure name

theorem sees_carries (k : Keyword) : Carries v w (sees k) Never := by
  intro c d h
  have run (c : Cursor) :
      (sees k).run c = .ok (c.rest.head?.any fun t => t.keyword? = some k, c) := rfl
  rw [run, run]
  rcases h.cases with ⟨mark, headC, headD, -⟩ | ⟨t, headC, headD, -⟩
  · rw [headC, headD]
    exact .ahead false h
  · rw [headC, headD]
    exact .ahead _ h

/-! ### Lists

The string may be in any item of a list.  The items before it are the same, and those behind it as
well. -/

theorem chain_carries {item : Parse α} {more : Parse Bool} (hItem : Carries v w item D)
    (hMore : Carries v w more Never) (fuel : Nat) :
    Carries v w (chain item more fuel) (DifferOnce D) := by
  induction fuel with
  | zero => exact hItem.map fun a b h => .here [] h
  | succ fuel ih =>
      refine hItem.bind (fun first => ?_) fun a b h => ?_
      · refine hMore.bind_never fun another => ?_
        cases another with
        | false => exact .pure [first]
        | true => exact ih.map fun as bs h => .later first h
      · refine .bind more fun another => ?_
        cases another with
        | false => exact .pure (.here [] h)
        | true => exact .bind _ fun rest => .pure (.here rest h)

theorem separated_carries {item : Parse α} {more : Parse Bool} (hItem : Carries v w item D)
    (hMore : Carries v w more Never) : Carries v w (separated item more) (DifferOnce D) :=
  .sized (fun c => chain_carries hItem hMore c.rest.length) fun c d same => by rw [same]

theorem many_carries {starts : Parse Bool} {item : Parse α} (hStarts : Carries v w starts Never)
    (hItem : Carries v w item D) (fuel : Nat) :
    Carries v w (many starts item fuel) (DifferOnce D) := by
  induction fuel with
  | zero => exact .pure []
  | succ fuel ih =>
      refine hStarts.bind_never fun another => ?_
      cases another with
      | false => exact .pure []
      | true =>
          refine hItem.bind (fun first => ?_) fun a b h => ?_
          · exact ih.map fun as bs h => .later first h
          · exact .bind _ fun rest => .pure (.here rest h)

/-! ### Conditions

By the structure of the readers, with an induction on the fuel for negations and parentheses. -/

theorem operand_run (c : Cursor) :
    operand.run c =
      match c.rest.head? with
      | none => .error (.endOfQuery "value or column name")
      | some t =>
          match tokenOperand t with
          | some o => .ok (o, c.next)
          | none => .error (.expectedName "value or column name" (some t) c.position) := by
  cases head : c.rest.head? with
  | none => simp [operand, current, head]
  | some t =>
      cases means : tokenOperand t with
      | none => simp [operand, current, head, means, expectedName]
      | some o => simp [operand, current, head, means, advance_run]

/-- What stands inside quotes is a value, whatever it is. -/
theorem operand_carries : Carries v w operand (Operand.Exchange v w) := by
  intro c d h
  rw [operand_run, operand_run]
  rcases h.cases with ⟨mark, headC, headD, next⟩ | ⟨t, headC, headD, next⟩
  · rw [headC, headD]
    simp only [tokenOperand]
    rw [next]
    exact .behind d.next (.literal .string)
  · rw [headC, headD]
    cases means : tokenOperand t with
    | none =>
        simp only [means]
        exact .fails rfl
    | some o =>
        simp only [means]
        exact .ahead o next

theorem listValue_carries : Carries v w listValue (Value.Exchange v w) := by
  refine operand_carries.bind (fun o => ?_) fun a b h => ?_
  · cases o with
    | literal value => exact .pure value
    | field name => exact .throw
  · obtain ⟨h⟩ := h
    exact .pure h

theorem valueList_carries : Carries v w valueList (DifferOnce (Value.Exchange v w)) := by
  refine (expectSign_carries .openParen).bind_never fun _ => ?_
  refine (separated_carries listValue_carries (acceptSign_carries .comma)).bind (fun values => ?_)
    fun as bs h => ?_
  · exact (expectSign_carries .closeParen).bind_never fun _ => .pure values
  · exact .bind _ fun _ => .pure h

theorem pattern_carries : Carries v w pattern fun a b => a = v ∧ b = w := by
  refine acceptQuoted_carries.bind (fun content => ?_) fun a b h => ?_
  · cases content with
    | none => exact .fails fun c => ⟨_, rfl, rfl⟩
    | some content => exact .pure content
  · obtain ⟨rfl, rfl⟩ := h
    exact .pure ⟨rfl, rfl⟩

/-- The comparison that a token means. -/
def Token.comparator? : Token → Option Comparator
  | .sign s => s.comparator?
  | _ => none

theorem comparator_run (c : Cursor) :
    comparator.run c =
      match c.rest.head?.bind Token.comparator? with
      | some o => .ok (o, c.next)
      | none => .error (.expectedName "comparison operator" c.rest.head? c.position) := by
  rcases head : c.rest.head? with _ | ⟨mark, content⟩ | s | word
  · simp [comparator, current, head, expectedName]
  · simp [comparator, current, head, expectedName, Token.comparator?]
  · cases means : s.comparator? with
    | none => simp [comparator, current, head, expectedName, Token.comparator?, means]
    | some o => simp [comparator, current, head, advance_run, Token.comparator?, means]
  · simp [comparator, current, head, expectedName, Token.comparator?]

theorem comparator_carries : Carries v w comparator Never := by
  intro c d h
  rw [comparator_run, comparator_run]
  rcases h.cases with ⟨mark, headC, headD, -⟩ | ⟨t, headC, headD, next⟩
  · rw [headC, headD]
    exact .fails rfl
  · rw [headC, headD]
    split
    · exact .ahead _ next
    · exact .fails rfl

theorem predicateTail_carries (left : Operand) :
    Carries v w (predicateTail left) (Condition.Exchange v w) := by
  -- The words that are asked for are never the string, so that it is read as a list element, a
  -- pattern or an operand.
  refine (accept_carries .is).bind_never fun isNull => ?_
  cases isNull with
  | true =>
      refine (accept_carries .not).bind_never fun negated => ?_
      exact (expect_carries .null).bind_never fun _ => .pure _
  | false =>
      refine (accept_carries .not).bind_never fun negated => ?_
      refine (accept_carries .in).bind_never fun isList => ?_
      cases isList with
      | true => exact valueList_carries.map fun as bs h => .element left h negated
      | false =>
          refine (accept_carries .like).bind_never fun isLike => ?_
          cases isLike with
          | true =>
              refine pattern_carries.map ?_
              rintro a b ⟨rfl, rfl⟩
              exact .pattern left false negated
          | false =>
              refine (accept_carries .ilike).bind_never fun isIlike => ?_
              cases isIlike with
              | true =>
                  refine pattern_carries.map ?_
                  rintro a b ⟨rfl, rfl⟩
                  exact .pattern left true negated
              | false =>
                  cases negated with
                  | true => exact .fails fun c => ⟨_, rfl, rfl⟩
                  | false =>
                      refine comparator_carries.bind_never fun o => ?_
                      exact operand_carries.map fun a b h => .right left o h

/-- Behind its operand, a predicate is read in the same way whatever the operand is. -/
theorem predicateTail_tandem {a b : Operand} (h : a.Exchange v w b) :
    Tandem v w (predicateTail a) (predicateTail b) (Condition.Exchange v w) := by
  refine .bind (accept .is) fun isNull => ?_
  cases isNull with
  | true =>
      refine .bind (accept .not) fun negated => ?_
      exact .bind (expect .null) fun _ => .pure (.isNull h negated)
  | false =>
      refine .bind (accept .not) fun negated => .bind (accept .in) fun isList => ?_
      cases isList with
      | true => exact .bind valueList fun values => .pure (.member h values negated)
      | false =>
          refine .bind (accept .like) fun isLike => ?_
          cases isLike with
          | true => exact .bind pattern fun text => .pure (.subject h text false negated)
          | false =>
              refine .bind (accept .ilike) fun isIlike => ?_
              cases isIlike with
              | true => exact .bind pattern fun text => .pure (.subject h text true negated)
              | false =>
                  cases negated with
                  | true => exact .bind get fun c => .throw rfl
                  | false =>
                      refine .bind comparator fun o => .bind operand fun right => ?_
                      exact .pure (.left h o right)

/-- A chain keeps its length, so that it is one condition on both sides or on none. -/
theorem collapse_exchange {combine : List Condition → Condition}
    (hCombine : ∀ cs ds, DifferOnce (Condition.Exchange v w) cs ds →
      (combine cs).Exchange v w (combine ds)) {cs ds : List Condition}
    (h : DifferOnce (Condition.Exchange v w) cs ds) :
    (collapse combine cs).Exchange v w (collapse combine ds) := by
  cases h with
  | here rest h =>
      cases rest with
      | nil => exact h
      | cons c rest => exact hCombine _ _ (.here (c :: rest) h)
  | later c h =>
      cases h with
      | here rest h => exact hCombine _ _ (.later c (.here rest h))
      | later c' h => exact hCombine _ _ (.later c (.later c' h))

theorem conjunction_carries {item : Parse Condition}
    (h : Carries v w item (Condition.Exchange v w)) :
    Carries v w (conjunction item) (Condition.Exchange v w) :=
  (separated_carries h (accept_carries .and)).map fun _ _ differ =>
    collapse_exchange (fun _ _ => .and) differ

theorem disjunction_carries {item : Parse Condition}
    (h : Carries v w item (Condition.Exchange v w)) :
    Carries v w (disjunction item) (Condition.Exchange v w) :=
  (separated_carries (conjunction_carries h) (accept_carries .or)).map fun _ _ differ =>
    collapse_exchange (fun _ _ => .or) differ

theorem negation_carries (fuel : Nat) :
    Carries v w (negation fuel) (Condition.Exchange v w) := by
  induction fuel with
  | zero => exact .throw
  | succ fuel ih =>
      refine (accept_carries .not).bind_never fun isNegated => ?_
      cases isNegated with
      | true => exact ih.map fun c d h => .not h
      | false =>
          refine (acceptSign_carries .openParen).bind_never fun isOpen => ?_
          cases isOpen with
          | true =>
              refine (disjunction_carries ih).bind (fun c => ?_) fun c d h => ?_
              · exact (expectSign_carries .closeParen).bind_never fun _ => .pure c
              · exact .bind _ fun _ => .pure h
          | false =>
              exact operand_carries.bind predicateTail_carries fun a b h => predicateTail_tandem h

theorem condition_carries : Carries v w condition (Condition.Exchange v w) :=
  .sized (fun c => disjunction_carries (negation_carries (c.rest.length + 1)))
    fun c d same => by rw [same]

/-! ### Clauses

A string can stand for the name of a table, and within conditions.  Everywhere else it is refused,
and the two refusals are of one kind. -/

/-- A string is no row count, whatever it contains. -/
theorem integerOfWord?_quoted (mark : Quote) (content : String) :
    integerOfWord? (Token.quoted mark content).text = none := by
  refine integerOfWord?_eq_none_iff.2 fun n same => ?_
  cases Numeral.token_eq_word same

theorem anyToken_run (text : String) (c : Cursor) : (anyToken text).run c =
    match c.rest.head? with
    | some t => .ok (t, c.next)
    | none => .error (.endOfQuery text) := by
  cases head : c.rest.head? with
  | none => simp [anyToken, current, head]
  | some t => simp [anyToken, current, head, advance_run]

theorem anyToken_carries (text : String) : Carries v w (anyToken text) (Token.Exchange v w) := by
  intro c d h
  rw [anyToken_run, anyToken_run]
  rcases h.cases with ⟨mark, headC, headD, next⟩ | ⟨t, headC, headD, next⟩
  · rw [headC, headD]
    simp only
    rw [next]
    exact .behind d.next (.quoted mark)
  · rw [headC, headD]
    exact .ahead t next

theorem count_carries (k : Keyword) : Carries v w (count k) Never := by
  refine (anyToken_carries "more input").bind (fun t => ?_) fun t u h => ?_
  · cases integerOfWord? t.text with
    | none => exact .throw
    | some n =>
        by_cases negative : n < 0
        · simp only [negative, if_true]
          exact .throw
        · simp only [negative, if_false]
          exact .pure _
  · obtain ⟨mark⟩ := h
    rw [integerOfWord?_quoted, integerOfWord?_quoted]
    exact .throw rfl

theorem aliasName_carries (what : String) : Carries v w (aliasName what) Never := by
  refine (accept_carries .as).bind_never fun named => ?_
  cases named with
  | true => exact (identifier_carries what).bind_never fun name => .pure (some name)
  | false => exact acceptIdentifier_carries

theorem selectItem_carries : Carries v w selectItem Never := by
  refine (identifier_carries "column name").bind_never fun source => ?_
  refine (aliasName_carries "column alias").bind_never fun given => ?_
  cases given.isSome && endsInAsterisk source with
  | false => exact .pure _
  | true => exact .throw

theorem tableRef_carries : Carries v w tableRef (TableRef.Exchange v w) := by
  refine acceptQuoted_carries.bind (fun name => ?_) fun a b h => ?_
  · cases name with
    | some name => exact (aliasName_carries "table alias").bind_never fun given => .pure _
    | none =>
        refine (identifier_carries "table name").bind_never fun name => ?_
        exact (aliasName_carries "table alias").bind_never fun given => .pure _
  · obtain ⟨rfl, rfl⟩ := h
    exact .bind _ fun given => .pure (.name given)

theorem unnest_carries : Carries v w unnest Never := by
  refine (accept_carries .unnest).bind_never fun word => ?_
  cases word with
  | false => exact .fails fun c => ⟨_, rfl, rfl⟩
  | true =>
      refine (acceptSign_carries .openParen).bind_never fun shaped => ?_
      cases shaped with
      | false => exact .throw
      | true =>
          refine (identifier_carries "array field").bind_never fun field => ?_
          refine (expectSign_carries .closeParen).bind_never fun _ => ?_
          refine (accept_carries .as).bind_never fun _ => ?_
          refine acceptIdentifier_carries.bind_never fun given => ?_
          cases given with
          | none => exact .throw
          | some given =>
              refine (acceptSign_carries .openParen).bind_never fun named => ?_
              cases named with
              | false => exact .pure _
              | true =>
                  refine (identifier_carries "UNNEST column name").bind_never fun column => ?_
                  exact (expectSign_carries .closeParen).bind_never fun _ => .pure _

theorem seesJoin_carries : Carries v w seesJoin Never := by
  refine (sees_carries .inner).bind_never fun inner => ?_
  refine (sees_carries .left).bind_never fun left => ?_
  exact (sees_carries .join).bind_never fun join => .pure _

theorem joinKind_carries : Carries v w joinKind Never := by
  refine (accept_carries .inner).bind_never fun inner => ?_
  cases inner with
  | true => exact .pure _
  | false =>
      refine (accept_carries .left).bind_never fun left => ?_
      cases left with
      | true => exact (accept_carries .outer).bind_never fun _ => .pure _
      | false => exact .pure _

theorem join_carries : Carries v w join (Join.Exchange v w) := by
  refine joinKind_carries.bind_never fun kind => ?_
  refine (expect_carries .join).bind_never fun _ => ?_
  refine tableRef_carries.bind (fun table => ?_) fun t u h => ?_
  · refine (expect_carries .on).bind_never fun _ => ?_
    exact condition_carries.map fun c d h => .on table kind h
  · exact .bind _ fun _ => .bind _ fun on => .pure (.table h kind on)

theorem direction_carries : Carries v w direction Never := by
  refine (accept_carries .asc).bind_never fun asc => ?_
  cases asc with
  | true => exact .pure _
  | false =>
      refine (accept_carries .desc).bind_never fun desc => ?_
      cases desc with
      | true => exact .pure _
      | false => exact .pure _

theorem orderKey_carries : Carries v w orderKey Never := by
  refine (identifier_carries "ORDER BY column").bind_never fun field => ?_
  exact direction_carries.bind_never fun direction => .pure _

theorem orderBy_carries : Carries v w orderBy Never := by
  refine (accept_carries .order).bind_never fun ordered => ?_
  cases ordered with
  | false => exact .pure []
  | true =>
      refine (expect_carries .by).bind_never fun _ => ?_
      refine (separated_carries orderKey_carries (acceptSign_carries .comma)).mono fun as bs h => ?_
      exact h.not_of_never fun _ _ => id

theorem someCount_carries (k : Keyword) : Carries v w (some <$> count k) Never := by
  rw [map_eq_pure_bind]
  exact (count_carries k).bind_never fun n => .pure (some n)

theorem limit_carries (top : Option Value) : Carries v w (limit top) Never := by
  intro c d h
  cases top with
  | none =>
      rw [limit_none_run, limit_none_run]
      refine Carries.bind_never (accept_carries .limit) (fun given => ?_) c d h
      cases given with
      | false => exact .pure none
      | true => exact someCount_carries .limit
  | some n =>
      rw [limit_run, limit_run]
      rcases h.cases with ⟨mark, headC, headD, -⟩ | ⟨t, headC, headD, next⟩
      · rw [headC, headD]
        exact .ahead _ h
      · rw [headC, headD]
        split
        · exact .fails rfl
        · exact .ahead _ h

/-- A phrase that may be left out, in front of what is read next. -/
theorem clause_carries {k : Keyword} {p : Parse α} {f : Option α → Parse β}
    (hp : Carries v w p D) (ahead : ∀ o, Carries v w (f o) E)
    (behind : ∀ a b, D a b → Tandem v w (f (some a)) (f (some b)) E) :
    Carries v w (accept k >>= fun given => if given then some <$> p >>= f else pure none >>= f)
      E := by
  refine (accept_carries k).bind_never fun given => ?_
  cases given with
  | false => exact ahead none
  | true =>
      change Carries v w (some <$> p >>= f) E
      rw [map_eq_pure_bind, bind_assoc]
      exact hp.bind (fun a => ahead (some a)) behind

theorem clause_tandem {k : Keyword} {p : Parse α} {f g : Option α → Parse β}
    (h : ∀ o, Tandem v w (f o) (g o) E) :
    Tandem v w (accept k >>= fun given => if given then some <$> p >>= f else pure none >>= f)
      (accept k >>= fun given => if given then some <$> p >>= g else pure none >>= g) E := by
  refine .bind _ fun given => ?_
  cases given with
  | false => exact h none
  | true => exact .bind (some <$> p) h

theorem query_carries : Carries v w query (Plan.Exchange v w) := by
  refine (expect_carries .select).bind_never fun _ => ?_
  refine clause_carries (count_carries .top) (fun top => ?_) fun _ _ h => h.elim
  refine (separated_carries selectItem_carries (acceptSign_carries .comma)).bind (fun select => ?_)
    fun as bs h => (h.not_of_never fun _ _ => id).elim
  refine (expect_carries .from).bind_never fun _ => ?_
  refine tableRef_carries.bind (fun table => ?_) fun t u h => ?_
  · refine .sized (fun c => ?_) fun c d same => by rw [same]
    refine (many_carries (acceptSign_carries .comma) unnest_carries _).bind (fun unnests => ?_)
      fun as bs h => (h.not_of_never fun _ _ => id).elim
    refine .sized (fun c => ?_) fun c d same => by rw [same]
    refine (many_carries seesJoin_carries join_carries _).bind (fun joins => ?_) fun js ks h => ?_
    · refine clause_carries condition_carries (fun on => ?_) fun c d h => ?_
      · refine orderBy_carries.bind_never fun order => ?_
        exact (limit_carries top).bind_never fun limit => .pure _
      · refine .bind orderBy fun order => .bind (limit top) fun limit => ?_
        exact .pure (.condition ⟨table, unnests, joins, none, select, order, limit⟩ h)
    · refine clause_tandem fun on => .bind orderBy fun order => .bind (limit top) fun limit => ?_
      exact .pure (.joins ⟨table, unnests, [], on, select, order, limit⟩ h)
  · refine .bind get fun c => .bind _ fun unnests => .bind get fun d => .bind _ fun joins => ?_
    refine clause_tandem fun on => .bind orderBy fun order => .bind (limit top) fun limit => ?_
    exact .pure (.table ⟨t, unnests, joins, on, select, order, limit⟩ h)

/-! ### Texts

That the texts differ in one token is shown through the lexer: the quotes around the string are
closed where they were opened, whatever stands inside. -/

theorem parseTokens_of_ne_nil {ts : List Token} (nonempty : ts ≠ []) :
    parseTokens ts = query.run ⟨0, ts⟩ >>= fun read =>
      match read.2.rest with
      | [] => .ok read.1
      | t :: _ => .error (.trailing t read.2.position) := by
  cases ts with
  | nil => exact absurd rfl nonempty
  | cons t ts => rfl

/-- Lists of tokens that differ in the content of a string are parsed alike. -/
theorem parseTokens_exchange {ts us : List Token} (h : DifferOnce (Token.Exchange v w) ts us) :
    (∃ e f, parseTokens ts = .error e ∧ parseTokens us = .error f ∧ e.isCount = f.isCount) ∨
      ∃ p q, parseTokens ts = .ok p ∧ parseTokens us = .ok q ∧ p.Exchange v w q := by
  rw [parseTokens_of_ne_nil h.ne_nil.1, parseTokens_of_ne_nil h.ne_nil.2]
  generalize hx : query.run ⟨0, ts⟩ = x
  generalize hy : query.run ⟨0, us⟩ = y
  have agree : Agree v w (Plan.Exchange v w) x y :=
    hx ▸ hy ▸ query_carries ⟨0, ts⟩ ⟨0, us⟩ ⟨rfl, h⟩
  cases agree with
  | fails same => exact .inl ⟨_, _, rfl, rfl, same⟩
  | @ahead p c d h =>
      -- The strings are still to be read, so that something is left on both sides.
      left
      rcases c with ⟨position, _ | ⟨t, ts⟩⟩
      · exact absurd rfl h.rest.ne_nil.1
      · rcases d with ⟨position', _ | ⟨u, us⟩⟩
        · exact absurd rfl h.rest.ne_nil.2
        · exact ⟨_, _, rfl, rfl, rfl⟩
  | @behind p q c h =>
      rcases c with ⟨position, _ | ⟨t, ts⟩⟩
      · exact .inr ⟨p, q, rfl, rfl, h⟩
      · exact .inl ⟨_, _, rfl, rfl, rfl⟩

/-- What is left of a text with a string in single quotes after its ends are dropped. -/
theorem statementText_quoted (p q v : String) :
    statementText (p ++ (Value.string v).literalText ++ q) =
      Text.dropBlank p.toList ++ ((Token.quoted .single v).chars ++ withoutEnd q.toList) := by
  have mark : Text.isBlank '\'' = false := rfl
  have start (cs : List Char) :
      Text.dropBlank (p.toList ++ '\'' :: cs) = Text.dropBlank p.toList ++ '\'' :: cs := by
    simp [Text.dropBlank, List.dropWhile_append, mark]
  have stop := withoutEnd_append mark (by decide)
    (Text.dropBlank p.toList ++ '\'' :: doubled '\'' v.toList) q.toList
  rw [statementText_eq]
  simp only [String.toList_append, toList_literalText_string, Token.chars_quoted, Quote.char,
    List.append_assoc, List.cons_append, List.nil_append] at stop ⊢
  rw [start, stop]

/-- The tokens of a text with a string in single quotes between two others, where neither mark can
belong to another token.  What the string contains plays no part in how the rest is read. -/
theorem tokenize_quoted {p q : String} {ts : List Token} (read : tokenize p = .ok ts)
    (before : p.toList.getLast? ≠ some '\'') (behind : q.toList.head? ≠ some '\'') :
    ∃ us, ∀ v : String, ∃ n, tokenize (p ++ (Value.string v).literalText ++ q) =
      (fun later => us ++ .quoted .single v :: later) <$> lex n (withoutEnd q.toList) := by
  obtain ⟨end', whole, dropped⟩ := exists_withoutEnd (Text.dropBlank p.toList)
  have laid : LaidOut (withoutEnd (Text.dropBlank p.toList)) ts := lex_eq_ok_iff.1 read
  obtain ⟨us, laid⟩ := laid.exists_append fun d hd =>
    (dropped d hd).imp_right fun semicolon => show isWordChar d = true by rw [semicolon]; rfl
  rw [← whole] at laid
  refine ⟨us, fun v => ⟨(statementText (p ++ (Value.string v).literalText ++ q)).length, ?_⟩⟩
  -- The string stands apart from what is before it, since only another mark could stick to it.
  have apart (c d : Char) (last : (Text.dropBlank p.toList).getLast? = some c)
      (head : ((Token.quoted .single v).chars ++ withoutEnd q.toList).head? = some d) :
      sticks c d = false := by
    obtain rfl : '\'' = d := by simpa [Token.chars_quoted, Quote.char] using head
    have other : c ≠ '\'' := by
      rintro rfl
      refine before ?_
      rw [← List.takeWhile_append_dropWhile (p := Text.isBlank) (l := p.toList),
        List.getLast?_append]
      rw [Text.dropBlank] at last
      rw [last]
      rfl
    simp [sticks, isWordChar, wordEnds, other, other.symm]
  have ends : (Token.quoted .single v).EndsAt (withoutEnd q.toList) := by
    intro d head
    have other : d ≠ '\'' := by
      rintro rfl
      exact behind (head?_withoutEnd head)
    exact decide_eq_false other
  have written : (Token.quoted .single v).IsWritten := trivial
  rw [tokenize, statementText_quoted, lex_append laid apart, lex_token written ends]
  cases lex _ (withoutEnd q.toList) <;> rfl

/-- A string cannot escape its quotes: with another string in its place, a query fails with an error
of the same kind, or it is the same query with the other string. -/
theorem parse_quoted {p q : String} {ts : List Token} (read : tokenize p = .ok ts)
    (before : p.toList.getLast? ≠ some '\'') (behind : q.toList.head? ≠ some '\'') (v w : String) :
    (∃ e f, parse (p ++ (Value.string v).literalText ++ q) = .error e ∧
        parse (p ++ (Value.string w).literalText ++ q) = .error f ∧ e.isCount = f.isCount) ∨
      ∃ a b, parse (p ++ (Value.string v).literalText ++ q) = .ok a ∧
        parse (p ++ (Value.string w).literalText ++ q) = .ok b ∧ a.Exchange v w b := by
  obtain ⟨us, tokens⟩ := tokenize_quoted read before behind
  obtain ⟨m, tokensV⟩ := tokens v
  obtain ⟨n, tokensW⟩ := tokens w
  rw [parse, parse, tokensV, tokensW]
  cases later : lex m (withoutEnd q.toList) with
  | ok ts =>
      rw [lex_eq_ok_iff.2 (lex_eq_ok_iff.1 later)]
      exact parseTokens_exchange (.append us (.quoted .single) ts)
  | error e =>
      cases later' : lex n (withoutEnd q.toList) with
      | ok ts =>
          rw [lex_eq_ok_iff.2 (lex_eq_ok_iff.1 later')] at later
          cases later
      | error f =>
          have kind {n : Nat} {e : ParseError} (h : lex n (withoutEnd q.toList) = .error e) :
              e.isCount = false := by
            obtain ⟨c, position, rfl⟩ := lex_failsOnly n _ e h
            rw [tokenFault]
            split <;> rfl
          exact .inl ⟨e, f, rfl, rfl, (kind later).trans (kind later').symm⟩

/-- A name that would join another table to a query, were it not for its quotes. -/
theorem parse_quoted_table :
    let plan (name : String) : Plan := ⟨⟨name, some "x"⟩, [], [], none, [⟨"*", none⟩], [], none⟩
    tokenize "SELECT * FROM " = .ok [.word "SELECT", .word "*", .word "FROM"] ∧
      parse ("SELECT * FROM " ++ (Value.string "t").literalText ++ " x") = .ok (plan "t") ∧
      parse ("SELECT * FROM " ++ (Value.string "t' JOIN 'u").literalText ++ " x") =
        .ok (plan "t' JOIN 'u") ∧
      (plan "t").Exchange "t" "t' JOIN 'u" (plan "t' JOIN 'u") := by
  intro plan
  have read : tokenize "SELECT * FROM " = .ok [.word "SELECT", .word "*", .word "FROM"] := by cbv
  have tokens : tokenize ("SELECT * FROM " ++ (Value.string "t").literalText ++ " x") =
      .ok [.word "SELECT", .word "*", .word "FROM", .quoted .single "t", .word "x"] := by cbv
  have tokens' : tokenize ("SELECT * FROM " ++ (Value.string "t' JOIN 'u").literalText ++ " x") =
      .ok [.word "SELECT", .word "*", .word "FROM", .quoted .single "t' JOIN 'u", .word "x"] := by
    cbv
  have short : parse ("SELECT * FROM " ++ (Value.string "t").literalText ++ " x") =
      .ok (plan "t") := by rw [parse, tokens]; rfl
  have long : parse ("SELECT * FROM " ++ (Value.string "t' JOIN 'u").literalText ++ " x") =
      .ok (plan "t' JOIN 'u") := by rw [parse, tokens']; rfl
  rcases parse_quoted (q := " x") read (by decide) (by decide) "t" "t' JOIN 'u" with
    ⟨e, _, failed, -⟩ | ⟨a, b, parsed, parsed', exchange⟩
  · cases short.symm.trans failed
  · cases short.symm.trans parsed
    cases long.symm.trans parsed'
    exact ⟨read, short, long, exchange⟩

end Sql

end DocQuery
