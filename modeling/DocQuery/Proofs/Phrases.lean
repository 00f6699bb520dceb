/-
Module: DocQuery.Proofs.Phrases
Purpose: A reader of phrases takes exactly what the grammar derives, and so do readers of lists of
  phrases and of phrases that may be left out.
Main exports: Reads, chain_induct, chain_last, chain_next, Reads.commas, Reads.clause, Repeats.reads
-/
import DocQuery.Proofs.Reading

namespace DocQuery.Sql

open Outcome

variable {T α : Type} {p : Parse α} {tokens : T → List Token} {value : T → α}
  {ends : Token → Prop}

/-- The reader `p` reads the phrases of the grammar that are trees of type `T`.  What follows a
phrase starts with a token that has the property `ends`, or else the phrase could go on. -/
structure Reads (p : Parse α) (tokens : T → List Token) (value : T → α) (ends : Token → Prop) :
    Prop where
  sound : ∀ {c c' : Cursor} {a : α}, p.run c = .ok (a, c') →
    ∃ t, value t = a ∧ Span c (tokens t) c'
  complete : ∀ {c c' : Cursor} (t : T), Span c (tokens t) c' → Before ends c'.rest →
    p.run c = .ok (value t, c')
  unique : ∀ {t t' : T} {r r' : List Token}, tokens t ++ r = tokens t' ++ r' →
    Before ends r → Before ends r' → t = t'

/-- Of two phrases at one place, what follows is the same too. -/
theorem Reads.split (h : Reads p tokens value ends) {t t' : T} {r r' : List Token}
    (same : tokens t ++ r = tokens t' ++ r') (stop : Before ends r) (stop' : Before ends r') :
    t = t' ∧ r = r' := by
  obtain rfl := h.unique same stop stop'
  exact ⟨rfl, List.append_cancel_left same⟩

/-- A reader that takes all phrases takes no two at one place, so that two phrases of the same
tokens can only differ in what the tokens and the value leave out. -/
theorem Reads.of_inj
    (sound : ∀ {c c' : Cursor} {a : α}, p.run c = .ok (a, c') →
      ∃ t, value t = a ∧ Span c (tokens t) c')
    (complete : ∀ {c c' : Cursor} (t : T), Span c (tokens t) c' → Before ends c'.rest →
      p.run c = .ok (value t, c'))
    (inj : ∀ {t t' : T}, tokens t = tokens t' → value t = value t' → t = t') :
    Reads p tokens value ends where
  sound := sound
  complete := complete
  unique := by
    intro t t' r r' same stop stop'
    have read : p.run ⟨0, tokens t ++ r⟩ = .ok (value t, ⟨0 + (tokens t).length, r⟩) :=
      complete t ⟨rfl, rfl⟩ stop
    have read' : p.run ⟨0, tokens t ++ r⟩ = .ok (value t', ⟨0 + (tokens t').length, r'⟩) :=
      complete t' ⟨same, rfl⟩ stop'
    rw [read, Except.ok.injEq, Prod.mk.injEq] at read'
    rcases read' with ⟨values, cursors⟩
    obtain rfl : r = r' := congrArg Cursor.rest cursors
    exact inj (List.append_cancel_right same) values

theorem Reads.inj (h : Reads p tokens value ends) {t t' : T} (same : tokens t = tokens t') :
    t = t' :=
  h.unique (congrArg (· ++ []) same) .nil .nil

theorem run_map_eq_ok {β : Type} {c c' : Cursor} {f : α → β} {b : β} :
    (f <$> p).run c = .ok (b, c') ↔ ∃ a, p.run c = .ok (a, c') ∧ f a = b := by
  rw [map_eq_pure_bind, run_bind_eq_ok]
  constructor
  · rintro ⟨a, d, h, done⟩
    rcases run_pure_eq_ok.1 done with ⟨rfl, rfl⟩
    exact ⟨a, h, rfl⟩
  · rintro ⟨a, h, rfl⟩
    exact ⟨a, c', h, rfl⟩

/-! ### Chains

An induction over what a chain reads, so that proofs about lists of phrases never see the fuel. -/

section

variable {item : Parse α} {more : Parse Bool}

/-- What holds of a last item, and of an item before a chain of which it holds, holds of all
chains.  The fuel plays no part in it. -/
theorem chain_induct {motive : Cursor → List α → Cursor → Prop}
    (stay : ∀ {c c'}, more.run c = .ok (false, c') → c = c')
    (last : ∀ {c c' a}, item.run c = .ok (a, c') → motive c [a] c')
    (next : ∀ {c d e c' a as}, item.run c = .ok (a, d) → more.run d = .ok (true, e) →
      motive e as c' → motive c (a :: as) c') (fuel : Nat) :
    ∀ {c c' as}, (chain item more fuel).run c = .ok (as, c') → motive c as c' := by
  induction fuel with
  | zero =>
      intro c c' as h
      rcases run_bind_eq_ok.1 h with ⟨a, d, first, done⟩
      rcases run_pure_eq_ok.1 done with ⟨rfl, rfl⟩
      exact last first
  | succ fuel ih =>
      intro c c' as h
      rcases run_bind_eq_ok.1 h with ⟨a, d, first, h⟩
      rcases run_bind_eq_ok.1 h with ⟨another, e, sep, h⟩
      cases another with
      | false =>
          rcases run_pure_eq_ok.1 h with ⟨rfl, rfl⟩
          obtain rfl := stay sep
          exact last first
      | true =>
          rcases run_bind_eq_ok.1 h with ⟨rest, f, others, done⟩
          rcases run_pure_eq_ok.1 done with ⟨rfl, rfl⟩
          exact next first sep (ih others)

theorem chain_last {c c' : Cursor} {a : α} (fuel : Nat) (first : item.run c = .ok (a, c'))
    (stop : more.run c' = .ok (false, c')) :
    (chain item more fuel).run c = .ok ([a], c') := by
  cases fuel with
  | zero => exact run_bind_eq_ok.2 ⟨a, c', first, rfl⟩
  | succ fuel => exact run_bind_eq_ok.2 ⟨a, c', first, run_bind_eq_ok.2 ⟨false, c', stop, rfl⟩⟩

theorem chain_next {c d e c' : Cursor} {a : α} {as : List α} {fuel : Nat}
    (first : item.run c = .ok (a, d)) (sep : more.run d = .ok (true, e))
    (rest : (chain item more fuel).run e = .ok (as, c')) :
    (chain item more (fuel + 1)).run c = .ok (a :: as, c') :=
  run_bind_eq_ok.2 ⟨a, d, first, run_bind_eq_ok.2 ⟨true, e, sep,
    run_bind_eq_ok.2 ⟨as, c', rest, rfl⟩⟩⟩

theorem separated_run (c : Cursor) :
    (separated item more).run c = (chain item more c.rest.length).run c :=
  rfl

end

/-! ### Phrases with commas between them

Soundness is by the induction over chains, completeness and uniqueness by induction on the list of
phrases. -/

/-- What ends an item of a list also ends the list, unless it is a comma. -/
def EndsList (ends : Token → Prop) (t : Token) : Prop :=
  ends t ∧ t ≠ .sign .comma

namespace Commas

theorem sound (h : Reads p tokens value ends) {c c' : Cursor} {as : List α}
    (read : (separated p (acceptSign .comma)).run c = .ok (as, c')) :
    ∃ ts : Commas T, ts.values value = as ∧ Span c (ts.tokens tokens) c' := by
  rw [separated_run] at read
  refine chain_induct
    (motive := fun c as c' => ∃ ts : Commas T, ts.values value = as ∧ Span c (ts.tokens tokens) c')
    (fun stop => (acceptSign_eq_false.1 stop).1) ?_ ?_ c.rest.length read
  · intro c c' a first
    rcases h.sound first with ⟨t, rfl, span⟩
    exact ⟨.last t, rfl, span⟩
  · intro c d e c' a as first sep rest
    rcases h.sound first with ⟨t, rfl, span⟩
    rcases rest with ⟨ts, rfl, span'⟩
    exact ⟨.more t ts, rfl, span.append ((acceptSign_eq_true.1 sep).cons span')⟩

/-- There are no more commas than tokens, so that the fuel of a chain is enough. -/
theorem chain_complete (h : Reads p tokens value ends) (comma : ends (.sign .comma))
    (ts : Commas T) {fuel : Nat} (enough : (ts.tokens tokens).length ≤ fuel) {c c' : Cursor}
    (span : Span c (ts.tokens tokens) c') (stop : Before (EndsList ends) c'.rest) :
    (chain p (acceptSign .comma) fuel).run c = .ok (ts.values value, c') := by
  induction ts generalizing fuel c with
  | last t =>
      apply chain_last
      · exact h.complete t span (stop.mono fun _ => And.left)
      · exact acceptSign_eq_false.2 ⟨rfl, stop.mono fun _ => And.right⟩
  | more t ts ih =>
      rcases Span.append_iff.1 span with ⟨d, first, span⟩
      rcases Span.cons_iff.1 span with ⟨e, sep, span⟩
      rw [Commas.tokens, List.length_append, List.length_cons] at enough
      cases fuel with
      | zero => omega
      | succ fuel =>
          apply chain_next
          · exact h.complete t first (.of_span sep comma)
          · exact acceptSign_eq_true.2 sep
          · exact ih (by omega) span

theorem unique (h : Reads p tokens value ends) (comma : ends (.sign .comma))
    {ts us : Commas T} {r r' : List Token}
    (same : ts.tokens tokens ++ r = us.tokens tokens ++ r') (stop : Before (EndsList ends) r)
    (stop' : Before (EndsList ends) r') : ts = us := by
  induction ts generalizing us with
  | last t =>
      cases us with
      | last u =>
          rw [h.unique same (stop.mono fun _ => And.left) (stop'.mono fun _ => And.left)]
      | more u us =>
          rw [Commas.tokens, Commas.tokens, List.append_assoc] at same
          rcases h.split same (stop.mono fun _ => And.left) (Before.cons_iff.2 comma) with ⟨_, rfl⟩
          exact absurd rfl (Before.cons_iff.1 stop).2
  | more t ts ih =>
      cases us with
      | last u =>
          rw [Commas.tokens, Commas.tokens, List.append_assoc] at same
          rcases h.split same (Before.cons_iff.2 comma) (stop'.mono fun _ => And.left) with ⟨_, rfl⟩
          exact absurd rfl (Before.cons_iff.1 stop').2
      | more u us =>
          rw [Commas.tokens, Commas.tokens, List.append_assoc, List.append_assoc] at same
          rcases h.split same (Before.cons_iff.2 comma) (Before.cons_iff.2 comma) with ⟨rfl, rest⟩
          rw [ih (List.cons.inj rest).2]

end Commas

theorem Reads.commas (h : Reads p tokens value ends) (comma : ends (.sign .comma)) :
    Reads (separated p (acceptSign .comma)) (Commas.tokens tokens) (Commas.values value)
      (EndsList ends) where
  sound := Commas.sound h
  complete ts span stop := Commas.chain_complete h comma ts span.length_le span stop
  unique := Commas.unique h comma

/-! ### Phrases that may be left out

A reserved word tells whether such a phrase is there.  What follows must not start with this word,
or with anything that goes on with the phrase. -/

theorem accept_reads (k : Keyword) :
    Reads (accept k) optionalWord (fun w : Option (Spelling k) => w.isSome)
      (fun t => t.keyword? ≠ some k) := by
  refine .of_inj ?_ ?_ ?_
  · intro c c' given read
    cases given with
    | false => exact ⟨none, rfl, Span.nil_iff.2 (accept_eq_false.1 read).1.symm⟩
    | true =>
        rcases accept_eq_true.1 read with ⟨w, span⟩
        exact ⟨some w, rfl, span⟩
  · intro c c' w span stop
    cases w with
    | none =>
        obtain rfl := Span.nil_iff.1 span
        exact accept_eq_false.2 ⟨rfl, stop⟩
    | some w => exact accept_eq_true.2 ⟨w, span⟩
  · intro w w' tokens same
    cases w with
    | none =>
        cases w' with
        | none => rfl
        | some w' => cases tokens
    | some w =>
        cases w' with
        | none => cases tokens
        | some w' => rw [Spelling.token_inj (List.cons.inj tokens).1]

namespace Clause

variable {k : Keyword}

theorem sound (h : Reads p tokens value ends) {c c' : Cursor} {a : Option α}
    (read : (accept k >>= fun given => if given then some <$> p else pure none).run c =
      .ok (a, c')) :
    ∃ t : Option (Clause k T), (t.map fun l => value l.body) = a ∧
      Span c (optional (Clause.tokens tokens) t) c' := by
  rcases accept_bind_eq_ok.1 read with ⟨w, d, lead, read⟩ | ⟨-, read⟩
  · rcases run_map_eq_ok.1 read with ⟨b, body, rfl⟩
    rcases h.sound body with ⟨t, rfl, span⟩
    exact ⟨some ⟨w, t⟩, rfl, lead.cons span⟩
  · rcases run_pure_eq_ok.1 read with ⟨rfl, rfl⟩
    exact ⟨none, rfl, Span.nil_iff.2 rfl⟩

theorem complete (h : Reads p tokens value ends) {c c' : Cursor} (t : Option (Clause k T))
    (span : Span c (optional (Clause.tokens tokens) t) c')
    (stop : Before (fun t => ends t ∧ t.keyword? ≠ some k) c'.rest) :
    (accept k >>= fun given => if given then some <$> p else pure none).run c =
      .ok (t.map fun l => value l.body, c') := by
  cases t with
  | none =>
      obtain rfl := Span.nil_iff.1 span
      apply run_bind_ok (accept_eq_false.2 ⟨rfl, stop.mono fun _ => And.right⟩)
      rfl
  | some t =>
      rcases Span.cons_iff.1 span with ⟨d, lead, span⟩
      apply run_bind_ok (accept_eq_true.2 ⟨t.lead, lead⟩)
      exact run_map_eq_ok.2 ⟨_, h.complete t.body span (stop.mono fun _ => And.left), rfl⟩

theorem tokens_inj (inj : ∀ {t u : T}, tokens t = tokens u → t = u) {c d : Clause k T}
    (same : c.tokens tokens = d.tokens tokens) : c = d := by
  rcases c with ⟨w, t⟩
  rcases d with ⟨v, u⟩
  rcases List.cons.inj same with ⟨words, bodies⟩
  obtain rfl : w = v := Spelling.token_inj words
  obtain rfl : t = u := inj bodies
  rfl

theorem optional_inj (inj : ∀ {t u : T}, tokens t = tokens u → t = u) {t u : Option (Clause k T)}
    (same : optional (Clause.tokens tokens) t = optional (Clause.tokens tokens) u) : t = u := by
  cases t with
  | none =>
      cases u with
      | none => rfl
      | some u => cases same
  | some t =>
      cases u with
      | none => cases same
      | some u => rw [tokens_inj inj same]

end Clause

/-- A phrase that is there exactly if its reserved word is. -/
theorem Reads.clause (h : Reads p tokens value ends) (k : Keyword) :
    Reads (accept k >>= fun given => if given then some <$> p else pure none)
      (optional (Clause.tokens tokens)) (Option.map fun c : Clause k T => value c.body)
      (fun t => ends t ∧ t.keyword? ≠ some k) :=
  .of_inj (Clause.sound h) (Clause.complete h) fun same _ => Clause.optional_inj h.inj same

/-- A phrase behind a reserved word that has to be there. -/
theorem Reads.led (h : Reads p tokens value ends) (k : Keyword) :
    Reads (expect k >>= fun _ => p) (Clause.tokens tokens) (fun c : Clause k T => value c.body)
      ends := by
  refine .of_inj ?_ ?_ fun same _ => Clause.tokens_inj h.inj same
  · intro c c' a read
    rcases run_bind_eq_ok.1 read with ⟨_, d, word, body⟩
    rcases expect_eq_ok.1 word with ⟨w, lead⟩
    rcases h.sound body with ⟨t, rfl, span⟩
    exact ⟨⟨w, t⟩, rfl, lead.cons span⟩
  · intro c c' t span stop
    rcases Span.cons_iff.1 span with ⟨d, lead, span⟩
    exact run_bind_ok (expect_eq_ok.2 ⟨t.lead, lead⟩) (h.complete t.body span stop)

/-- What is made of the phrases plays no part in reading them. -/
theorem Reads.map {β : Type} (h : Reads p tokens value ends) (f : α → β) :
    Reads (f <$> p) tokens (fun t => f (value t)) ends where
  sound read := by
    rcases run_map_eq_ok.1 read with ⟨a, inner, rfl⟩
    rcases h.sound inner with ⟨t, rfl, span⟩
    exact ⟨t, rfl, span⟩
  complete t span stop := run_map_eq_ok.2 ⟨value t, h.complete t span stop, rfl⟩
  unique := h.unique

/-! ### Repeated phrases

Here it is a reader that tells whether another phrase follows.  It may take a token, such as a
comma, or only look ahead. -/

/-- The readers `starts` and `item` read a list of phrases: one as long as `starts` succeeds.  A
token with the property `stops` starts none. -/
structure Repeats (starts : Parse Bool) (item : Parse α) (tokens : T → List Token)
    (value : T → α) (ends stops : Token → Prop) : Prop where
  stay : ∀ {c c' : Cursor}, starts.run c = .ok (false, c') → c = c'
  sound : ∀ {c d c' : Cursor} {a : α}, starts.run c = .ok (true, d) → item.run d = .ok (a, c') →
    ∃ t, value t = a ∧ Span c (tokens t) c'
  complete : ∀ {c c' : Cursor} (t : T), Span c (tokens t) c' → Before ends c'.rest →
    ∃ d, starts.run c = .ok (true, d) ∧ item.run d = .ok (value t, c')
  unique : ∀ {t t' : T} {r r' : List Token}, tokens t ++ r = tokens t' ++ r' →
    Before ends r → Before ends r' → t = t'
  stop : ∀ {c : Cursor}, Before stops c.rest → starts.run c = .ok (false, c)
  first : ∀ t : T, ∃ u us, tokens t = u :: us ∧ ends u

namespace Repeats

variable {starts : Parse Bool} {stops : Token → Prop}

/-- Phrases follow one another. -/
theorem before_flatMap (h : Repeats starts p tokens value ends stops) (ts : List T)
    {rest : List Token} (stop : Before ends rest) : Before ends (ts.flatMap tokens ++ rest) := by
  cases ts with
  | nil => exact stop
  | cons t ts =>
      rcases h.first t with ⟨u, us, first, fits⟩
      rw [List.flatMap_cons, first]
      exact Before.cons_iff.2 fits

theorem many_sound (h : Repeats starts p tokens value ends stops) (fuel : Nat) :
    ∀ {c c' : Cursor} {as : List α}, (many starts p fuel).run c = .ok (as, c') →
      ∃ ts : List T, ts.map value = as ∧ Span c (ts.flatMap tokens) c' := by
  induction fuel with
  | zero =>
      intro c c' as read
      rcases run_pure_eq_ok.1 read with ⟨rfl, rfl⟩
      exact ⟨[], rfl, Span.nil_iff.2 rfl⟩
  | succ fuel ih =>
      intro c c' as read
      rcases run_bind_eq_ok.1 read with ⟨another, d, start, read⟩
      cases another with
      | false =>
          rcases run_pure_eq_ok.1 read with ⟨rfl, rfl⟩
          obtain rfl := h.stay start
          exact ⟨[], rfl, Span.nil_iff.2 rfl⟩
      | true =>
          rcases run_bind_eq_ok.1 read with ⟨a, e, first, read⟩
          rcases run_bind_eq_ok.1 read with ⟨bs, e', rest, done⟩
          rcases run_pure_eq_ok.1 done with ⟨rfl, rfl⟩
          rcases h.sound start first with ⟨t, rfl, span⟩
          rcases ih rest with ⟨ts, rfl, span'⟩
          exact ⟨t :: ts, rfl, span.append span'⟩

/-- There are no more phrases than tokens, so that the fuel is enough. -/
theorem many_complete (h : Repeats starts p tokens value ends stops) (ts : List T) {fuel : Nat}
    (enough : (ts.flatMap tokens).length ≤ fuel) {c c' : Cursor}
    (span : Span c (ts.flatMap tokens) c') (stop : Before (fun t => ends t ∧ stops t) c'.rest) :
    (many starts p fuel).run c = .ok (ts.map value, c') := by
  induction ts generalizing fuel c with
  | nil =>
      obtain rfl := Span.nil_iff.1 span
      cases fuel with
      | zero => rfl
      | succ fuel =>
          apply run_bind_ok (h.stop (stop.mono fun _ => And.right))
          rfl
  | cons t ts ih =>
      rcases h.first t with ⟨u, us, nonempty, _⟩
      rw [List.flatMap_cons, List.length_append, nonempty, List.length_cons] at enough
      rcases Span.append_iff.1 span with ⟨e, first, rest⟩
      have follows : Before ends e.rest := by
        rw [rest.1]
        exact h.before_flatMap ts (stop.mono fun _ => And.left)
      rcases h.complete t first follows with ⟨d, start, item⟩
      cases fuel with
      | zero => omega
      | succ fuel =>
          apply run_bind_ok start
          apply run_bind_ok item
          apply run_bind_ok (ih (by omega) rest)
          rfl

theorem flatMap_inj (h : Repeats starts p tokens value ends stops) {ts us : List T}
    (same : ts.flatMap tokens = us.flatMap tokens) (values : ts.map value = us.map value) :
    ts = us := by
  induction ts generalizing us with
  | nil =>
      cases us with
      | nil => rfl
      | cons u us => cases values
  | cons t ts ih =>
      cases us with
      | nil => cases values
      | cons u us =>
          have follows (vs : List T) : Before ends (vs.flatMap tokens) := by
            simpa using h.before_flatMap vs .nil
          obtain rfl : t = u := h.unique same (follows ts) (follows us)
          rw [ih (List.append_cancel_left same) (List.cons.inj values).2]

theorem reads (h : Repeats starts p tokens value ends stops) :
    Reads (do many starts p (← get).rest.length) (List.flatMap tokens) (List.map value)
      (fun t => ends t ∧ stops t) :=
  .of_inj (fun read => h.many_sound _ read)
    (fun ts span stop => h.many_complete ts span.length_le span stop) h.flatMap_inj

end Repeats

end DocQuery.Sql
