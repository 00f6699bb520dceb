/-
Module: DocQuery.Proofs.PathGrammar
Purpose: The texts that path expressions have: steps, each in one of its written forms, behind a
  dollar sign.
Main exports: StepForm, StepForm.IsWritten, StepForm.step, RecordPath.readStep_chars,
  RecordPath.eq_chars_of_readStep, RecordPath.readSteps_cases, RecordPath.le_length_of_readSteps,
  RecordPath.flatMap_chars_inj, RecordPath.Spelled, RecordPath.Refused, RecordPath.parse_grammar
-/
import DocQuery.Proofs.Lexing
import DocQuery.RecordPath
import Mathlib.Data.Nat.Digits.Defs

namespace DocQuery

/-! ### Written forms

Two characters tell the form of a step.  Only a name behind a point does not show its own end, which
is why `EndsAt` asks something of what follows. -/

/-- The ways to write a step: `.name`, `[digits]`, `['name']`, `[*]` and `[]`. -/
inductive StepForm where
  | member (name : List Char)
  | index (digits : List Char)
  | quoted (name : List Char)
  | star
  | brackets
deriving DecidableEq, Repr

namespace StepForm

/-- A form as it is written. -/
def chars : StepForm → List Char
  | .member name => '.' :: name
  | .index digits => '[' :: (digits ++ [']'])
  | .quoted name => '[' :: '\'' :: (name ++ ['\'', ']'])
  | .star => ['[', '*', ']']
  | .brackets => ['[', ']']

/-- A form that can be written.  A name behind a point has characters, but no point and no bracket;
an index consists of decimal digits; a name in quotes has no quote in it. -/
def IsWritten : StepForm → Prop
  | .member name => name ≠ [] ∧ ∀ c ∈ name, c ≠ '.' ∧ c ≠ '[' ∧ c ≠ ']'
  | .index digits => digits ≠ [] ∧ ∀ c ∈ digits, (Text.digitValue? c).isSome = true
  | .quoted name => '\'' ∉ name
  | .star | .brackets => True

/-- What a form means.  An asterisk behind a point is no name, and an index is the decimal value of
its digits, the last of which counts ones. -/
def step : StepForm → PathStep
  | .member name => if name = ['*'] then .wildcard else .key (String.ofList name)
  | .index digits => .index (Nat.ofDigits 10 (digits.reverse.filterMap Text.digitValue?))
  | .quoted name => .key (String.ofList name)
  | .star | .brackets => .wildcard

/-- A name behind a point ends where no character follows that it could have; all other forms have
an end of their own. -/
def EndsAt (f : StepForm) (rest : List Char) : Prop :=
  match f with
  | .member _ => ∀ c, rest.head? = some c → RecordPath.isKeyChar c = false
  | _ => True

theorem chars_ne_nil (f : StepForm) : f.chars ≠ [] := by
  cases f <;> exact List.cons_ne_nil _ _

/-- A form ends where another one starts: none starts with a character that a name behind a point
could have. -/
theorem endsAt_chars (f g : StepForm) (rest : List Char) : f.EndsAt (g.chars ++ rest) := by
  cases f with
  | member name =>
      intro c hc
      cases g <;> cases hc <;> rfl
  | index _ | quoted _ | star | brackets => trivial

theorem endsAt_nil (f : StepForm) : f.EndsAt [] := by
  cases f with
  | member name => exact nofun
  | index _ | quoted _ | star | brackets => trivial

/-- A form ends where others follow, if any do. -/
theorem endsAt_flatMap (f : StepForm) (forms : List StepForm) :
    f.EndsAt (forms.flatMap chars) := by
  cases forms with
  | nil => exact f.endsAt_nil
  | cons g forms => exact f.endsAt_chars g _

end StepForm

/-- Decimal digits write the sum of their values, each times the power of ten of its place. -/
theorem Text.natOfDigits_eq {digits : List Char}
    (decimal : ∀ c ∈ digits, (digitValue? c).isSome = true) :
    natOfDigits digits = Nat.ofDigits 10 (digits.reverse.filterMap digitValue?) := by
  induction digits using List.reverseRecOn with
  | nil => rfl
  | append_singleton digits d ih =>
      obtain ⟨before, last⟩ := List.forall_mem_append.1 decimal
      obtain ⟨n, value⟩ := Option.isSome_iff_exists.1 (last d (List.mem_singleton_self d))
      have shift : natOfDigits (digits ++ [d]) = 10 * natOfDigits digits + n := by
        simp [natOfDigits, value]
      rw [shift, ih before, List.reverse_concat, List.filterMap_cons_some value,
        Nat.ofDigits_cons, Nat.add_comm]

namespace RecordPath

open StepForm

theorem isKeyChar_iff {c : Char} : isKeyChar c = true ↔ c ≠ '.' ∧ c ≠ '[' ∧ c ≠ ']' := by
  simp [isKeyChar, and_assoc]

/-! ### One step

In both directions: a form that is written is read, and what is read was a form. -/

/-- None of the characters that start other forms behind a bracket is a digit. -/
theorem readBracket_index {d : Char} {digits : List Char}
    (all : ∀ c ∈ d :: digits, Text.isDecimalDigit c = true) (rest : List Char) :
    readBracket (d :: digits ++ ']' :: rest) =
      some (.index (Text.natOfDigits (d :: digits)), rest) := by
  obtain ⟨taken, left⟩ := Sql.takeWhile_cons_stop all (c := ']') (by decide) rest
  have first := all d List.mem_cons_self
  generalize text : d :: digits ++ ']' :: rest = cs at taken left
  unfold readBracket
  split
  case h_1 =>
      obtain ⟨rfl, _⟩ := List.cons.inj text
      exact absurd first (by decide)
  case h_2 =>
      obtain ⟨rfl, _⟩ := List.cons.inj text
      exact absurd first (by decide)
  case h_3 =>
      obtain ⟨rfl, _⟩ := List.cons.inj text
      exact absurd first (by decide)
  case h_4 => simp only [taken, left]

theorem readBracket_quoted {name : List Char} (inside : '\'' ∉ name) (rest : List Char) :
    readBracket ('\'' :: (name ++ '\'' :: ']' :: rest)) =
      some (.key (String.ofList name), rest) := by
  have all : ∀ c ∈ name, decide (c ≠ '\'') = true := fun c hc =>
    decide_eq_true fun same => inside (same ▸ hc)
  obtain ⟨taken, left⟩ := Sql.takeWhile_cons_stop all (c := '\'') (by decide) (']' :: rest)
  simp only [readBracket, taken, left]

/-- A form at the start of a text is read if it ends there. -/
theorem readStep_chars {f : StepForm} (written : f.IsWritten) {rest : List Char}
    (ends : f.EndsAt rest) : readStep (f.chars ++ rest) = some (f.step, rest) := by
  cases f with
  | member name =>
      obtain ⟨some', all⟩ := written
      obtain ⟨taken, left⟩ :=
        Sql.takeWhile_append_stop (fun c hc => isKeyChar_iff.2 (all c hc)) ends
      obtain ⟨c, cs, rfl⟩ := List.exists_cons_of_ne_nil some'
      rw [chars, List.cons_append, readStep, taken, left]
      rfl
  | index digits =>
      obtain ⟨some', all⟩ := written
      obtain ⟨d, ds, rfl⟩ := List.exists_cons_of_ne_nil some'
      rw [step, ← Text.natOfDigits_eq all, chars, List.cons_append, List.append_assoc]
      exact readBracket_index all rest
  | quoted name =>
      rw [chars, List.cons_append, List.cons_append, List.append_assoc]
      exact readBracket_quoted written rest
  | star => rfl
  | brackets => rfl

/-- What is read behind a bracket is one of the forms that start with it. -/
theorem eq_chars_of_readBracket {cs rest : List Char} {s : PathStep}
    (h : readBracket cs = some (s, rest)) :
    ∃ f : StepForm, f.IsWritten ∧ f.step = s ∧ '[' :: cs = f.chars ++ rest ∧ f.EndsAt rest := by
  unfold readBracket at h
  split at h
  case h_1 =>
      cases h
      exact ⟨.brackets, trivial, rfl, rfl, trivial⟩
  case h_2 =>
      cases h
      exact ⟨.star, trivial, rfl, rfl, trivial⟩
  case h_3 cs =>
      -- A name in quotes goes on up to the next quote, which the bracket has to follow.
      have whole := List.takeWhile_append_dropWhile (p := (· ≠ '\'')) (l := cs)
      have inside : '\'' ∉ cs.takeWhile (· ≠ '\'') := fun quote => by
        simpa using List.mem_takeWhile_imp quote
      generalize cs.takeWhile (· ≠ '\'') = name at h whole inside
      generalize cs.dropWhile (· ≠ '\'') = behind at h whole
      subst whole
      split at h
      case h_1 =>
          cases h
          exact ⟨.quoted name, inside, rfl, by simp [chars], trivial⟩
      case h_2 => cases h
  case h_4 =>
      split at h
      case h_1 d digits rest' taken left =>
          cases h
          -- The digits that were taken make up the index, leading zeros included.
          have whole := List.takeWhile_append_dropWhile (p := Text.isDecimalDigit) (l := cs)
          have all : ∀ c ∈ d :: digits, Text.isDecimalDigit c = true := fun c hc =>
            List.mem_takeWhile_imp (taken ▸ hc)
          rw [taken, left] at whole
          subst whole
          refine ⟨.index (d :: digits), ⟨List.cons_ne_nil _ _, all⟩, ?_, by simp [chars], trivial⟩
          rw [step, ← Text.natOfDigits_eq all]
      case h_2 => cases h

/-- What is read as a step is one of the forms, as far as it goes. -/
theorem eq_chars_of_readStep {cs rest : List Char} {s : PathStep}
    (h : readStep cs = some (s, rest)) :
    ∃ f : StepForm, f.IsWritten ∧ f.step = s ∧ cs = f.chars ++ rest ∧ f.EndsAt rest := by
  unfold readStep at h
  split at h
  case h_1 cs =>
      have whole := List.takeWhile_append_dropWhile (p := isKeyChar) (l := cs)
      have all : ∀ c ∈ cs.takeWhile isKeyChar, isKeyChar c = true :=
        fun c hc => List.mem_takeWhile_imp hc
      have stop : ∀ c, (cs.dropWhile isKeyChar).head? = some c → isKeyChar c = false := by
        intro c hc
        have stops := List.head?_dropWhile_not isKeyChar cs
        rw [hc] at stops
        simpa using stops
      generalize cs.takeWhile isKeyChar = name at h whole all
      generalize cs.dropWhile isKeyChar = behind at h whole stop
      subst whole
      split at h
      case h_1 => cases h
      case h_2 some' =>
          cases h
          exact ⟨.member name, ⟨some', fun c hc => isKeyChar_iff.1 (all c hc)⟩, rfl, rfl, stop⟩
  case h_2 => exact eq_chars_of_readBracket h
  case h_3 => cases h

/-- Of whatever a form stands in front, a step is read that takes at least the form. -/
theorem exists_readStep {f : StepForm} (written : f.IsWritten) (behind : List Char) :
    ∃ s rest, readStep (f.chars ++ behind) = some (s, rest) ∧ rest.length ≤ behind.length := by
  cases f with
  | member name =>
      obtain ⟨some', all⟩ := written
      have all' : ∀ c ∈ name, isKeyChar c = true := fun c hc => isKeyChar_iff.2 (all c hc)
      obtain ⟨c, cs, rfl⟩ := List.exists_cons_of_ne_nil some'
      have first : isKeyChar c = true := all' c List.mem_cons_self
      refine ⟨keyStep (c :: (cs ++ behind).takeWhile isKeyChar), behind.dropWhile isKeyChar, ?_,
        (List.dropWhile_sublist _).length_le⟩
      rw [chars, List.cons_append, readStep, List.dropWhile_append_of_pos all', List.cons_append,
        List.takeWhile_cons_of_pos first]
  | index _ | quoted _ | star | brackets =>
      exact ⟨_, behind, readStep_chars written trivial, Nat.le_refl _⟩

/-! ### All steps

Reading goes on from step to step until no step starts.  If the text is not at its end there, no
other way to cut it would have come further. -/

theorem readSteps_of_read {cs rest : List Char} {s : PathStep}
    (read : readStep cs = some (s, rest)) : readSteps cs = (readSteps rest).map (s :: ·) := by
  cases cs with
  | nil => cases read
  | cons c more =>
      rw [readSteps]
      split
      case h_1 unread =>
          rw [read] at unread
          cases unread
      case h_2 read' =>
          rw [read] at read'
          cases read'
          rfl

/-- Forms, one behind the other, are read as what they mean. -/
theorem readSteps_flatMap {forms : List StepForm} (written : ∀ f ∈ forms, f.IsWritten) :
    readSteps (forms.flatMap chars) = .ok (forms.map step) := by
  induction forms with
  | nil => rw [List.flatMap_nil, readSteps, List.map_nil]
  | cons f forms ih =>
      obtain ⟨first, rest⟩ := List.forall_mem_cons.1 written
      rw [List.flatMap_cons, readSteps_of_read (readStep_chars first (endsAt_flatMap f forms)),
        ih rest]
      rfl

/-- A text is read up to its end or up to a place where no step starts. -/
theorem readSteps_cases (cs : List Char) :
    (∃ forms : List StepForm, (∀ f ∈ forms, f.IsWritten) ∧ cs = forms.flatMap chars ∧
      readSteps cs = .ok (forms.map step)) ∨
    ∃ (forms : List StepForm) (stuck : List Char), (∀ f ∈ forms, f.IsWritten) ∧
      cs = forms.flatMap chars ++ stuck ∧ readSteps cs = .error stuck.length := by
  fun_induction readSteps cs with
  | case1 => exact .inl ⟨[], List.forall_mem_nil _, rfl, rfl⟩
  | case2 c more unread => exact .inr ⟨[], c :: more, List.forall_mem_nil _, rfl, rfl⟩
  | case3 c more s rest read ih =>
      obtain ⟨f, written, rfl, text, _⟩ := eq_chars_of_readStep read
      rcases ih with ⟨forms, all, rfl, done⟩ | ⟨forms, stuck, all, rfl, failed⟩
      · refine .inl ⟨f :: forms, List.forall_mem_cons.2 ⟨written, all⟩, text, ?_⟩
        rw [done]
        rfl
      · refine .inr ⟨f :: forms, stuck, List.forall_mem_cons.2 ⟨written, all⟩, ?_, ?_⟩
        · rw [text, List.flatMap_cons, List.append_assoc]
        · rw [failed]
          rfl

/-- No forms go further than to the place where reading stops. -/
theorem le_length_of_readSteps {forms : List StepForm} (written : ∀ f ∈ forms, f.IsWritten)
    {behind : List Char} {left : Nat}
    (failed : readSteps (forms.flatMap chars ++ behind) = .error left) : left ≤ behind.length := by
  have left_le {cs : List Char} (h : readSteps cs = .error left) : left ≤ cs.length := by
    rcases readSteps_cases cs with ⟨_, _, _, done⟩ | ⟨forms, stuck, _, rfl, failed⟩
    · rw [done] at h
      cases h
    · rw [failed] at h
      cases h
      rw [List.length_append]
      exact Nat.le_add_left _ _
  have after {cs rest : List Char} {s : PathStep} (read : readStep cs = some (s, rest))
      (h : readSteps cs = .error left) : readSteps rest = .error left := by
    rw [readSteps_of_read read] at h
    cases rest' : readSteps rest with
    | error n =>
        rw [rest'] at h
        exact h
    | ok steps =>
        rw [rest'] at h
        cases h
  induction forms with
  | nil => exact left_le failed
  | cons f forms ih =>
      obtain ⟨first, rest⟩ := List.forall_mem_cons.1 written
      rw [List.flatMap_cons, List.append_assoc] at failed
      cases forms with
      | nil =>
          -- A name may go on behind the last form, which then is only the start of a step.
          obtain ⟨s, rest', read, shorter⟩ := exists_readStep first behind
          exact (left_le (after read failed)).trans shorter
      | cons g forms =>
          have ends : f.EndsAt ((g :: forms).flatMap chars ++ behind) := by
            rw [List.flatMap_cons, List.append_assoc]
            exact f.endsAt_chars g _
          exact ih rest (after (readStep_chars first ends) failed)

/-! ### Path expressions

Two lists of forms with the same characters are the same list.  The first forms end at the same
place, where the reader stops, and a form is known by its characters. -/

/-- Forms that can be written are told apart by their characters. -/
theorem StepForm.chars_inj {f g : StepForm} (hf : f.IsWritten) (hg : g.IsWritten)
    (same : f.chars = g.chars) : f = g := by
  have digit {digits more : List Char} {c : Char} (written : (StepForm.index digits).IsWritten)
      (text : digits ++ [']'] = c :: more) : Text.isDecimalDigit c = true := by
    obtain ⟨some', all⟩ := written
    obtain ⟨d, ds, rfl⟩ := List.exists_cons_of_ne_nil some'
    obtain ⟨rfl, _⟩ := List.cons.inj text
    exact all d List.mem_cons_self
  -- The first two characters tell the forms apart, once it is known that an index has a digit.
  cases f with
  | member name => cases g <;> simp_all [chars]
  | index digits =>
      cases g with
      | member name => simp [chars] at same
      | index digits' => simpa [chars] using same
      | quoted name => exact absurd (digit hf (List.cons.inj same).2) (by decide)
      | star => exact absurd (digit hf (List.cons.inj same).2) (by decide)
      | brackets => exact absurd (digit hf (List.cons.inj same).2) (by decide)
  | quoted name =>
      cases g with
      | index digits => exact absurd (digit hg (List.cons.inj same).2.symm) (by decide)
      | quoted name' => simpa [chars] using same
      | member _ | star | brackets => simp [chars] at same
  | star =>
      cases g with
      | index digits => exact absurd (digit hg (List.cons.inj same).2.symm) (by decide)
      | star => rfl
      | member _ | quoted _ | brackets => simp [chars] at same
  | brackets =>
      cases g with
      | index digits => exact absurd (digit hg (List.cons.inj same).2.symm) (by decide)
      | brackets => rfl
      | member _ | quoted _ | star => simp [chars] at same

/-- A text consists of forms in one way at most. -/
theorem flatMap_chars_inj {forms forms' : List StepForm} (written : ∀ f ∈ forms, f.IsWritten)
    (written' : ∀ f ∈ forms', f.IsWritten)
    (same : forms.flatMap chars = forms'.flatMap chars) : forms = forms' := by
  induction forms generalizing forms' with
  | nil =>
      cases forms' with
      | nil => rfl
      | cons g forms' => exact absurd (List.append_eq_nil_iff.1 same.symm).1 g.chars_ne_nil
  | cons f forms ih =>
      cases forms' with
      | nil => exact absurd (List.append_eq_nil_iff.1 same).1 f.chars_ne_nil
      | cons g forms' =>
          obtain ⟨first, rest⟩ := List.forall_mem_cons.1 written
          obtain ⟨first', rest'⟩ := List.forall_mem_cons.1 written'
          rw [List.flatMap_cons, List.flatMap_cons] at same
          have read := readStep_chars first (endsAt_flatMap f forms)
          have read' := readStep_chars first' (endsAt_flatMap g forms')
          rw [same, read'] at read
          have behind : forms'.flatMap chars = forms.flatMap chars :=
            (Prod.mk.inj (Option.some.inj read)).2
          rw [behind] at same
          have front := StepForm.chars_inj first first' (List.append_cancel_right same)
          rw [front, ih rest rest' behind.symm]

/-- A path expression is spelled by forms: without the white space around it, it is a dollar sign
with the forms behind it. -/
structure Spelled (expression : String) (forms : List StepForm) : Prop where
  written : ∀ f ∈ forms, f.IsWritten
  text : Text.trimBlank expression.toList = '$' :: forms.flatMap chars

/-- A text is no path expression, and why: it does not start with a dollar sign, or behind some
forms there is a place from which no step leads on, past which no other forms get either. -/
inductive Refused (expression : String) : PathError → Prop where
  | noRoot (other : (Text.trimBlank expression.toList).head? ≠ some '$') :
      Refused expression (.noRoot expression)
  | badStep {forms : List StepForm} {stuck : List Char} (written : ∀ f ∈ forms, f.IsWritten)
      (text : Text.trimBlank expression.toList = '$' :: (forms.flatMap chars ++ stuck))
      (longest : ∀ (forms' : List StepForm) (behind : List Char), (∀ f ∈ forms', f.IsWritten) →
        forms'.flatMap chars ++ behind = forms.flatMap chars ++ stuck →
        stuck.length ≤ behind.length) :
      Refused expression (.badStep expression (1 + (forms.flatMap chars).length))

theorem parse_of_root {expression : String} {cs : List Char}
    (root : Text.trimBlank expression.toList = '$' :: cs) :
    parse expression =
      (readSteps cs).mapError fun left => .badStep expression (1 + cs.length - left) := by
  simp only [parse, root]
  cases readSteps cs with
  | error left => rfl
  | ok steps => rfl

theorem parse_of_other {expression : String}
    (other : (Text.trimBlank expression.toList).head? ≠ some '$') :
    parse expression = .error (.noRoot expression) := by
  rw [parse]
  split
  case h_1 root =>
      rw [root] at other
      exact absurd rfl other
  case h_2 => rfl

/-- A text is a path expression exactly if it is spelled by forms.  There is only one way to do
that, and the steps that are read are what the forms mean, in their order.  Any other text is
refused, and the error tells where. -/
theorem parse_grammar (expression : String) :
    (∃ forms, Spelled expression forms ∧
      (∀ forms', Spelled expression forms' → forms' = forms) ∧
      parse expression = .ok (forms.map step)) ∨
    (∀ forms, ¬ Spelled expression forms) ∧
      ∃ e, Refused expression e ∧ parse expression = .error e := by
  by_cases root : (Text.trimBlank expression.toList).head? = some '$'
  · obtain ⟨cs, text⟩ := List.head?_eq_some_iff.1 root
    have parsed := parse_of_root text
    rcases readSteps_cases cs with ⟨forms, written, rfl, read⟩ | ⟨forms, stuck, written, rfl, read⟩
    · refine .inl ⟨forms, ⟨written, text⟩, fun forms' spelled => ?_, by rw [parsed, read]; rfl⟩
      have same := (List.cons.inj (spelled.text.symm.trans text)).2
      exact flatMap_chars_inj spelled.written written same
    · refine .inr ⟨fun forms' spelled => ?_, _, .badStep written text ?_, ?_⟩
      · have same := (List.cons.inj (spelled.text.symm.trans text)).2
        rw [← same, readSteps_flatMap spelled.written] at read
        cases read
      · intro forms' behind written' same
        exact le_length_of_readSteps written' (same ▸ read)
      · have left : 1 + (forms.flatMap chars ++ stuck).length - stuck.length =
            1 + (forms.flatMap chars).length := by
          rw [List.length_append, ← Nat.add_assoc, Nat.add_sub_cancel]
        rw [parsed, read, Except.mapError, left]
  · refine .inr ⟨fun forms spelled => root ?_, _, .noRoot root, parse_of_other root⟩
    rw [spelled.text]
    rfl

example : parse " $.shop['a.b'][٣][].*\n" =
    .ok [.key "shop", .key "a.b", .index 3, .wildcard, .wildcard] := by cbv

end RecordPath

end DocQuery
