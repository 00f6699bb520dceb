/-
Module: DocQuery.Proofs.Terminators
Purpose: White space and semicolons at the end of a query: which of them are left out, and that the
  others end up in the plan.
Main exports: Sql.EndsApart, Sql.Parted, Sql.withoutEnd_of_not_parted, Sql.count_withoutEnd_lt,
  Sql.parse_append_terminators
-/
import DocQuery.Proofs.PlanStrings

namespace DocQuery.Sql

/-! ### Characters that are left -/

theorem count_dropEnd_le (p : Char → Bool) (c : Char) (cs : List Char) :
    (Text.dropEnd p cs).count c ≤ cs.count c := by
  obtain ⟨ds, whole, -⟩ := Text.exists_dropEnd p cs
  rw [whole, List.count_append, ← whole]
  exact Nat.le_add_right _ _

theorem count_dropBlank {c : Char} (visible : Text.isBlank c = false) (cs : List Char) :
    (Text.dropBlank cs).count c = cs.count c := by
  induction cs with
  | nil => rfl
  | cons d cs ih =>
      cases blank : Text.isBlank d with
      | true =>
          rw [List.count_cons_of_ne (ne_of_isBlank blank visible), ← ih]
          simp [Text.dropBlank, blank]
      | false => simp [Text.dropBlank, blank]

theorem statementText_eq_dropBlank (sql : String) :
    statementText sql = Text.dropBlank (withoutEnd sql.toList) := by
  simp only [statementText_eq, withoutEnd, Text.dropEnd_dropBlank]

/-! ### One more character

White space, semicolons and white space again are dropped from the end, each once.  What this does
is looked at one character at a time, as the text grows. -/

/-- A semicolon ends a text, but for white space behind it. -/
def EndsApart (cs : List Char) : Prop :=
  ∃ before gap, cs = before ++ ';' :: gap ∧ gap ≠ [] ∧ ∀ c ∈ gap, Text.isBlank c = true

theorem dropEnd_semicolon_blank {b : Char} (blank : Text.isBlank b = true) (cs : List Char) :
    Text.dropEnd (· = ';') (cs ++ [b]) = cs ++ [b] :=
  Text.dropEnd_concat_of_stays (decide_eq_false (ne_of_isBlank blank rfl)) cs

theorem withoutEnd_blank {c : Char} (blank : Text.isBlank c = true) (cs : List Char) :
    withoutEnd (cs ++ [c]) = withoutEnd cs := by
  rw [withoutEnd, Text.dropEnd_concat blank, withoutEnd]

theorem withoutEnd_semicolon (cs : List Char) :
    withoutEnd (cs ++ [';']) = Text.dropEnd Text.isBlank (Text.dropEnd (· = ';') cs) := by
  rw [withoutEnd, Text.dropEnd_concat_of_stays (by decide), Text.dropEnd_concat (by decide)]

/-- A semicolon that white space does not part from another one is left out. -/
theorem withoutEnd_semicolon_of_not_endsApart {cs : List Char} (h : ¬ EndsApart cs) :
    withoutEnd (cs ++ [';']) = withoutEnd cs := by
  rw [withoutEnd_semicolon, withoutEnd]
  obtain ⟨gap, whole, blank⟩ := Text.exists_dropEnd Text.isBlank cs
  cases gap using List.reverseRecOn with
  | nil =>
      rw [List.append_nil] at whole
      rw [← whole]
  | append_singleton gap b =>
      -- White space keeps the semicolons before it, and there are none right before it.
      have stays : Text.dropEnd (· = ';') cs = cs := by
        rw [whole, ← List.append_assoc]
        exact dropEnd_semicolon_blank (blank b (by simp)) _
      have trimmed : Text.dropEnd (· = ';') (Text.dropEnd Text.isBlank cs) =
          Text.dropEnd Text.isBlank cs := by
        refine Text.dropEnd_eq_self fun c last => decide_eq_false ?_
        rintro rfl
        obtain ⟨before, ends⟩ := List.getLast?_eq_some_iff.1 last
        refine h ⟨before, gap ++ [b], ?_, by simp, blank⟩
        rw [List.append_cons, ← ends, ← whole]
      rw [stays, trimmed, Text.dropEnd_eq_self fun c => Text.getLast?_dropEnd]

/-- A semicolon that white space parts from another one keeps that one. -/
theorem count_withoutEnd_semicolon {cs : List Char} (h : EndsApart cs) :
    (withoutEnd cs).count ';' < (withoutEnd (cs ++ [';'])).count ';' := by
  obtain ⟨before, gap, rfl, nonempty, blank⟩ := h
  have trimmed : Text.dropEnd Text.isBlank (before ++ ';' :: gap) = before ++ [';'] := by
    rw [Text.dropEnd_append (by decide), Text.dropEnd_eq_nil blank]
  have stays : Text.dropEnd (· = ';') (before ++ ';' :: gap) = before ++ ';' :: gap := by
    obtain ⟨gap, b, rfl⟩ := (List.eq_nil_or_concat gap).resolve_left nonempty
    simpa using dropEnd_semicolon_blank (blank b (by simp)) (before ++ ';' :: gap)
  rw [withoutEnd_semicolon, stays, trimmed, List.count_append, List.count_singleton_self,
    Nat.lt_succ_iff, withoutEnd, trimmed, Text.dropEnd_concat (by decide)]
  exact (count_dropEnd_le _ _ _).trans (count_dropEnd_le _ _ _)

/-! ### Any number of characters

By induction on what is put behind a text, from its last character on.  Either nothing of it is
left, or some semicolon stays for good. -/

/-- One of the semicolons of `us`, which follow `cs`, is parted from the one before it by white
space. -/
def Parted (cs us : List Char) : Prop :=
  ∃ first rest, us = first ++ ';' :: rest ∧ EndsApart (cs ++ first)

theorem parted_concat {cs us : List Char} {c : Char} :
    Parted cs (us ++ [c]) ↔ Parted cs us ∨ c = ';' ∧ EndsApart (cs ++ us) := by
  constructor
  · rintro ⟨first, rest, whole, apart⟩
    cases rest using List.reverseRecOn with
    | nil =>
        obtain ⟨rfl, same⟩ := List.append_inj' whole rfl
        cases same
        exact .inr ⟨rfl, apart⟩
    | append_singleton rest d =>
        rw [← List.cons_append, ← List.append_assoc] at whole
        exact .inl ⟨first, rest, (List.append_inj' whole rfl).1, apart⟩
  · rintro (⟨first, rest, rfl, apart⟩ | ⟨rfl, apart⟩)
    · exact ⟨first, rest ++ [c], by simp, apart⟩
    · exact ⟨us, [], rfl, apart⟩

section

variable {cs us : List Char}

/-- White space and semicolons are left out as long as no semicolon is parted from another. -/
theorem withoutEnd_of_not_parted (h : ∀ c ∈ us, Text.isBlank c = true ∨ c = ';')
    (together : ¬ Parted cs us) : withoutEnd (cs ++ us) = withoutEnd cs := by
  induction us using List.reverseRecOn with
  | nil => rw [List.append_nil]
  | append_singleton us c ih =>
      rw [parted_concat, not_or] at together
      rw [← ih (fun d hd => h d (by simp [hd])) together.1, ← List.append_assoc]
      rcases h c (by simp) with blank | rfl
      · exact withoutEnd_blank blank _
      · exact withoutEnd_semicolon_of_not_endsApart fun apart => together.2 ⟨rfl, apart⟩

theorem count_withoutEnd_le (h : ∀ c ∈ us, Text.isBlank c = true ∨ c = ';') :
    (withoutEnd cs).count ';' ≤ (withoutEnd (cs ++ us)).count ';' := by
  induction us using List.reverseRecOn with
  | nil => rw [List.append_nil]
  | append_singleton us c ih =>
      refine (ih fun d hd => h d (by simp [hd])).trans ?_
      rw [← List.append_assoc]
      rcases h c (by simp) with blank | rfl
      · rw [withoutEnd_blank blank]
      · by_cases apart : EndsApart (cs ++ us)
        · exact (count_withoutEnd_semicolon apart).le
        · rw [withoutEnd_semicolon_of_not_endsApart apart]

/-- A semicolon parted from the one before it leaves that one in the text for good. -/
theorem count_withoutEnd_lt (h : ∀ c ∈ us, Text.isBlank c = true ∨ c = ';')
    (parted : Parted cs us) :
    (withoutEnd cs).count ';' < (withoutEnd (cs ++ us)).count ';' := by
  obtain ⟨first, rest, rfl, apart⟩ := parted
  have later : cs ++ (first ++ ';' :: rest) = cs ++ first ++ [';'] ++ rest := by simp
  have before : ∀ c ∈ first, Text.isBlank c = true ∨ c = ';' := fun c hc => h c (by simp [hc])
  have behind : ∀ c ∈ rest, Text.isBlank c = true ∨ c = ';' := fun c hc => h c (by simp [hc])
  calc (withoutEnd cs).count ';'
      ≤ (withoutEnd (cs ++ first)).count ';' := count_withoutEnd_le before
    _ < (withoutEnd (cs ++ first ++ [';'])).count ';' := count_withoutEnd_semicolon apart
    _ ≤ (withoutEnd (cs ++ first ++ [';'] ++ rest)).count ';' := count_withoutEnd_le behind
    _ = (withoutEnd (cs ++ (first ++ ';' :: rest))).count ';' := by rw [later]

end

/-! ### Queries

A semicolon that is left belongs to a word, and so to the plan.  Counting semicolons on both sides
shows that such a plan is another one. -/

/-- White space and semicolons behind a query leave its plan, or its fault, as it is, unless they
part a semicolon from the one before it.  Then the earlier semicolon becomes part of a name: if
both texts are queries, the longer one has more semicolons in its plan. -/
theorem parse_append_terminators (s u : String)
    (h : ∀ c ∈ u.toList, Text.isBlank c = true ∨ c = ';') :
    (¬ Parted s.toList u.toList → parse (s ++ u) = parse s) ∧
      (Parted s.toList u.toList → ∀ p q, parse s = .ok p → parse (s ++ u) = .ok q →
        semicolonsIn p.strings < semicolonsIn q.strings) := by
  constructor
  · intro together
    have same : statementText (s ++ u) = statementText s := by
      rw [statementText_eq_dropBlank, String.toList_append, withoutEnd_of_not_parted h together,
        statementText_eq_dropBlank]
    simp only [parse, tokenize, same]
  · intro parted p q short long
    have count (sql : String) :
        (statementText sql).count ';' = (withoutEnd sql.toList).count ';' := by
      rw [statementText_eq_dropBlank, count_dropBlank (by decide)]
    rw [← semicolons_of_parse short, ← semicolons_of_parse long, count, count,
      String.toList_append]
    exact count_withoutEnd_lt h parted

/-- A semicolon and a line break behind a query leave its plan as it is. -/
theorem parse_append_terminators_oneLine :
    (∀ c ∈ " ;;\n".toList, Text.isBlank c = true ∨ c = ';') ∧
      ¬ Parted "SELECT * FROM t".toList " ;;\n".toList ∧
      parse ("SELECT * FROM t" ++ " ;;\n") = parse "SELECT * FROM t" := by
  have ends : ∀ c ∈ " ;;\n".toList, Text.isBlank c = true ∨ c = ';' :=
    List.all_iff_forall_prop.1 (by decide)
  have together : ¬ Parted "SELECT * FROM t".toList " ;;\n".toList := by
    intro parted
    have more := count_withoutEnd_lt ends parted
    revert more
    decide
  exact ⟨ends, together, (parse_append_terminators _ _ ends).1 together⟩

/-- A second semicolon behind white space makes the first one the end of the table's name. -/
theorem parse_append_ne :
    ¬ ∀ s u : String, (∀ c ∈ u.toList, Text.isBlank c = true ∨ c = ';') →
      (∃ p, parse (s ++ u) = .ok p ∧ parse s = .ok p) ∨
        ∃ e f, parse (s ++ u) = .error e ∧ parse s = .error f := by
  intro same
  have ends : ∀ c ∈ "; ;".toList, Text.isBlank c = true ∨ c = ';' :=
    List.all_iff_forall_prop.1 (by decide)
  have shortTokens : tokenize "SELECT * FROM t" =
      .ok [.word "SELECT", .word "*", .word "FROM", .word "t"] := by cbv
  have longTokens : tokenize ("SELECT * FROM t" ++ "; ;") =
      .ok [.word "SELECT", .word "*", .word "FROM", .word "t;"] := by cbv
  have short : (parse "SELECT * FROM t").toOption.map (fun p => p.table.name) = some "t" := by
    rw [parse, shortTokens]
    rfl
  have long : (parse ("SELECT * FROM t" ++ "; ;")).toOption.map (fun p => p.table.name) =
      some "t;" := by
    rw [parse, longTokens]
    rfl
  rcases same _ _ ends with ⟨p, longer, shorter⟩ | ⟨e, f, longer, shorter⟩
  · rw [shorter] at short
    rw [longer] at long
    exact absurd (Option.some.inj (short.symm.trans long)) (by decide)
  · rw [shorter] at short
    cases short

end DocQuery.Sql
