/-
Module: DocQuery.Proofs.Words
Purpose: The tokens of reserved words, names, numerals, operands and comparison signs.
Main exports: Keyword.ofWord?_eq_some_iff, integerOfWord?_eq_some_iff, tokenOperand_eq_some_iff,
  OperandTree.token_inj
-/
import DocQuery.Proofs.Grammar

namespace DocQuery.Sql

/-! ### Reserved words and names

A word either spells a reserved word, in whatever case, or is a name.  The two kinds of tokens are
disjoint and make up all words. -/

theorem Keyword.ofWord?_text (k : Keyword) :
    Keyword.all.find? (fun j => decide (j.text = k.text)) = some k := by
  cases k <;> rfl

/-- The reserved word of a word is the one that it spells. -/
theorem Keyword.ofWord?_eq_some_iff {word : String} {k : Keyword} :
    Keyword.ofWord? word = some k ↔ Text.capitals word = k.text := by
  constructor
  · intro h
    have spelled := List.find?_some h
    exact (of_decide_eq_true spelled).symm
  · intro h
    rw [Keyword.ofWord?, h]
    exact ofWord?_text k

theorem Keyword.ofWord?_eq_none_iff {word : String} :
    Keyword.ofWord? word = none ↔ ∀ k : Keyword, Text.capitals word ≠ k.text := by
  rw [Option.eq_none_iff_forall_ne_some]
  exact forall_congr' fun k => not_congr Keyword.ofWord?_eq_some_iff

@[simp] theorem Spelling.ofWord?_word {k : Keyword} (w : Spelling k) :
    Keyword.ofWord? w.word = some k :=
  Keyword.ofWord?_eq_some_iff.2 w.spells

@[simp] theorem Spelling.keyword?_token {k : Keyword} (w : Spelling k) :
    w.token.keyword? = some k :=
  w.ofWord?_word

theorem Spelling.keyword?_ne {j k : Keyword} (w : Spelling j) (other : j ≠ k) :
    w.token.keyword? ≠ some k := by
  rw [w.keyword?_token]
  exact fun same => other (Option.some.inj same)

@[simp] theorem Spelling.isIdentifier_token {k : Keyword} (w : Spelling k) :
    w.token.isIdentifier = false := by
  simp [token, Token.isIdentifier]

@[simp] theorem Name.ofWord?_word (n : Name) : Keyword.ofWord? n.word = none :=
  Keyword.ofWord?_eq_none_iff.2 n.free

@[simp] theorem Name.keyword?_token (n : Name) : n.token.keyword? = none :=
  n.ofWord?_word

@[simp] theorem Name.isIdentifier_token (n : Name) : n.token.isIdentifier = true := by
  simp [token, Token.isIdentifier]

theorem Spelling.token_inj {k : Keyword} {v w : Spelling k} (h : v.token = w.token) : v = w :=
  Spelling.ext (Token.word.inj h)

theorem Name.token_inj {m n : Name} (h : m.token = n.token) : m = n :=
  Name.ext (Token.word.inj h)

/-- The tokens of a reserved word are those that spell it. -/
theorem exists_spelling {t : Token} {k : Keyword} (h : t.keyword? = some k) :
    ∃ w : Spelling k, w.token = t := by
  cases t with
  | word text => exact ⟨⟨text, Keyword.ofWord?_eq_some_iff.1 h⟩, rfl⟩
  | quoted mark content => cases h
  | sign s => cases h

/-- The tokens of names are the words that are not reserved. -/
theorem exists_name {t : Token} (h : t.isIdentifier = true) : ∃ n : Name, n.token = t := by
  cases t with
  | word text => exact ⟨⟨text, Keyword.ofWord?_eq_none_iff.1 (Option.isNone_iff_eq_none.1 h)⟩, rfl⟩
  | quoted mark content => cases h
  | sign s => cases h

/-- The token is one of some reserved words. -/
def IsOneOf (ks : List Keyword) (t : Token) : Prop :=
  ∃ k ∈ ks, t.keyword? = some k

theorem Spelling.isOneOf {k : Keyword} (w : Spelling k) {ks : List Keyword} (h : k ∈ ks) :
    IsOneOf ks w.token :=
  ⟨k, h, w.keyword?_token⟩

namespace IsOneOf

variable {ks js : List Keyword} {t : Token}

theorem mono (h : IsOneOf ks t) (sub : ks ⊆ js) : IsOneOf js t := by
  rcases h with ⟨k, mem, reserved⟩
  exact ⟨k, sub mem, reserved⟩

theorem keyword?_ne (h : IsOneOf ks t) {k : Keyword} (absent : k ∉ ks) : t.keyword? ≠ some k := by
  rcases h with ⟨j, mem, reserved⟩
  intro same
  rw [reserved] at same
  exact absent (Option.some.inj same ▸ mem)

theorem isIdentifier (h : IsOneOf ks t) : t.isIdentifier = false := by
  rcases h with ⟨k, _, reserved⟩
  rcases exists_spelling reserved with ⟨w, rfl⟩
  exact w.isIdentifier_token

theorem ne_sign (h : IsOneOf ks t) (s : Sign) : t ≠ .sign s := by
  rcases h with ⟨k, _, reserved⟩
  rintro rfl
  cases reserved

end IsOneOf

/-! ### Numerals

A numeral shows its sign and its digits in its word, so that the word determines it.  No string and
no sign is written like one. -/

theorem splitMinus_append (cs : List Char) :
    (if (splitMinus cs).1 then ['-'] else []) ++ (splitMinus cs).2 = cs := by
  unfold splitMinus
  split
  · rfl
  · rfl

theorem splitMinus_of_head {cs : List Char} (h : cs.head? ≠ some '-') :
    splitMinus cs = (false, cs) := by
  unfold splitMinus
  split
  · exact absurd rfl h
  · rfl

namespace Numeral

/-- A numeral's word shows its sign and its digits. -/
theorem splitMinus_word (n : Numeral) : splitMinus n.word.toList = (n.minus, n.digits) := by
  rcases n with ⟨minus, digits, nonempty, decimal⟩
  cases minus with
  | true => simp [word, splitMinus]
  | false =>
      have noMinus : digits.head? ≠ some '-' := by
        intro head
        have digit := decimal '-' (List.mem_of_mem_head? head)
        exact absurd digit (by decide)
      simpa [word] using splitMinus_of_head noMinus

theorem word_inj {m n : Numeral} (h : m.word = n.word) : m = n := by
  have same := m.splitMinus_word
  rw [h, n.splitMinus_word, Prod.mk.injEq] at same
  exact Numeral.ext same.1.symm same.2.symm

/-- A character that a numeral can start with. -/
def isLead (c : Char) : Bool :=
  c = '-' || Text.isDecimalDigit c

theorem isLead_head (n : Numeral) : n.word.toList.head?.any isLead = true := by
  rcases n with ⟨minus, digits, nonempty, decimal⟩
  cases minus with
  | true => simp [word, isLead]
  | false =>
      have digit := decimal _ (List.head_mem nonempty)
      simp [word, isLead, List.head?_eq_some_head nonempty, digit]

/-- No string and no sign is written like a numeral. -/
theorem token_eq_word {n : Numeral} {t : Token} (h : n.word = t.text) : t = .word n.word := by
  have lead := n.isLead_head
  cases t with
  | word text => rw [h, Token.text]
  | quoted mark content =>
      have other : isLead mark.char = false := by
        cases mark <;> decide
      simp [h, Token.text, other] at lead
  | sign s =>
      have other : s.text.toList.head?.any isLead = false := by
        cases s <;> decide
      rw [h, Token.text, other] at lead
      cases lead

end Numeral

/-- The integers of words are those of numerals. -/
theorem integerOfWord?_eq_some_iff {word : String} {n : Int} :
    integerOfWord? word = some n ↔ ∃ m : Numeral, m.word = word ∧ m.value = n := by
  constructor
  · intro h
    have whole := splitMinus_append word.toList
    rw [integerOfWord?] at h
    generalize splitMinus word.toList = parts at h whole
    rcases parts with ⟨minus, digits⟩
    simp only at h
    split at h
    · cases h
    · next written =>
        simp only [Bool.or_eq_true, List.isEmpty_iff, Bool.not_eq_true', not_or,
          Bool.not_eq_false, List.all_eq_true] at written
        refine ⟨⟨minus, digits, written.1, written.2⟩, ?_, Option.some.inj h⟩
        rw [Numeral.word, whole, String.ofList_toList]
  · rintro ⟨m, rfl, rfl⟩
    have written : (m.digits.isEmpty || !m.digits.all Text.isDecimalDigit) = false := by
      simp [m.nonempty, List.all_eq_true.2 m.decimal]
    simp [integerOfWord?, m.splitMinus_word, written, Numeral.value]

theorem integerOfWord?_eq_none_iff {word : String} :
    integerOfWord? word = none ↔ ∀ m : Numeral, m.word ≠ word := by
  constructor
  · intro h m written
    have some' := integerOfWord?_eq_some_iff.2 ⟨m, written, rfl⟩
    rw [h] at some'
    cases some'
  · intro h
    cases read : integerOfWord? word with
    | none => rfl
    | some n =>
        rcases integerOfWord?_eq_some_iff.1 read with ⟨m, written, _⟩
        exact absurd written (h m)

/-! ### Operands

A word is tried as a reserved word, as an integer, as a floating-point number and as a field, in
this order.  The constructors of a tree carry what has failed before. -/

namespace LiteralTree

theorem wordOperand_of_keyword {word : String} {k : Keyword} (h : Keyword.ofWord? word = some k)
    {o : Operand} (read : wordOperand word = some o) :
    ∃ t : LiteralTree, t.token = .word word ∧ o = .literal t.value := by
  have spells := Keyword.ofWord?_eq_some_iff.1 h
  rw [wordOperand, h] at read
  cases k <;> cases read
  · exact ⟨.null ⟨word, spells⟩, rfl, rfl⟩
  · exact ⟨.true ⟨word, spells⟩, rfl, rfl⟩
  · exact ⟨.false ⟨word, spells⟩, rfl, rfl⟩

end LiteralTree

/-- A word that is not reserved is a number if it writes one, else a field. -/
theorem OperandTree.exists_of_name (name : Name) :
    ∃ t : OperandTree, t.token = name.token ∧ wordOperand name.word = some t.value := by
  cases integer : integerOfWord? name.word with
  | some n =>
      rcases integerOfWord?_eq_some_iff.1 integer with ⟨m, written, rfl⟩
      refine ⟨.literal (.integer name m written), rfl, ?_⟩
      simp [wordOperand, integer, value, LiteralTree.value]
  | none =>
      have notInteger := integerOfWord?_eq_none_iff.1 integer
      cases float : floatOfWord? name.word with
      | some x =>
          refine ⟨.literal (.float name x notInteger float), rfl, ?_⟩
          simp [wordOperand, integer, float, value, LiteralTree.value]
      | none =>
          refine ⟨.field name notInteger float, rfl, ?_⟩
          simp [wordOperand, integer, float, value]

theorem OperandTree.tokenOperand_token (t : OperandTree) : tokenOperand t.token = some t.value := by
  cases t with
  | literal t =>
      cases t with
      | string mark content => rfl
      | true word => simp [token, LiteralTree.token, Spelling.token, tokenOperand, wordOperand,
          value, LiteralTree.value]
      | false word => simp [token, LiteralTree.token, Spelling.token, tokenOperand, wordOperand,
          value, LiteralTree.value]
      | null word => simp [token, LiteralTree.token, Spelling.token, tokenOperand, wordOperand,
          value, LiteralTree.value]
      | integer name n writes =>
          have read := integerOfWord?_eq_some_iff.2 ⟨n, writes, rfl⟩
          simp [token, LiteralTree.token, Name.token, tokenOperand, wordOperand, read, value,
            LiteralTree.value]
      | float name x notInteger writes =>
          have unread := integerOfWord?_eq_none_iff.2 notInteger
          simp [token, LiteralTree.token, Name.token, tokenOperand, wordOperand, unread, writes,
            value, LiteralTree.value]
  | field name notInteger notFloat =>
      have unread := integerOfWord?_eq_none_iff.2 notInteger
      simp [token, Name.token, tokenOperand, wordOperand, unread, notFloat, value]

/-- The operands of tokens are those of the grammar. -/
theorem tokenOperand_eq_some_iff {u : Token} {o : Operand} :
    tokenOperand u = some o ↔ ∃ t : OperandTree, t.token = u ∧ t.value = o := by
  constructor
  · intro h
    cases u with
    | quoted mark content => exact ⟨.literal (.string mark content), rfl, Option.some.inj h⟩
    | sign s => cases h
    | word word =>
        cases reserved : Keyword.ofWord? word with
        | some k =>
            rcases LiteralTree.wordOperand_of_keyword reserved h with ⟨t, ht, rfl⟩
            exact ⟨.literal t, ht, rfl⟩
        | none =>
            obtain ⟨t, ht, read⟩ :=
              OperandTree.exists_of_name ⟨word, Keyword.ofWord?_eq_none_iff.1 reserved⟩
            exact ⟨t, ht, Option.some.inj (read.symm.trans h)⟩
  · rintro ⟨t, rfl, rfl⟩
    exact t.tokenOperand_token

theorem LiteralTree.eq_of_token {t u : LiteralTree} (h : t.token = u.token)
    (same : t.value = u.value) : t = u := by
  -- Literals of two forms have different values; those of one form are told apart by the token.
  cases t with
  | string mark content =>
      cases u with
      | string mark' content' =>
          cases h
          rfl
      | _ => cases same
  | true word =>
      cases u with
      | true word' =>
          cases Spelling.token_inj h
          rfl
      | _ => cases same
  | false word =>
      cases u with
      | false word' =>
          cases Spelling.token_inj h
          rfl
      | _ => cases same
  | null word =>
      cases u with
      | null word' =>
          cases Spelling.token_inj h
          rfl
      | _ => cases same
  | integer name n writes =>
      cases u with
      | integer name' n' writes' =>
          cases Name.token_inj h
          cases Numeral.word_inj (writes.trans writes'.symm)
          rfl
      | _ => cases same
  | float name x notInteger writes =>
      cases u with
      | float name' x' notInteger' writes' =>
          cases Name.token_inj h
          cases same
          rfl
      | _ => cases same

/-- A token is one operand at most. -/
theorem OperandTree.token_inj {t u : OperandTree} (h : t.token = u.token) : t = u := by
  have same : t.value = u.value := by
    have read := t.tokenOperand_token
    rw [h, u.tokenOperand_token] at read
    exact (Option.some.inj read).symm
  cases t with
  | literal t =>
      cases u with
      | literal u => exact congrArg _ (LiteralTree.eq_of_token h (Operand.literal.inj same))
      | field name notInteger notFloat => cases same
  | field name notInteger notFloat =>
      cases u with
      | literal u => cases same
      | field name' notInteger' notFloat' =>
          cases Name.token_inj h
          rfl

theorem LiteralTree.token_inj {t u : LiteralTree} (h : t.token = u.token) : t = u :=
  OperandTree.literal.inj (OperandTree.token_inj h)

/-! ### Comparison signs -/

/-- The comparisons of signs are those of the grammar. -/
theorem Sign.comparator?_eq_some_iff {s : Sign} {o : Comparator} :
    s.comparator? = some o ↔ ∃ op : OpTree, op.sign = s ∧ op.comparator = o := by
  constructor
  · intro h
    cases s with
    | comma => cases h
    | openParen => cases h
    | closeParen => cases h
    | eq => exact ⟨.eq, rfl, Option.some.inj h⟩
    | ne => exact ⟨.ne, rfl, Option.some.inj h⟩
    | lessGreater => exact ⟨.lessGreater, rfl, Option.some.inj h⟩
    | ge => exact ⟨.ge, rfl, Option.some.inj h⟩
    | le => exact ⟨.le, rfl, Option.some.inj h⟩
    | gt => exact ⟨.gt, rfl, Option.some.inj h⟩
    | lt => exact ⟨.lt, rfl, Option.some.inj h⟩
  · rintro ⟨op, rfl, rfl⟩
    cases op <;> rfl

theorem OpTree.sign_inj {o p : OpTree} (h : o.sign = p.sign) : o = p := by
  cases o <;> cases p <;> first | rfl | cases h

end DocQuery.Sql
