/-
Module: DocQuery.Proofs.Printing
Purpose: The tokens of printed texts: names, values, operands, and lists with separators.
Main exports: Prints, Prints.append, Prints.tokenize, IsName, Value.IsLiteral, Operand.Writable,
  literal_prints, operand_prints
-/
import DocQuery.Proofs.NumberText
import DocQuery.Sql.PlanText

namespace DocQuery

/-! ### What can be written -/

/-- A name that can be written as it is: a word that is not reserved and that no end of a statement
cuts short. -/
structure IsName (name : String) : Prop where
  written : (Sql.Token.word name).IsWritten
  free : (Sql.Token.word name).isIdentifier = true
  whole : name.toList.getLast? ≠ some ';'

/-- A value that can be written as a literal. -/
def Value.IsLiteral : Value → Prop
  | .null | .bool _ | .string _ | .number (.integer _) | .number (.float (.finite ..)) => True
  | _ => False

/-- An operand that can be written: a literal, or a name that does not read as a number. -/
inductive Operand.Writable : Operand → Prop
  | field {name : String} (isName : IsName name) (notInteger : Sql.integerOfWord? name = none)
      (notFloat : Sql.floatOfWord? name = none) : Operand.Writable (.field name)
  | literal {value : Value} (h : value.IsLiteral) : Operand.Writable (.literal value)

namespace Sql

/-! ### Printed texts

A text is printed along with its tokens.  Two texts in a row have the tokens of both, if the first
ends or the second starts with a character that belongs to no token but its own. -/

/-- A text consists of the given tokens, none of which ends in a semicolon. -/
structure Prints (text : String) (ts : List Token) : Prop where
  laidOut : LaidOut text.toList ts
  whole : ∀ t ∈ ts, t.chars.getLast? ≠ some ';'

/-- A character that belongs to no token but its own. -/
def isLoose (c : Char) : Bool :=
  Text.isBlank c || c = ',' || c = '(' || c = ')'

theorem ne_of_isLoose {c m : Char} (h : isLoose c = true) (hm : isLoose m = false) : c ≠ m := by
  rintro rfl
  rw [hm] at h
  cases h

theorem not_wordChar_of_isLoose {c : Char} (h : isLoose c = true) : isWordChar c = false := by
  simp only [isLoose, Bool.or_eq_true, decide_eq_true_eq] at h
  rcases h with ((blank | rfl) | rfl) | rfl
  · simp [isWordChar, blank]
  · rfl
  · rfl
  · rfl

theorem sticks_of_isLoose {c d : Char} (h : isLoose c = true ∨ isLoose d = true) :
    sticks c d = false := by
  rcases h with h | h
  · have less := ne_of_isLoose h (m := '<') rfl
    have greater := ne_of_isLoose h (m := '>') rfl
    have single := ne_of_isLoose h (m := '\'') rfl
    have double := ne_of_isLoose h (m := '"') rfl
    simp [sticks, not_wordChar_of_isLoose h, less, greater, single, double]
  · have equal := ne_of_isLoose h (m := '=') rfl
    have greater := ne_of_isLoose h (m := '>') rfl
    have quote : (c = '\'' ∨ c = '"') → d ≠ c := by
      rintro (rfl | rfl)
      · exact ne_of_isLoose h rfl
      · exact ne_of_isLoose h rfl
    simpa [sticks, not_wordChar_of_isLoose h, equal, greater] using quote

namespace Prints

variable {a b sep : String} {ts us vs : List Token}

theorem empty : Prints "" [] :=
  ⟨.nil, nofun⟩

/-- A fixed text is printed if it is read. -/
theorem of_lex (read : lexWithin (a.toList.length + 1) a.toList = some ts)
    (whole : ∀ t ∈ ts, t.chars.getLast? ≠ some ';') : Prints a ts :=
  ⟨lex_eq_ok_iff.1 (lex_of_lexWithin 0 read), whole⟩

/-- Two texts in a row, where the first ends or the second starts with a loose character. -/
theorem append (ha : Prints a ts) (hb : Prints b us)
    (loose : a.toList.getLast?.all isLoose = true ∨ b.toList.head?.all isLoose = true) :
    Prints (a ++ b) (ts ++ us) := by
  refine ⟨?_, List.forall_mem_append.2 ⟨ha.whole, hb.whole⟩⟩
  rw [String.toList_append]
  refine ha.laidOut.append hb.laidOut fun c d last head => sticks_of_isLoose ?_
  rw [last, head] at loose
  exact loose

/-- A text behind one that ends with a loose character. -/
theorem behind (ha : Prints a ts) (loose : a.toList.getLast?.all isLoose = true)
    (hb : Prints b us) : Prints (a ++ b) (ts ++ us) :=
  ha.append hb (.inl loose)

/-- Two texts around one that starts and ends with loose characters. -/
theorem around (ha : Prints a ts) (hsep : Prints sep us)
    (starts : sep.toList.head?.any isLoose = true) (ends : sep.toList.getLast?.all isLoose = true)
    (hb : Prints b vs) : Prints (a ++ sep ++ b) (ts ++ us ++ vs) := by
  rw [String.append_assoc, List.append_assoc]
  refine ha.append (hsep.behind ends hb) (.inr ?_)
  rw [String.toList_append]
  cases start : sep.toList with
  | nil =>
      rw [start] at starts
      cases starts
  | cons c cs =>
      rw [start] at starts
      exact starts

/-- A text is split into the tokens that it was printed from. -/
theorem tokenize (ha : Prints a ts) : tokenize a = .ok ts := by
  rw [Sql.tokenize, statementText_eq]
  exact lex_eq_ok_iff.2 (ha.laidOut.dropBlank.withoutEnd ha.whole)

theorem blank : Prints " " [] :=
  of_lex rfl nofun

theorem comma : Prints ", " [.sign .comma] :=
  of_lex rfl (by decide)

theorem space (ha : Prints a ts) (hb : Prints b us) : Prints (a ++ " " ++ b) (ts ++ us) := by
  simpa using ha.around blank rfl rfl hb

theorem parens (ha : Prints a ts) :
    Prints ("(" ++ a ++ ")") (.sign .openParen :: ts ++ [.sign .closeParen]) := by
  have openParen : Prints "(" [.sign .openParen] := of_lex rfl (by decide)
  have closeParen : Prints ")" [.sign .closeParen] := of_lex rfl (by decide)
  exact (openParen.behind rfl ha).append closeParen (.inr rfl)

/-- Texts with commas between them. -/
theorem commas (ha : Prints a ts) {texts : List String} {tss : List (List Token)}
    (h : List.Forall₂ Prints texts tss) :
    Prints (", ".intercalate (a :: texts)) (ts ++ tss.flatMap fun us => .sign .comma :: us) := by
  induction h generalizing a ts with
  | nil => simpa using ha
  | cons hb h ih =>
      rw [String.intercalate_cons_cons]
      simpa using ha.around comma rfl rfl (ih hb)

/-- Texts with blanks between them. -/
theorem spaces (ha : Prints a ts) {texts : List String} {tss : List (List Token)}
    (h : List.Forall₂ Prints texts tss) :
    Prints (" ".intercalate (a :: texts)) (ts ++ tss.flatten) := by
  induction h generalizing a ts with
  | nil => simpa using ha
  | cons hb h ih =>
      rw [String.intercalate_cons_cons]
      exact ha.space (ih hb)

end Prints

/-! ### Words

A name can be written as it is if it is one word to the reader.  Reserved words are printed in
capitals. -/

theorem word_prints {word : String} (written : (Token.word word).IsWritten)
    (whole : word.toList.getLast? ≠ some ';') : Prints word [.word word] :=
  ⟨.single written, by simpa using whole⟩

/-- A reserved word in capitals. -/
def Spelling.capitals (k : Keyword) : Spelling k :=
  ⟨k.text, by cases k <;> rfl⟩

theorem keyword_prints (k : Keyword) : Prints k.text [(Spelling.capitals k).token] := by
  refine word_prints ?_ ?_
  · cases k <;> exact ⟨by decide, List.all_eq_true.1 (by decide)⟩
  · cases k <;> decide

end Sql

namespace IsName

variable {name : String}

/-- A name as the grammar has it. -/
def tree (h : IsName name) : Sql.Name :=
  ⟨name, Sql.Keyword.ofWord?_eq_none_iff.1 (Option.isNone_iff_eq_none.1 h.free)⟩

theorem prints (h : IsName name) : Sql.Prints name [h.tree.token] :=
  Sql.word_prints h.written h.whole

end IsName

namespace Sql

/-! ### Numbers

The text of a number is a single word, and it starts like no reserved one. -/

/-- The characters that the texts of numbers start with. -/
def leadChars : List Char :=
  ['0', '1', '2', '3', '4', '5', '6', '7', '8', '9', '-']

theorem mem_leadChars_of_isDigit {c : Char} (h : c.isDigit = true) : c ∈ leadChars := by
  have other : ∀ d ∈ numberChars, d.isDigit = true → d ∈ leadChars :=
    List.all_iff_forall_prop.1 (by decide)
  exact other c (mem_numberChars_of_isDigit h) h

/-- No reserved word starts like a number. -/
theorem capitals_ne_text {c : Char} (lead : c ∈ leadChars) (cs : List Char) (k : Keyword) :
    Text.capitals (String.ofList (c :: cs)) ≠ k.text := by
  have same : ∀ d ∈ leadChars, Text.asciiUpper d = [d] := List.all_iff_forall_prop.1 (by decide)
  have other : ∀ d ∈ leadChars, k.text.toList.head? ≠ some d := by
    cases k <;> exact List.all_iff_forall_prop.1 (by decide)
  intro spelled
  refine other c lead ?_
  rw [← spelled, Text.capitals, String.toList_ofList, String.toList_ofList, List.flatMap_cons,
    same c lead]
  rfl

/-- What is written like a number is one word and no reserved one. -/
theorem isName_of_number {c : Char} {cs : List Char} (head : cs.head? = some c)
    (lead : c ∈ leadChars) (all : ∀ d ∈ cs, d ∈ numberChars) : IsName (String.ofList cs) where
  written := by
    have word : ∀ d ∈ numberChars, isWordChar d = true := List.all_eq_true.1 (by decide)
    have nonempty : cs ≠ [] := by
      rintro rfl
      cases head
    simpa only [Token.IsWritten, String.toList_ofList] using
      ⟨nonempty, fun d hd => word d (all d hd)⟩
  free := by
    obtain ⟨rest, rfl⟩ := List.head?_eq_some_iff.1 head
    exact Option.isNone_iff_eq_none.2
      (Keyword.ofWord?_eq_none_iff.2 (capitals_ne_text lead rest))
  whole := by
    have other : ∀ d ∈ numberChars, d ≠ ';' := List.all_iff_forall_prop.1 (by decide)
    rw [String.toList_ofList]
    intro last
    exact other _ (all _ (List.mem_of_getLast? last)) rfl

/-- The numeral of an integer. -/
def Numeral.ofInt (n : Int) : Numeral where
  minus := n < 0
  digits := decimalDigits n.natAbs
  nonempty := Nat.toDigits_ne_nil
  decimal := fun _ hd => isDecimalDigit_of_isDigit (isDigit_of_mem_decimalDigits hd)

namespace Numeral

theorem word_ofInt (n : Int) : (ofInt n).word = String.ofList (Number.integerText n) := by
  rw [word, ofInt, Number.integerText]
  by_cases negative : n < 0
  · simp [negative]
  · simp [negative]

theorem value_ofInt (n : Int) : (ofInt n).value = n := by
  simp only [value, ofInt, natOfDigits_decimalDigits, decide_eq_true_eq]
  split
  case isTrue negative => rw [Int.ofNat_natAbs_of_nonpos negative.le, neg_neg]
  case isFalse positive => exact Int.natAbs_of_nonneg (not_lt.1 positive)

end Numeral

theorem integer_isName (n : Int) : IsName (String.ofList (Number.integerText n)) := by
  have digits (c : Char) (hc : c ∈ decimalDigits n.natAbs) : c ∈ numberChars :=
    mem_numberChars_of_isDigit (isDigit_of_mem_decimalDigits hc)
  have minus : '-' ∈ numberChars := by decide
  rw [Number.integerText]
  split
  · exact isName_of_number rfl (by decide) (List.forall_mem_cons.2 ⟨minus, digits⟩)
  · have nonempty : decimalDigits n.natAbs ≠ [] := Nat.toDigits_ne_nil
    have first := isDigit_of_mem_decimalDigits (List.head_mem nonempty)
    exact isName_of_number (List.head?_eq_some_head nonempty) (mem_leadChars_of_isDigit first)
      digits

theorem float_isName (negative : Bool) (exponent : Fin 2047) (fraction : Fin 4503599627370496)
    (spelling : Binary64.FloatSpelling) :
    IsName (String.ofList ((Binary64.finite negative exponent fraction).text spelling)) := by
  obtain ⟨w, valid, -, -, text⟩ := exists_written_shortest exponent fraction
  have minus : '-' ∈ numberChars := by decide
  rw [Binary64.text, text]
  cases negative with
  | true => exact isName_of_number rfl (by decide) (List.forall_mem_cons.2 ⟨minus, valid.chars⟩)
  | false =>
      obtain ⟨c, cs, starts, digit⟩ := valid.head
      have head : w.text.head? = some c := by rw [starts, List.head?_cons]
      exact isName_of_number head (mem_leadChars_of_isDigit digit) valid.chars

/-! ### Values and operands -/

theorem quoted_prints (s : String) :
    Prints (Value.string s).literalText [.quoted .single s] where
  laidOut := by
    have written : (Token.quoted .single s).IsWritten := trivial
    rw [toList_literalText_string]
    exact .single written
  whole := by
    have last : (Token.quoted .single s).chars.getLast? = some '\'' := by
      rw [Token.chars_quoted, ← List.cons_append, List.getLast?_concat]
      rfl
    simp [last]

/-- A literal is printed as the grammar reads it. -/
theorem literal_prints {v : Value} (h : v.IsLiteral) :
    ∃ t : LiteralTree, t.value = v ∧ Prints v.literalText t.tokens := by
  match v, h with
  | .null, _ => exact ⟨.null (.capitals .null), rfl, keyword_prints .null⟩
  | .bool true, _ => exact ⟨.true (.capitals .true), rfl, keyword_prints .true⟩
  | .bool false, _ => exact ⟨.false (.capitals .false), rfl, keyword_prints .false⟩
  | .string s, _ => exact ⟨.string .single s, rfl, quoted_prints s⟩
  | .number (.integer n), _ =>
      have isName := integer_isName n
      exact ⟨.integer isName.tree (.ofInt n) (Numeral.word_ofInt n),
        congrArg Value.int (Numeral.value_ofInt n), isName.prints⟩
  | .number (.float (.finite negative exponent fraction)), _ =>
      have isName := float_isName negative exponent fraction messageSpelling
      exact ⟨.float isName.tree _ (float_notInteger negative exponent fraction messageSpelling)
        (floatOfWord?_text negative exponent fraction messageSpelling), rfl, isName.prints⟩

/-- An operand is printed as the grammar reads it. -/
theorem operand_prints {o : Operand} (h : o.Writable) :
    ∃ t : OperandTree, t.value = o ∧ Prints o.text [t.token] := by
  cases h with
  | field isName notInteger notFloat =>
      exact ⟨.field isName.tree (integerOfWord?_eq_none_iff.1 notInteger) notFloat, rfl,
        isName.prints⟩
  | literal h =>
      obtain ⟨t, rfl, prints⟩ := literal_prints h
      exact ⟨.literal t, rfl, prints⟩

/-- A comparison is printed as its sign. -/
theorem comparator_prints {o : Comparator} (h : o.isSupported = true) :
    ∃ op : OpTree, op.comparator = o ∧ Prints o.text [.sign op.sign] := by
  have sign (op : OpTree) : Prints op.sign.text [.sign op.sign] := by
    cases op <;> exact .of_lex rfl (by decide)
  cases o with
  | eq => exact ⟨.eq, rfl, sign .eq⟩
  | ne => exact ⟨.ne, rfl, sign .ne⟩
  | gt => exact ⟨.gt, rfl, sign .gt⟩
  | lt => exact ⟨.lt, rfl, sign .lt⟩
  | ge => exact ⟨.ge, rfl, sign .ge⟩
  | le => exact ⟨.le, rfl, sign .le⟩
  | unsupported text => cases h

end Sql

end DocQuery
