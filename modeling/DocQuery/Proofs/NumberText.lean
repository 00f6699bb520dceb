/-
Module: DocQuery.Proofs.NumberText
Purpose: The texts of numbers read back as the numbers.
Main exports: natOfDigits_decimalDigits, Written, exists_written, decimalOfDigits?_text,
  floatOfWord?_text
-/
import DocQuery.Proofs.Lexing
import DocQuery.Proofs.Rounding
import DocQuery.Proofs.Words
import Mathlib.Tactic.IntervalCases

namespace DocQuery

open Sql

/-! ### Digits

Decimal digits and their value, from the front and from the back.  Zeros in front change nothing,
and zeros behind multiply by ten. -/

/-- The ASCII digits are decimal digits, each with its usual value. -/
theorem digitValue?_of_isDigit {c : Char} (h : c.isDigit = true) :
    Text.digitValue? c = some (c.toNat - '0'.toNat) := by
  have range : 48 ≤ c.toNat ∧ c.toNat ≤ 57 := by
    simpa [Char.isDigit, UInt32.le_iff_toNat_le] using h
  have first : (48 ≤ c.toNat && c.toNat ≤ 57) = true := by simp [range]
  have small : (c.toNat - 48) % 10 = c.toNat - 48 := Nat.mod_eq_of_lt (by omega)
  simp only [Text.digitValue?, Text.decimalDigitRanges, List.find?_cons, first, Option.map_some,
    small]
  rfl

theorem isDecimalDigit_of_isDigit {c : Char} (h : c.isDigit = true) :
    Text.isDecimalDigit c = true := by
  rw [Text.isDecimalDigit, digitValue?_of_isDigit h]
  rfl

theorem isDigit_of_mem_decimalDigits {n : Nat} {c : Char} (h : c ∈ decimalDigits n) :
    c.isDigit = true :=
  Nat.isDigit_of_mem_toDigits (by decide) (by decide) h

theorem exists_decimalDigits (n : Nat) :
    ∃ c rest, decimalDigits n = c :: rest ∧ c.isDigit = true := by
  have nonempty : decimalDigits n ≠ [] := Nat.toDigits_ne_nil
  obtain ⟨c, rest, starts⟩ := List.exists_cons_of_ne_nil nonempty
  exact ⟨c, rest, starts, isDigit_of_mem_decimalDigits (starts ▸ List.mem_cons_self)⟩

/-- The digits of a number write that number. -/
theorem natOfDigits_decimalDigits (n : Nat) : Text.natOfDigits (decimalDigits n) = n := by
  have same : Text.natOfDigits (decimalDigits n) = Nat.ofDigitChars 10 (decimalDigits n) 0 := by
    rw [Text.natOfDigits, Nat.ofDigitChars_eq_foldl]
    refine List.foldl_ext _ _ 0 fun m c hc => ?_
    rw [digitValue?_of_isDigit (isDigit_of_mem_decimalDigits hc)]
    rfl
  rw [same]
  exact Nat.ofDigitChars_toDigits (by decide) (by decide)

theorem natOfDigits_concat (cs : List Char) (d : Char) :
    Text.natOfDigits (cs ++ [d]) = 10 * Text.natOfDigits cs + (Text.digitValue? d).getD 0 := by
  simp [Text.natOfDigits]

theorem natOfDigits_append (cs ds : List Char) :
    Text.natOfDigits (cs ++ ds) = Text.natOfDigits cs * 10 ^ ds.length + Text.natOfDigits ds := by
  induction ds using List.reverseRecOn with
  | nil => simp [Text.natOfDigits]
  | append_singleton ds d ih =>
      rw [← List.append_assoc, natOfDigits_concat, natOfDigits_concat, ih, List.length_append,
        List.length_singleton, Nat.pow_succ]
      ring

/-- Zeros in front of a number do not change it, zeros behind it multiply it. -/
theorem natOfDigits_zeros (n : Nat) : Text.natOfDigits (List.replicate n '0') = 0 := by
  induction n with
  | zero => rfl
  | succ n ih =>
      rw [List.replicate_succ', natOfDigits_concat, ih]
      rfl

/-- Zeros behind a number multiply it. -/
theorem natOfDigits_append_zeros (cs : List Char) (n : Nat) :
    Text.natOfDigits (cs ++ List.replicate n '0') = Text.natOfDigits cs * 10 ^ n := by
  rw [natOfDigits_append, natOfDigits_zeros, List.length_replicate, Nat.add_zero]

/-- Zeros in front of a number do not change it. -/
theorem natOfDigits_zeros_append (n : Nat) (cs : List Char) :
    Text.natOfDigits (List.replicate n '0' ++ cs) = Text.natOfDigits cs := by
  rw [natOfDigits_append, natOfDigits_zeros, Nat.zero_mul, Nat.zero_add]

theorem isDigit_of_mem_zeros {n : Nat} {c : Char} (h : c ∈ List.replicate n '0') :
    c.isDigit = true := by
  rw [List.eq_of_mem_replicate h]
  rfl

/-- The digits of a positive number do not start with a zero. -/
theorem head?_decimalDigits {n : Nat} (positive : n ≠ 0) : (decimalDigits n).head? ≠ some '0' := by
  induction n using Nat.strongRecOn with
  | ind n ih =>
      by_cases small : n < 10
      · rw [decimalDigits, Nat.toDigits_of_lt_base small]
        simpa using positive
      · have large := not_lt.1 small
        rw [decimalDigits, Nat.toDigits_of_base_le (by decide) large,
          List.head?_append_of_ne_nil _ Nat.toDigits_ne_nil]
        exact ih (n / 10) (by omega) (by omega)

/-! ### Decimal numerals as text

There are four ways to lay out the digits of a numeral, by where its point is.  Each of them writes
a numeral of the same value, possibly with other digits and another exponent. -/

/-- An exponent is written as its sign and its digits, perhaps behind a zero. -/
theorem exists_exponentText (e : Int) : ∃ digits : List Char,
    Binary64.exponentText e = (if e < 0 then '-' else '+') :: digits ∧ digits ≠ [] ∧
      (∀ c ∈ digits, c.isDigit = true) ∧ Text.natOfDigits digits = e.natAbs := by
  have nonempty : decimalDigits e.natAbs ≠ [] := Nat.toDigits_ne_nil
  have all (c : Char) (hc : c ∈ decimalDigits e.natAbs) : c.isDigit = true :=
    isDigit_of_mem_decimalDigits hc
  have sign : Binary64.exponentText e = (if e < 0 then '-' else '+') ::
      if (decimalDigits e.natAbs).length < 2 then '0' :: decimalDigits e.natAbs
      else decimalDigits e.natAbs := by
    rw [Binary64.exponentText]
    split <;> rfl
  refine ⟨_, sign, ?_⟩
  split
  · refine ⟨List.cons_ne_nil _ _, List.forall_mem_cons.2 ⟨rfl, all⟩, ?_⟩
    have nothing : Text.natOfDigits ['0'] = 0 := rfl
    rw [← List.singleton_append, natOfDigits_append, nothing, natOfDigits_decimalDigits,
      Nat.zero_mul, Nat.zero_add]
  · exact ⟨nonempty, all, natOfDigits_decimalDigits _⟩

/-- The parts of a decimal numeral as it is written: digits, those behind a point, if there is one,
and an exponent, if there is one. -/
structure Written where
  whole : List Char
  fraction : Option (List Char)
  exponent : Option Int

namespace Written

/-- What is written behind the digits before the point. -/
def tail (w : Written) : List Char :=
  ((w.fraction.map fun digits => '.' :: digits).getD []) ++
    (w.exponent.map fun e => 'e' :: Binary64.exponentText e).getD []

/-- The text of a numeral. -/
def text (w : Written) : List Char :=
  w.whole ++ w.tail

/-- The numeral that is written. -/
def decimal (w : Written) : Decimal :=
  ⟨Text.natOfDigits (w.whole ++ w.fraction.getD []),
    w.exponent.getD 0 - ((w.fraction.getD []).length : Int)⟩

/-- There are digits, also behind a point, and a point or an exponent. -/
structure Valid (w : Written) : Prop where
  whole : ∀ c ∈ w.whole, c.isDigit = true
  some' : w.whole ≠ []
  fraction : ∀ digits, w.fraction = some digits → digits ≠ [] ∧ ∀ c ∈ digits, c.isDigit = true
  marked : w.fraction ≠ none ∨ w.exponent ≠ none

/-- There is no zero in front of other digits. -/
def Trim (w : Written) : Prop :=
  w.whole = ['0'] ∨ w.whole.head? ≠ some '0'

end Written

section

variable {digits : List Char} {e : Int}

/-- The first digit, the others behind a point if there are any, and an exponent. -/
theorem scientific_written (nonempty : digits ≠ []) (all : ∀ c ∈ digits, c.isDigit = true) :
    ∃ w : Written, w.Valid ∧ w.Trim ∧ w.decimal = ⟨Text.natOfDigits digits, e⟩ ∧
      w.text = digits.take 1 ++ (if (digits.drop 1).isEmpty then [] else '.' :: digits.drop 1) ++
        'e' :: Binary64.exponentText (digits.length + e - 1) := by
  obtain ⟨c, rest, rfl⟩ := List.exists_cons_of_ne_nil nonempty
  obtain ⟨first, others⟩ := List.forall_mem_cons.1 all
  have trim : [c] = ['0'] ∨ [c].head? ≠ some '0' := by simpa using em (c = '0')
  cases rest with
  | nil =>
      refine ⟨⟨[c], none, some e⟩, ⟨by simpa using first, by simp, nofun, .inr nofun⟩, trim, ?_, ?_⟩
      · simp [Written.decimal]
      · simp [Written.text, Written.tail]
  | cons c' rest =>
      refine ⟨⟨[c], some (c' :: rest), some (((c :: c' :: rest).length : Int) + e - 1)⟩,
        ⟨by simpa using first, by simp, ?_, .inr nofun⟩, trim, ?_, ?_⟩
      · rintro _ ⟨rfl⟩
        exact ⟨by simp, others⟩
      · simp [Written.decimal]
        ring
      · simp [Written.text, Written.tail]

/-- Digits behind the point, perhaps behind zeros. -/
theorem small_written (nonempty : digits ≠ []) (all : ∀ c ∈ digits, c.isDigit = true)
    (small : digits.length + e ≤ 0) :
    ∃ w : Written, w.Valid ∧ w.Trim ∧ w.decimal = ⟨Text.natOfDigits digits, e⟩ ∧
      w.text = ['0', '.'] ++ List.replicate (-(digits.length + e)).toNat '0' ++ digits := by
  refine ⟨⟨['0'], some (List.replicate (-(digits.length + e)).toNat '0' ++ digits), none⟩,
    ⟨by simp, by simp, ?_, .inl nofun⟩, .inl rfl, ?_, ?_⟩
  · rintro _ ⟨rfl⟩
    exact ⟨by simp [nonempty],
      List.forall_mem_append.2 ⟨fun c hc => isDigit_of_mem_zeros hc, all⟩⟩
  · have value : Text.natOfDigits
        (['0'] ++ (List.replicate (-(digits.length + e)).toNat '0' ++ digits)) =
          Text.natOfDigits digits := by
      rw [← List.append_assoc, ← List.replicate_one, List.replicate_append_replicate,
        natOfDigits_zeros_append]
    have exponent :
        0 - ((List.replicate (-(digits.length + e)).toNat '0' ++ digits).length : Int) = e := by
      simp only [List.length_append, List.length_replicate]
      omega
    simp only [Written.decimal, Option.getD_some, Option.getD_none, value, exponent]
  · simp [Written.text, Written.tail]

/-- Digits around the point. -/
theorem between_written (all : ∀ c ∈ digits, c.isDigit = true) (large : 0 < digits.length + e)
    (short : (digits.length + e).toNat < digits.length) (lead : digits.head? ≠ some '0') :
    ∃ w : Written, w.Valid ∧ w.Trim ∧ w.decimal = ⟨Text.natOfDigits digits, e⟩ ∧
      w.text = digits.take (digits.length + e).toNat ++
        '.' :: digits.drop (digits.length + e).toNat := by
  obtain ⟨n, hn⟩ := Nat.exists_eq_succ_of_ne_zero
    (by omega : ((digits.length : Int) + e).toNat ≠ 0)
  rw [hn] at short ⊢
  have whole : digits.take (n + 1) ≠ [] := by
    rw [Ne, List.take_eq_nil_iff]
    rintro (none | none)
    · cases none
    · simp [none] at short
  have head : (digits.take (n + 1)).head? = digits.head? := by cases digits <;> rfl
  refine ⟨⟨digits.take (n + 1), some (digits.drop (n + 1)), none⟩,
    ⟨fun c hc => all c (List.mem_of_mem_take hc), whole, ?_, .inl nofun⟩, .inr (head ▸ lead), ?_,
    ?_⟩
  · rintro _ ⟨rfl⟩
    exact ⟨by simpa using short, fun c hc => all c (List.mem_of_mem_drop hc)⟩
  · have exponent : 0 - ((digits.drop (n + 1)).length : Int) = e := by
      rw [List.length_drop]
      omega
    simp only [Written.decimal, Option.getD_some, Option.getD_none, List.take_append_drop, exponent]
  · simp [Written.text, Written.tail]

/-- Digits and zeros up to the point, and one more zero behind it. -/
theorem whole_written (nonempty : digits ≠ []) (all : ∀ c ∈ digits, c.isDigit = true) (k : Nat)
    (lead : digits = ['0'] ∧ k = 0 ∨ digits.head? ≠ some '0') :
    ∃ w : Written, w.Valid ∧ w.Trim ∧
      w.decimal = ⟨Text.natOfDigits digits * 10 ^ (k + 1), -1⟩ ∧
      w.text = digits ++ List.replicate k '0' ++ ['.', '0'] := by
  have trim : digits ++ List.replicate k '0' = ['0'] ∨
      (digits ++ List.replicate k '0').head? ≠ some '0' := by
    rcases lead with ⟨rfl, rfl⟩ | lead
    · exact .inl rfl
    · rw [List.head?_append_of_ne_nil _ nonempty]
      exact .inr lead
  refine ⟨⟨digits ++ List.replicate k '0', some ['0'], none⟩,
    ⟨List.forall_mem_append.2 ⟨all, fun c hc => isDigit_of_mem_zeros hc⟩, by simp [nonempty], ?_,
      .inl nofun⟩, trim, ?_, ?_⟩
  · rintro _ ⟨rfl⟩
    exact ⟨by simp, by simp⟩
  · have zeros : digits ++ List.replicate k '0' ++ ['0'] =
        digits ++ List.replicate (k + 1) '0' := by
      rw [List.append_assoc, ← List.replicate_succ']
    simp only [Written.decimal, Option.getD_some, zeros, natOfDigits_append_zeros]
    rfl
  · simp [Written.text, Written.tail]

end

/-- The text of a decimal numeral writes a numeral of the same value, with no zero in front of other
digits. -/
theorem exists_written (d : Decimal) (normal : d.digits = 0 → d.exponent = 0) :
    ∃ w : Written, w.Valid ∧ w.Trim ∧ w.decimal.value = d.value ∧
      Binary64.decimalText d = w.text := by
  have nonempty : decimalDigits d.digits ≠ [] := Nat.toDigits_ne_nil
  have all (c : Char) (hc : c ∈ decimalDigits d.digits) : c.isDigit = true :=
    isDigit_of_mem_decimalDigits hc
  have number := natOfDigits_decimalDigits d.digits
  have lead : decimalDigits d.digits = ['0'] ∧ d.exponent = 0 ∨
      (decimalDigits d.digits).head? ≠ some '0' := by
    by_cases zero : d.digits = 0
    · exact .inl ⟨by rw [zero]; rfl, normal zero⟩
    · exact .inr (head?_decimalDigits zero)
  clear normal
  rcases d with ⟨n, e⟩
  rw [Binary64.decimalText]
  -- From here on only these four facts about the digits matter, not the number they write.
  generalize decimalDigits n = digits at nonempty all number lead ⊢
  subst number
  simp only at lead ⊢
  split
  case isTrue =>
    obtain ⟨w, valid, trim, decimal, text⟩ := scientific_written (e := e) nonempty all
    exact ⟨w, valid, trim, decimal ▸ rfl, text.symm⟩
  case isFalse =>
    split
    case isTrue small =>
      obtain ⟨w, valid, trim, decimal, text⟩ := small_written nonempty all small
      exact ⟨w, valid, trim, decimal ▸ rfl, text.symm⟩
    case isFalse large =>
      by_cases short : (digits.length + e).toNat < digits.length
      · have lead' : digits.head? ≠ some '0' := by
          refine lead.resolve_left ?_
          rintro ⟨rfl, rfl⟩
          simp at short
        have rest : digits.drop (digits.length + e).toNat ≠ [] := by simpa using short
        obtain ⟨w, valid, trim, decimal, text⟩ := between_written all (not_le.1 large) short lead'
        refine ⟨w, valid, trim, decimal ▸ rfl, ?_⟩
        rw [text]
        simp [short.le, rest]
      · -- The point stands behind all digits, and zeros fill the places before it.
        obtain ⟨k, rfl⟩ := Int.eq_ofNat_of_zero_le (by omega : 0 ≤ e)
        have zeros : ((digits.length : Int) + k).toNat - digits.length = k := by omega
        have long := not_lt.1 short
        obtain ⟨w, valid, trim, decimal, text⟩ :=
          whole_written nonempty all k (lead.imp_left fun h => ⟨h.1, by exact_mod_cast h.2⟩)
        refine ⟨w, valid, trim, ?_, ?_⟩
        · rw [decimal]
          simp only [Decimal.value, zpow_natCast, zpow_neg_one]
          push_cast
          rw [pow_succ, mul_assoc, mul_inv_cancel_right₀ (by norm_num)]
        · rw [text, List.take_of_length_le long, List.drop_of_length_le long, zeros]
          rfl

/-- The shortest numeral of zero has no exponent. -/
theorem shortest_normal (exponent : Fin 2047) (fraction : Fin 4503599627370496) :
    (Binary64.shortest exponent fraction).digits = 0 →
      (Binary64.shortest exponent fraction).exponent = 0 := by
  intro zero
  by_cases none : Binary64.significand exponent fraction = 0
  · simp [Binary64.shortest, Binary64.ratio, none]
  · -- a numeral without a digit other than zero reads back as zero
    exfalso
    have read : (Binary64.shortest exponent fraction).toBinary64 false =
        .finite false exponent fraction := Binary64.toBinary64_shortest false
    rw [Decimal.toBinary64, if_pos (.inl zero), Binary64.zero, Binary64.finite.injEq] at read
    obtain ⟨-, rfl, rfl⟩ := read
    exact none rfl

/-- The text of a finite number writes a numeral that reads back as the number. -/
theorem exists_written_shortest (exponent : Fin 2047) (fraction : Fin 4503599627370496) :
    ∃ w : Written, w.Valid ∧ w.Trim ∧
      (∀ negative, w.decimal.toBinary64 negative = .finite negative exponent fraction) ∧
      Binary64.decimalText (Binary64.shortest exponent fraction) = w.text := by
  obtain ⟨w, valid, trim, value, text⟩ :=
    exists_written (Binary64.shortest exponent fraction) (shortest_normal exponent fraction)
  exact ⟨w, valid, trim, fun negative => (Decimal.toBinary64_congr negative value).trans
    (Binary64.toBinary64_shortest negative), text⟩

/-! ### The characters of numbers -/

/-- The characters that occur in the texts of numbers. -/
def numberChars : List Char :=
  ['0', '1', '2', '3', '4', '5', '6', '7', '8', '9', '.', 'e', '+', '-']

theorem mem_numberChars_of_isDigit {c : Char} (h : c.isDigit = true) : c ∈ numberChars := by
  have range : 48 ≤ c.toNat ∧ c.toNat ≤ 57 := by
    simpa [Char.isDigit, UInt32.le_iff_toNat_le] using h
  obtain ⟨low, high⟩ := range
  rw [← Char.ofNat_toNat c]
  generalize c.toNat = n at low high
  interval_cases n <;> decide

namespace Written

variable {w : Written}

theorem Valid.chars (valid : w.Valid) : ∀ c ∈ w.text, c ∈ numberChars := by
  have digits (cs : List Char) (all : ∀ c ∈ cs, c.isDigit = true) : ∀ c ∈ cs, c ∈ numberChars :=
    fun c hc => mem_numberChars_of_isDigit (all c hc)
  have point : '.' ∈ numberChars := by decide
  have mark : 'e' ∈ numberChars := by decide
  refine List.forall_mem_append.2 ⟨digits _ valid.whole, List.forall_mem_append.2 ⟨?_, ?_⟩⟩
  · cases behind : w.fraction with
    | none => exact List.forall_mem_nil _
    | some cs =>
        exact List.forall_mem_cons.2 ⟨point, digits cs (valid.fraction cs behind).2⟩
  · cases w.exponent with
    | none => exact List.forall_mem_nil _
    | some e =>
        obtain ⟨cs, text, -, all, -⟩ := exists_exponentText e
        simp only [Option.map_some, Option.getD_some, text]
        refine List.forall_mem_cons.2 ⟨mark, List.forall_mem_cons.2 ⟨?_, digits cs all⟩⟩
        split <;> decide

/-- A numeral starts with a digit. -/
theorem Valid.head (valid : w.Valid) : ∃ c cs, w.text = c :: cs ∧ c.isDigit = true := by
  obtain ⟨c, cs, whole⟩ := List.exists_cons_of_ne_nil valid.some'
  exact ⟨c, cs ++ w.tail, by rw [text, whole, List.cons_append],
    valid.whole c (whole ▸ List.mem_cons_self)⟩

/-- A numeral has a point or an exponent. -/
theorem Valid.mark (valid : w.Valid) : '.' ∈ w.text ∨ 'e' ∈ w.text := by
  rcases valid.marked with point | mark
  · obtain ⟨cs, h⟩ := Option.ne_none_iff_exists'.1 point
    exact .inl (by simp [text, tail, h])
  · obtain ⟨e, h⟩ := Option.ne_none_iff_exists'.1 mark
    exact .inr (by simp [text, tail, h])

end Written

namespace Sql

/-! ### Numbers as words

The reader of queries takes a word for a number by its parts.  Each part of a text that was written
is found again, since what follows it cannot belong to it. -/

/-- What is written behind the mark of an exponent reads back as the exponent. -/
theorem exponentOfEnd?_exponentText (e : Int) :
    exponentOfEnd? ('e' :: Binary64.exponentText e) = some e := by
  obtain ⟨digits, text, some', all, value⟩ := exists_exponentText e
  have written : (digits.isEmpty || !digits.all Text.isDecimalDigit) = false := by
    have decimal : digits.all Text.isDecimalDigit = true :=
      List.all_eq_true.2 fun c hc => isDecimalDigit_of_isDigit (all c hc)
    simp [some', decimal]
  rw [text]
  by_cases negative : e < 0
  · simp [exponentOfEnd?, negative, written, value, abs_of_neg]
  · simp [exponentOfEnd?, negative, written, value, abs_of_nonneg (not_lt.1 negative)]

theorem takeWhile_digits {whole tail : List Char} (digits : ∀ c ∈ whole, c.isDigit = true)
    (stop : ∀ d, tail.head? = some d → Text.isDecimalDigit d = false) :
    (whole ++ tail).takeWhile Text.isDecimalDigit = whole ∧
      (whole ++ tail).dropWhile Text.isDecimalDigit = tail :=
  takeWhile_append_stop (fun c hc => isDecimalDigit_of_isDigit (digits c hc)) stop

/-- A written numeral is read as it is written. -/
theorem decimalOfDigits?_text {w : Written} (valid : w.Valid) :
    decimalOfDigits? w.text = some w.decimal := by
  rcases w with ⟨whole, fraction, exponent⟩
  obtain ⟨digits, some', behind, marked⟩ := valid
  simp only at digits some' behind marked
  -- The digits on either side of the point end where the point, the exponent or the text does.
  let last : List Char := (exponent.map fun e => 'e' :: Binary64.exponentText e).getD []
  have stop : ∀ d, last.head? = some d → Text.isDecimalDigit d = false := by
    cases exponent with
    | none => exact nofun
    | some e =>
        rintro d ⟨⟩
        decide
  cases fraction with
  | none =>
      obtain ⟨taken, left⟩ := takeWhile_digits digits stop
      cases exponent with
      | none => simp at marked
      | some e =>
          simp only [last, Option.map_some, Option.getD_some] at taken left
          simp [decimalOfDigits?, Written.text, Written.tail, Written.decimal, taken, left, some',
            exponentOfEnd?_exponentText]
  | some cs =>
      obtain ⟨_, digits'⟩ := behind cs rfl
      have point : ∀ d, ('.' :: (cs ++ last)).head? = some d → Text.isDecimalDigit d = false := by
        rintro d ⟨⟩
        decide
      obtain ⟨taken, left⟩ := takeWhile_digits digits point
      obtain ⟨taken', left'⟩ := takeWhile_digits digits' stop
      cases exponent with
      | none =>
          simp only [last, Option.map_none, Option.getD_none] at taken left taken' left'
          simp only [List.append_nil] at taken left taken' left'
          simp [decimalOfDigits?, Written.text, Written.tail, Written.decimal, taken, left, taken',
            left', some']
      | some e =>
          simp only [last, Option.map_some, Option.getD_some] at taken left taken' left'
          simp [decimalOfDigits?, Written.text, Written.tail, Written.decimal, taken, left, taken',
            left', some', exponentOfEnd?_exponentText]

section

variable (negative : Bool) (exponent : Fin 2047) (fraction : Fin 4503599627370496)
  (spelling : Binary64.FloatSpelling)

theorem splitMinus_text :
    splitMinus ((Binary64.finite negative exponent fraction).text spelling) =
      (negative, Binary64.decimalText (Binary64.shortest exponent fraction)) := by
  cases negative with
  | true => rfl
  | false =>
      obtain ⟨w, valid, -, -, text⟩ := exists_written_shortest exponent fraction
      obtain ⟨c, cs, starts, digit⟩ := valid.head
      refine splitMinus_of_head fun minus => ?_
      rw [Binary64.text, if_neg (by simp), List.nil_append, text, starts] at minus
      cases minus
      cases digit

/-- A finite number's text reads back as the number. -/
theorem floatOfWord?_text :
    floatOfWord? (String.ofList ((Binary64.finite negative exponent fraction).text spelling)) =
      some (.finite negative exponent fraction) := by
  obtain ⟨w, valid, -, number, text⟩ := exists_written_shortest exponent fraction
  rw [floatOfWord?, String.toList_ofList, splitMinus_text]
  simp only
  rw [text, decimalOfDigits?_text valid, Option.map_some, number]

/-- The text of a floating-point number is no integer's: it has a point or an exponent. -/
theorem float_notInteger (n : Numeral) :
    n.word ≠ String.ofList ((Binary64.finite negative exponent fraction).text spelling) := by
  obtain ⟨w, valid, -, -, text⟩ := exists_written_shortest exponent fraction
  intro same
  have digits := n.splitMinus_word
  rw [same, String.toList_ofList, splitMinus_text, Prod.mk.injEq, text] at digits
  have decimal := n.decimal
  rw [← digits.2] at decimal
  rcases valid.mark with point | mark
  · exact absurd (decimal '.' point) (by decide)
  · exact absurd (decimal 'e' mark) (by decide)

end

end Sql

end DocQuery
