/-
Module: DocQuery.Proofs.JsonScalars
Purpose: Strings, numbers and words of JSON texts read back as what they write.
Main exports: readString_writeString, EndsNumber, readScalar_number, readScalar_word
-/
import DocQuery.Json.Reader
import DocQuery.Json.Writer
import DocQuery.Proofs.NumberText

namespace DocQuery.Json

/-! ### Strings

Each character is written in one of several ways, and each of them reads back as one or two pieces
that are joined to the character.  So the string reads back by induction on its characters. -/

theorem hexValue?_hexDigit (n : Nat) : hexValue? (hexDigit n) = some (n % 16) := by
  have below : n % 16 < 16 := Nat.mod_lt _ (by decide)
  rw [hexDigit]
  generalize n % 16 = m at below
  interval_cases m <;> decide

/-- Four hexadecimal digits read back as the code that they write. -/
theorem code?_hex4 {n : Nat} (h : n < 65536) :
    code? (hexDigit (n / 4096)) (hexDigit (n / 256)) (hexDigit (n / 16)) (hexDigit n) = some n := by
  have value : ((n / 4096 % 16 * 16 + n / 256 % 16) * 16 + n / 16 % 16) * 16 + n % 16 = n := by
    omega
  simp [code?, hexValue?_hexDigit, value]

theorem readPieces_code {n : Nat} (h : n < 65536) (rest : List Char) :
    readPieces ('\\' :: 'u' :: hex4 n ++ rest) = consRead (.code n) (readPieces rest) := by
  simp [hex4, readPieces, code?_hex4 h]

/-- A character is no half of a pair of surrogates. -/
theorem not_surrogate (c : Char) :
    isHighSurrogate c.toNat = false ∧ isLowSurrogate c.toNat = false := by
  have valid : c.toNat < 0xd800 ∨ 0xdfff < c.toNat ∧ c.toNat < 0x110000 := c.valid
  simp only [isHighSurrogate, isLowSurrogate, Bool.and_eq_false_iff, decide_eq_false_iff_not]
  omega

/-- A text between quotes is read as pieces that make up a character. -/
def Spells (text : List Char) (c : Char) : Prop :=
  ∃ pieces : List Piece,
    (∀ rest, readPieces (text ++ rest) =
      (readPieces rest).map fun (more, left) => (pieces ++ more, left)) ∧
    ∀ more, joinPieces none (pieces ++ more) = c :: joinPieces none more

theorem spells_letter {letter c : Char} (h : escaped? letter = some c) :
    Spells ['\\', letter] c := by
  have other : letter ≠ 'u' := by
    rintro rfl
    cases h
  refine ⟨[.plain c], fun rest => ?_, fun more => rfl⟩
  rw [List.cons_append, List.singleton_append, readPieces]
  · rw [h]
    rfl
  · exact fun _ _ _ _ _ same _ => other same

/-- A character that needs no escape stands for itself. -/
theorem spells_self {c : Char} (quote : c ≠ '"') (backslash : c ≠ '\\') (printed : 32 ≤ c.toNat) :
    Spells [c] c := by
  refine ⟨[.plain c], fun rest => ?_, fun more => rfl⟩
  simp [readPieces, backslash, not_lt.2 printed, consRead]

/-- The code of a character stands for it, also if it is written as a pair of surrogates. -/
theorem spells_unicode (c : Char) : Spells (unicodeEscape c.toNat) c := by
  obtain ⟨high, low⟩ := not_surrogate c
  rw [unicodeEscape]
  split
  case isTrue short =>
    refine ⟨[.code c.toNat], fun rest => ?_, fun more => ?_⟩
    · rw [readPieces_code short]
      rfl
    · simp [joinPieces, high, low, Char.ofNat_toNat]
  case isFalse long =>
    -- A code above the plane of 16 bits is split into a high and a low surrogate, and reading joins
    -- the two again.
    have valid : c.toNat < 0xd800 ∨ 0xdfff < c.toNat ∧ c.toNat < 0x110000 := c.valid
    let first := 0xd800 + (c.toNat - 0x10000) / 1024
    let second := 0xdc00 + (c.toNat - 0x10000) % 1024
    refine ⟨[.code first, .code second], fun rest => ?_, fun more => ?_⟩
    · have both : readPieces ('\\' :: 'u' :: hex4 first ++ '\\' :: 'u' :: hex4 second ++ rest) =
          consRead (.code first) (consRead (.code second) (readPieces rest)) := by
        rw [List.append_assoc, readPieces_code (by omega), readPieces_code (by omega)]
      rw [both]
      cases readPieces rest <;> rfl
    · have high' : isHighSurrogate first = true := by
        simp only [isHighSurrogate, Bool.and_eq_true, decide_eq_true_eq, first]
        omega
      have low' : isLowSurrogate second = true := by
        simp only [isLowSurrogate, Bool.and_eq_true, decide_eq_true_eq, second]
        omega
      have code : 0x10000 + (first - 0xd800) * 1024 + (second - 0xdc00) = c.toNat := by omega
      simp only [List.cons_append, List.nil_append, joinPieces, high', low', code, if_true,
        Char.ofNat_toNat]

theorem spells_writeChar (ascii : Bool) (c : Char) : Spells (writeChar ascii c) c := by
  have code {n : Nat} (h : c.toNat = n) : Char.ofNat n = c := h ▸ Char.ofNat_toNat c
  rw [writeChar]
  split
  case isTrue h => exact spells_letter (by rw [h]; rfl)
  split
  case isTrue h => exact spells_letter (by rw [h]; rfl)
  split
  case isTrue h => exact spells_letter (by rw [h]; rfl)
  split
  case isTrue h => exact spells_letter (by rw [h]; rfl)
  split
  case isTrue h => exact spells_letter (by rw [h]; rfl)
  split
  case isTrue h => exact spells_letter (congrArg some (code h))
  split
  case isTrue h => exact spells_letter (congrArg some (code h))
  split
  case isTrue => exact spells_unicode c
  case isFalse quote backslash _ _ _ _ _ printed =>
    exact spells_self quote backslash (not_lt.1 fun h => printed (.inl h))

/-- A written string reads back from behind its opening quote. -/
theorem readString_writeString (ascii : Bool) (s : String) (rest : List Char) :
    readString (s.toList.flatMap (writeChar ascii) ++ '"' :: rest) = some (s.toList, rest) := by
  suffices ∀ cs : List Char, ∃ pieces : List Piece,
      readPieces (cs.flatMap (writeChar ascii) ++ '"' :: rest) = some (pieces, rest) ∧
        joinPieces none pieces = cs by
    obtain ⟨pieces, read, joined⟩ := this s.toList
    rw [readString, read, ← joined]
    rfl
  intro cs
  induction cs with
  | nil => exact ⟨[], by simp [readPieces], rfl⟩
  | cons c cs ih =>
      obtain ⟨more, read, joined⟩ := ih
      obtain ⟨pieces, spelled, makes⟩ := spells_writeChar ascii c
      refine ⟨pieces ++ more, ?_, ?_⟩
      · rw [List.flatMap_cons, List.append_assoc, spelled, read]
        rfl
      · rw [makes, joined]

/-! ### Numbers

A number is read by its parts: digits, those behind a point, an exponent.  A part that is missing
must not be found in what follows the number, which is what `EndsNumber` asks. -/

/-- What may stand behind a number: nothing that would belong to it. -/
def EndsNumber (rest : List Char) : Prop :=
  ∀ c, rest.head? = some c → c.isDigit = false ∧ c ≠ '.' ∧ c ≠ 'e' ∧ c ≠ 'E'

theorem spanDigits_append {digits rest : List Char} (all : ∀ c ∈ digits, c.isDigit = true)
    (stop : ∀ c, rest.head? = some c → c.isDigit = false) :
    spanDigits (digits ++ rest) = (digits, rest) := by
  obtain ⟨taken, left⟩ := Sql.takeWhile_append_stop all stop
  rw [spanDigits, taken, left]

/-- Digits before the point are read as they stand, unless a zero stands in front of others. -/
theorem readWhole_append {whole rest : List Char} (some' : whole ≠ [])
    (all : ∀ c ∈ whole, c.isDigit = true) (trim : whole = ['0'] ∨ whole.head? ≠ some '0')
    (stop : ∀ c, rest.head? = some c → c.isDigit = false) :
    readWhole (whole ++ rest) = some (whole, rest) := by
  obtain ⟨c, cs, rfl⟩ := List.exists_cons_of_ne_nil some'
  have span := spanDigits_append all stop
  by_cases zero : c = '0'
  · subst zero
    obtain rfl : cs = [] := by simpa using trim
    rfl
  · rw [List.cons_append, readWhole]
    · rw [← List.cons_append, span]
    · exact fun _ same => zero (List.cons.inj same).1

theorem readFraction_none {rest : List Char} (stop : rest.head? ≠ some '.') :
    readFraction rest = none := by
  cases rest with
  | nil => rfl
  | cons c rest =>
      rw [readFraction]
      rintro _ ⟨rfl⟩
      exact stop rfl

theorem readFraction_append {digits rest : List Char} (some' : digits ≠ [])
    (all : ∀ c ∈ digits, c.isDigit = true) (stop : ∀ c, rest.head? = some c → c.isDigit = false) :
    readFraction ('.' :: (digits ++ rest)) = some (digits, rest) := by
  obtain ⟨c, cs, rfl⟩ := List.exists_cons_of_ne_nil some'
  rw [readFraction, spanDigits_append all stop]

theorem readExponent_none {rest : List Char} (ends : EndsNumber rest) :
    readExponent rest = none := by
  cases rest with
  | nil => rfl
  | cons c rest =>
      obtain ⟨-, -, lower, upper⟩ := ends c rfl
      simp [readExponent, lower, upper]

/-- A written exponent reads back. -/
theorem readExponent_append (e : Int) {rest : List Char} (ends : EndsNumber rest) :
    readExponent ('e' :: Binary64.exponentText e ++ rest) = some (e, rest) := by
  obtain ⟨digits, text, some', all, value⟩ := exists_exponentText e
  obtain ⟨c, cs, rfl⟩ := List.exists_cons_of_ne_nil some'
  have span := spanDigits_append all fun d hd => (ends d hd).1
  rw [List.cons_append] at span
  rw [text]
  by_cases negative : e < 0
  · simp [readExponent, negative, span, value, abs_of_neg]
  · simp [readExponent, negative, span, value, abs_of_nonneg (not_lt.1 negative)]

/-- Reads a number behind its sign. -/
def readUnsigned (negative : Bool) (body : List Char) : Option (Number × List Char) := do
  let (whole, rest) ← readWhole body
  let n := Text.natOfDigits whole
  match readFraction rest, readExponent rest with
  | none, none => return (.integer (if negative then -n else n), rest)
  | none, some (e, rest) => return (.float ((Decimal.mk n e).toBinary64 negative), rest)
  | some (fraction, rest), _ =>
      let (e, rest) := (readExponent rest).getD (0, rest)
      let digits := Text.natOfDigits (whole ++ fraction)
      return (.float ((Decimal.mk digits (e - fraction.length)).toBinary64 negative), rest)

/-- Reading a number splits off its sign first. -/
theorem readNumber_eq (negative : Bool) {body : List Char} (unsigned : body.head? ≠ some '-') :
    readNumber ((if negative then ['-'] else []) ++ body) = readUnsigned negative body := by
  have unfolded (cs : List Char) :
      readNumber cs = readUnsigned (Sql.splitMinus cs).1 (Sql.splitMinus cs).2 := rfl
  have sign : Sql.splitMinus ((if negative then ['-'] else []) ++ body) = (negative, body) := by
    cases negative with
    | true => rfl
    | false => exact Sql.splitMinus_of_head unsigned
  rw [unfolded, sign]

theorem head?_ne_minus {cs rest : List Char} (some' : cs ≠ []) (all : ∀ c ∈ cs, c.isDigit = true) :
    (cs ++ rest).head? ≠ some '-' := by
  obtain ⟨c, cs, rfl⟩ := List.exists_cons_of_ne_nil some'
  have digit := all c List.mem_cons_self
  rintro ⟨rfl⟩
  cases digit

theorem integerText_eq (n : Int) : Number.integerText n =
    (if decide (n < 0) then ['-'] else []) ++ decimalDigits n.natAbs := by
  rw [Number.integerText]
  by_cases negative : n < 0 <;> simp [negative]

/-- The text of an integer reads back as the integer. -/
theorem readNumber_integer (n : Int) {rest : List Char} (ends : EndsNumber rest) :
    readNumber (Number.integerText n ++ rest) = some (.integer n, rest) := by
  have some' : decimalDigits n.natAbs ≠ [] := Nat.toDigits_ne_nil
  have all (c : Char) (hc : c ∈ decimalDigits n.natAbs) : c.isDigit = true :=
    isDigit_of_mem_decimalDigits hc
  have trim : decimalDigits n.natAbs = ['0'] ∨ (decimalDigits n.natAbs).head? ≠ some '0' := by
    by_cases zero : n.natAbs = 0
    · exact .inl (by rw [zero]; rfl)
    · exact .inr (head?_decimalDigits zero)
  have whole := readWhole_append some' all trim fun c hc => (ends c hc).1
  have point : readFraction rest = none := readFraction_none fun h => (ends '.' h).2.1 rfl
  rw [integerText_eq, List.append_assoc, readNumber_eq _ (head?_ne_minus some' all)]
  have exponent := readExponent_none ends
  by_cases negative : n < 0
  · simp [readUnsigned, whole, point, exponent, natOfDigits_decimalDigits, negative, abs_of_neg]
  · simp [readUnsigned, whole, point, exponent, natOfDigits_decimalDigits, negative,
      abs_of_nonneg (not_lt.1 negative)]

/-- A written numeral reads back as the floating-point number nearest to it. -/
theorem readNumber_written {w : Written} (valid : w.Valid) (trim : w.Trim) (negative : Bool)
    {rest : List Char} (ends : EndsNumber rest) :
    readNumber ((if negative then ['-'] else []) ++ (w.text ++ rest)) =
      some (.float (w.decimal.toBinary64 negative), rest) := by
  rcases w with ⟨whole, fraction, exponent⟩
  obtain ⟨all, some', behind, marked⟩ := valid
  simp only at all some' behind marked
  -- No digit follows the digits before or behind the point, so that each run is read to its end.
  let last : List Char := (exponent.map fun e => 'e' :: Binary64.exponentText e).getD []
  have stop : ∀ c, (last ++ rest).head? = some c → c.isDigit = false := by
    cases exponent with
    | none => exact fun c h => (ends c h).1
    | some e =>
        rintro c ⟨⟩
        decide
  have body : Written.text ⟨whole, fraction, exponent⟩ ++ rest =
      whole ++ ((fraction.map fun digits => '.' :: digits).getD [] ++ (last ++ rest)) := by
    simp [Written.text, Written.tail, last]
  rw [body, readNumber_eq negative (head?_ne_minus some' all)]
  have power : (readExponent (last ++ rest)).getD (0, last ++ rest) = (exponent.getD 0, rest) := by
    cases exponent with
    | none => simp [last, readExponent_none ends]
    | some e => exact congrArg (Option.getD · _) (readExponent_append e ends)
  cases fraction with
  | none =>
      obtain ⟨e, rfl⟩ := Option.ne_none_iff_exists'.1 (by simpa using marked)
      have read := readWhole_append some' all trim stop
      have point : readFraction (last ++ rest) = none := readFraction_none (by simp [last])
      have power' : readExponent (last ++ rest) = some (e, rest) := readExponent_append e ends
      simp [readUnsigned, read, point, power', Written.decimal]
  | some cs =>
      obtain ⟨some'', all'⟩ := behind cs rfl
      have pointed : ∀ c, ('.' :: (cs ++ (last ++ rest))).head? = some c → c.isDigit = false := by
        rintro c ⟨⟩
        decide
      have read := readWhole_append some' all trim pointed
      have point := readFraction_append some'' all' stop
      simp [readUnsigned, read, point, power, Written.decimal]

/-- The text of a finite number reads back as the number. -/
theorem readNumber_finite (negative : Bool) (exponent : Fin 2047)
    (fraction : Fin 4503599627370496) {rest : List Char} (ends : EndsNumber rest) :
    readNumber ((Binary64.finite negative exponent fraction).text spelling ++ rest) =
      some (.float (.finite negative exponent fraction), rest) := by
  obtain ⟨w, valid, trim, number, text⟩ := exists_written_shortest exponent fraction
  rw [Binary64.text, text, List.append_assoc, readNumber_written valid trim negative ends, number]

/-! ### Words and numbers

What starts like a number is first tried as a word, such as that for infinity behind a minus
sign. -/

/-- What a word of the format stands for is read for it. -/
theorem readScalar_word {word : List Char} {v : Value} (h : (word, v) ∈ words) (rest : List Char) :
    readScalar (word ++ rest) = some (v, rest) := by
  simp only [words, List.mem_cons, List.not_mem_nil, or_false, Prod.mk.injEq] at h
  rcases h with ⟨rfl, rfl⟩ | ⟨rfl, rfl⟩ | ⟨rfl, rfl⟩ | ⟨rfl, rfl⟩ | ⟨rfl, rfl⟩ | ⟨rfl, rfl⟩ <;> rfl

/-- What starts with a digit, perhaps behind a minus sign, is no word. -/
theorem readScalar_of_digit (negative : Bool) {cs : List Char}
    (digit : ∃ c rest, cs = c :: rest ∧ c.isDigit = true) :
    readScalar ((if negative then ['-'] else []) ++ cs) =
      (readNumber ((if negative then ['-'] else []) ++ cs)).map fun (n, rest) =>
        (.number n, rest) := by
  obtain ⟨c, rest, rfl, digit⟩ := digit
  have letters : ∀ d ∈ ['n', 't', 'f', 'N', 'I', '-'], d ≠ c := by
    rintro d hd rfl
    have noDigit : ∀ d ∈ ['n', 't', 'f', 'N', 'I', '-'], d.isDigit = false :=
      List.all_iff_forall_prop.1 (by decide)
    simp [noDigit d hd] at digit
  have noWord (entry : List Char × Value) (h : entry ∈ words) :
      ¬ entry.1.isPrefixOf ((if negative then ['-'] else []) ++ c :: rest) = true := by
    simp only [words, List.mem_cons, List.not_mem_nil, or_false] at h
    simp only [List.forall_mem_cons] at letters
    rcases h with rfl | rfl | rfl | rfl | rfl | rfl <;> cases negative <;>
      simp [List.isPrefixOf, letters]
  rw [readScalar, List.find?_eq_none.2 noWord]

/-- The text of a number reads back as the number. -/
theorem readScalar_number (n : Number) {rest : List Char} (ends : EndsNumber rest) :
    readScalar (n.text spelling ++ rest) = some (.number n, rest) := by
  match n with
  | .float .nan | .float (.infinite false) | .float (.infinite true) =>
      exact readScalar_word (by simp [words, Number.text, Binary64.text, spelling]) rest
  | .integer n =>
      obtain ⟨c, cs, starts, digit⟩ := exists_decimalDigits n.natAbs
      have read := readNumber_integer n ends
      rw [Number.text]
      rw [integerText_eq, List.append_assoc] at read ⊢
      rw [readScalar_of_digit _ ⟨c, cs ++ rest, by rw [starts, List.cons_append], digit⟩, read]
      rfl
  | .float (.finite negative exponent fraction) =>
      obtain ⟨w, valid, -, -, text⟩ := exists_written_shortest exponent fraction
      obtain ⟨c, cs, starts, digit⟩ := valid.head
      have read := readNumber_finite negative exponent fraction ends
      rw [Number.text]
      rw [Binary64.text, text, List.append_assoc] at read ⊢
      rw [readScalar_of_digit _ ⟨c, cs ++ rest, by rw [starts, List.cons_append], digit⟩, read]
      rfl

end DocQuery.Json
