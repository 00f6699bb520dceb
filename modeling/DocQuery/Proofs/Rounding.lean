/-
Module: DocQuery.Proofs.Rounding
Purpose: The floating-point number of a decimal numeral depends on the value of the numeral alone,
  and the shortest numeral of a floating-point number reads back as that number.
Main exports: floorLog2_eq_log, ofRatio_congr, ofRatio_ratio, Decimal.value,
  Decimal.toBinary64_congr, Binary64.toBinary64_shortest
-/
import DocQuery.Number.Decimal
import Mathlib.Algebra.Order.Field.Power
import Mathlib.Data.Int.Log
import Mathlib.Data.Rat.Floor
import Mathlib.Tactic.FieldSimp
import Mathlib.Tactic.Linarith

namespace DocQuery

/-! ### Ratios

The program works on fractions of natural numbers, with a power of two or ten that may be on either
side.  What it computes is a function of the rational number, so that fractions of one value are
treated alike. -/

/-- A power with an integer exponent is a ratio of powers with natural ones. -/
theorem zpow_eq_div (b : ℚ) (e : ℤ) : b ^ e = b ^ e.toNat / b ^ (-e).toNat := by
  rcases Int.le_total 0 e with h | h
  · obtain ⟨n, rfl⟩ := Int.eq_ofNat_of_zero_le h
    simp
  · obtain ⟨n, hn⟩ := Int.eq_ofNat_of_zero_le (Int.neg_nonneg_of_nonpos h)
    obtain rfl : e = -n := by omega
    simp

theorem div_eq_iff_cross_mul {num den num' den' : Nat} (hden : 0 < den) (hden' : 0 < den') :
    (num : ℚ) / den = num' / den' ↔ num * den' = num' * den := by
  have h : (den : ℚ) ≠ 0 := by exact_mod_cast hden.ne'
  have h' : (den' : ℚ) ≠ 0 := by exact_mod_cast hden'.ne'
  rw [div_eq_div_iff h h']
  exact_mod_cast Iff.rfl

theorem roundHalfEven_mul_left {k : Nat} (hk : 0 < k) (num den : Nat) :
    roundHalfEven (k * num) (k * den) = roundHalfEven num den := by
  have less : 2 * (k * (num % den)) < k * den ↔ 2 * (num % den) < den := by
    rw [Nat.mul_left_comm, Nat.mul_lt_mul_left hk]
  have more : k * den < 2 * (k * (num % den)) ↔ den < 2 * (num % den) := by
    rw [Nat.mul_left_comm, Nat.mul_lt_mul_left hk]
  simp only [roundHalfEven, Nat.mul_div_mul_left _ _ hk, Nat.mul_mod_mul_left, less, more]

/-- What a ratio is rounded to depends on its value alone. -/
theorem roundHalfEven_congr {num den num' den' : Nat} (hden : 0 < den) (hden' : 0 < den')
    (same : num * den' = num' * den) : roundHalfEven num den = roundHalfEven num' den' := by
  rw [← roundHalfEven_mul_left hden' num den, ← roundHalfEven_mul_left hden num' den',
    Nat.mul_comm den' num, same, Nat.mul_comm num' den, Nat.mul_comm den' den]

theorem roundHalfEven_mul_self {den : Nat} (hden : 0 < den) (n : Nat) :
    roundHalfEven (n * den) den = n := by
  simp [roundHalfEven, Nat.mul_div_cancel n hden, hden]

/-- Comparing a ratio with a power of a base needs no division. -/
theorem mul_pow_le_iff {b : Nat} (hb : 0 < b) (num : Nat) {den : Nat} (hden : 0 < den) (e : ℤ) :
    den * b ^ e.toNat ≤ num * b ^ (-e).toNat ↔ (b : ℚ) ^ e ≤ (num : ℚ) / den := by
  have hb' : (0 : ℚ) < b := by exact_mod_cast hb
  have hden' : (0 : ℚ) < den := by exact_mod_cast hden
  rw [zpow_eq_div, div_le_div_iff₀ (pow_pos hb' _) hden', ← Nat.cast_le (α := ℚ)]
  push_cast
  rw [mul_comm]

theorem log_mul_zpow {b : Nat} (hb : 1 < b) {n : Nat} (hn : 0 < n) (e : ℤ) :
    Int.log b ((n : ℚ) * b ^ e) = Nat.log b n + e := by
  have hb' : (0 : ℚ) < b := by exact_mod_cast Nat.zero_lt_of_lt hb
  have hn' : (0 : ℚ) < n := by exact_mod_cast hn
  refine eq_of_forall_le_iff fun k => ?_
  rw [← Int.zpow_le_iff_le_log hb (by positivity), ← sub_le_iff_le_add,
    ← Int.log_natCast (R := ℚ), ← Int.zpow_le_iff_le_log hb hn', zpow_sub₀ hb'.ne',
    div_le_iff₀ (by positivity)]

namespace Binary64

/-- The largest power of two that is at most a ratio, as the logarithm of its value. -/
theorem floorLog2_eq_log {num den : Nat} (hnum : 0 < num) (hden : 0 < den) :
    floorLog2 num den = Int.log 2 ((num : ℚ) / den) := by
  have hnum' : (0 : ℚ) < num := by exact_mod_cast hnum
  have hden' : (0 : ℚ) < den := by exact_mod_cast hden
  have two : (1 : Nat) < 2 := by decide
  have numLow : (2 : ℚ) ^ num.log2 ≤ num := by exact_mod_cast Nat.log2_self_le hnum.ne'
  have numHigh : (num : ℚ) < 2 ^ (num.log2 + 1) := by exact_mod_cast Nat.lt_log2_self
  have denLow : (2 : ℚ) ^ den.log2 ≤ den := by exact_mod_cast Nat.log2_self_le hden.ne'
  have denHigh : (den : ℚ) < 2 ^ (den.log2 + 1) := by exact_mod_cast Nat.lt_log2_self
  -- The guess from the lengths of both numbers is the logarithm or one more.
  have low : (num.log2 : ℤ) - den.log2 - 1 ≤ Int.log 2 ((num : ℚ) / den) := by
    rw [← Int.zpow_le_iff_le_log two (by positivity), le_div_iff₀ hden']
    calc ((2 : Nat) : ℚ) ^ ((num.log2 : ℤ) - den.log2 - 1) * den
        ≤ 2 ^ ((num.log2 : ℤ) - den.log2 - 1) * 2 ^ (den.log2 + 1) := by
          push_cast
          gcongr
      _ = 2 ^ num.log2 := by
          rw [← zpow_natCast, ← zpow_natCast, ← zpow_add₀ two_ne_zero]
          congr 1
          push_cast
          ring
      _ ≤ num := numLow
  have high : Int.log 2 ((num : ℚ) / den) < (num.log2 : ℤ) - den.log2 + 1 := by
    rw [← Int.lt_zpow_iff_log_lt two (by positivity), div_lt_iff₀ hden']
    calc (num : ℚ) < 2 ^ (num.log2 + 1) := numHigh
      _ = 2 ^ ((num.log2 : ℤ) - den.log2 + 1) * 2 ^ den.log2 := by
          rw [← zpow_natCast, ← zpow_natCast, ← zpow_add₀ two_ne_zero]
          congr 1
          push_cast
          ring
      _ ≤ ((2 : Nat) : ℚ) ^ ((num.log2 : ℤ) - den.log2 + 1) * den := by
          push_cast
          gcongr
  have test := mul_pow_le_iff (by decide : 0 < 2) num hden ((num.log2 : ℤ) - den.log2)
  rw [Int.zpow_le_iff_le_log two (by positivity)] at test
  simp only [floorLog2, Nat.pow_eq, test]
  split <;> omega

/-- What a ratio is rounded to depends on its value alone. -/
theorem ofRatio_congr {num den num' den' : Nat} (negative : Bool) (hden : 0 < den)
    (hden' : 0 < den') (same : num * den' = num' * den) :
    ofRatio negative num den = ofRatio negative num' den' := by
  have zero : num = 0 ↔ num' = 0 := by
    constructor
    · rintro rfl
      simpa [hden.ne'] using same.symm
    · rintro rfl
      simpa [hden'.ne'] using same
  by_cases hnum : num = 0
  · rw [ofRatio, ofRatio, if_pos hnum, if_pos (zero.1 hnum)]
  have hnum' : num' ≠ 0 := mt zero.2 hnum
  have value : (num : ℚ) / den = num' / den' := (div_eq_iff_cross_mul hden hden').2 same
  have exponent : floorLog2 num den = floorLog2 num' den' := by
    rw [floorLog2_eq_log (Nat.pos_of_ne_zero hnum) hden,
      floorLog2_eq_log (Nat.pos_of_ne_zero hnum') hden', value]
  simp only [ofRatio, if_neg hnum, if_neg hnum', exponent]
  generalize max (floorLog2 num' den' - 52) (-1074) = e
  congr 2
  have power (n : Nat) : 0 < Nat.pow 2 n := Nat.pow_pos (by decide)
  refine roundHalfEven_congr (Nat.mul_pos hden (power _)) (Nat.mul_pos hden' (power _)) ?_
  simp only [Nat.pow_eq]
  calc num * 2 ^ (-e).toNat * (den' * 2 ^ e.toNat)
      = num * den' * (2 ^ (-e).toNat * 2 ^ e.toNat) := by ring
    _ = num' * den * (2 ^ (-e).toNat * 2 ^ e.toNat) := by rw [same]
    _ = num' * 2 ^ (-e).toNat * (den * 2 ^ e.toNat) := by ring

/-! ### Exact values

Every finite number that is not zero is the rounding of its own magnitude. -/

/-- The magnitude of a finite number. -/
def magnitude (exponent : Fin 2047) (fraction : Fin 4503599627370496) : ℚ :=
  significand exponent fraction * 2 ^ scale exponent

variable {exponent : Fin 2047} {fraction : Fin 4503599627370496}

theorem ratio_den_pos : 0 < (ratio exponent fraction).2 :=
  Nat.pow_pos (by decide)

theorem ratio_eq_magnitude :
    ((ratio exponent fraction).1 : ℚ) / (ratio exponent fraction).2 =
      magnitude exponent fraction := by
  simp only [ratio, magnitude, zpow_eq_div 2 (scale exponent), Nat.pow_eq]
  push_cast
  ring

/-- Finite numbers are numbered by their exponents and fractions. -/
theorem ofRank_finite (negative : Bool) (exponent : Fin 2047) (fraction : Fin 4503599627370496) :
    ofRank negative (exponent.val * fractionCount + fraction.val) =
      .finite negative exponent fraction := by
  have div : (exponent.val * fractionCount + fraction.val) / 4503599627370496 = exponent.val := by
    rw [fractionCount]
    omega
  have mod : (exponent.val * fractionCount + fraction.val) % 4503599627370496 = fraction.val := by
    rw [fractionCount]
    omega
  simp [ofRank, div, mod]

theorem significand_lt (exponent : Fin 2047) (fraction : Fin 4503599627370496) :
    significand exponent fraction < 2 ^ 53 := by
  simp only [significand, fractionCount]
  split <;> omega

/-- A significand has 53 bits, or fewer where the exponent is the least. -/
theorem log_significand (h : significand exponent fraction ≠ 0) :
    max (Nat.log 2 (significand exponent fraction) + scale exponent - 52) (-1074) =
      scale exponent := by
  have high : Nat.log 2 (significand exponent fraction) < 53 :=
    Nat.log_lt_of_lt_pow h (significand_lt exponent fraction)
  by_cases least : exponent.val = 0
  · simp only [scale]
    omega
  · have low : 52 ≤ Nat.log 2 (significand exponent fraction) := by
      refine Nat.le_log_of_pow_le (by decide) ?_
      rw [significand, if_neg least]
      exact Nat.le_add_right _ _
    simp only [scale]
    omega

/-- A finite number that is not zero is the one that its magnitude is rounded to. -/
theorem ofRatio_ratio (negative : Bool) (h : significand exponent fraction ≠ 0) :
    ofRatio negative (ratio exponent fraction).1 (ratio exponent fraction).2 =
      .finite negative exponent fraction := by
  have positive := Nat.pos_of_ne_zero h
  have numerator : 0 < (ratio exponent fraction).1 :=
    Nat.mul_pos positive (Nat.pow_pos (by decide))
  have log : floorLog2 (ratio exponent fraction).1 (ratio exponent fraction).2 =
      Nat.log 2 (significand exponent fraction) + scale exponent := by
    rw [floorLog2_eq_log numerator ratio_den_pos, ratio_eq_magnitude]
    exact log_mul_zpow (by decide) positive (scale exponent)
  have exact :
      roundHalfEven ((ratio exponent fraction).1 * Nat.pow 2 (-scale exponent).toNat)
        ((ratio exponent fraction).2 * Nat.pow 2 (scale exponent).toNat) =
      significand exponent fraction := by
    have power (n : Nat) : 0 < Nat.pow 2 n := Nat.pow_pos (by decide)
    rw [ratio, Nat.mul_assoc, Nat.mul_comm (Nat.pow 2 (scale exponent).toNat)]
    exact roundHalfEven_mul_self (Nat.mul_pos (power _) (power _)) _
  have rank : (scale exponent + 1074).toNat * fractionCount + significand exponent fraction =
      exponent.val * fractionCount + fraction.val := by
    simp only [scale, significand, fractionCount]
    split <;> omega
  simp only [ofRatio, if_neg numerator.ne', log, log_significand h, exact, rank, ofRank_finite]

end Binary64

/-! ### Decimal numerals

Numerals that read back as a number are those of values close to it.  The numeral written out in
full is one of them, so that the search for a shorter one always has a result. -/

namespace Decimal

/-- The value of a decimal numeral. -/
def value (d : Decimal) : ℚ :=
  d.digits * 10 ^ d.exponent

theorem ratio_den_pos (d : Decimal) : 0 < d.ratio.2 :=
  Nat.pow_pos (by decide)

theorem ratio_eq_value (d : Decimal) : (d.ratio.1 : ℚ) / d.ratio.2 = d.value := by
  simp only [ratio, value, zpow_eq_div 10 d.exponent, Nat.pow_eq]
  push_cast
  ring

theorem value_eq_zero_iff (d : Decimal) : d.value = 0 ↔ d.digits = 0 := by
  have power : (10 : ℚ) ^ d.exponent ≠ 0 := zpow_ne_zero _ (by norm_num)
  simp [value, power]

/-- The place of the first digit of a numeral, as the logarithm of its value. -/
theorem size_eq_log (d : Decimal) (h : d.digits ≠ 0) :
    ((decimalDigits d.digits).length : ℤ) + d.exponent = Int.log 10 d.value + 1 := by
  have positive : 0 < d.digits := Nat.pos_of_ne_zero h
  have ten : (1 : Nat) < 10 := by decide
  have length : (decimalDigits d.digits).length = Nat.log 10 d.digits + 1 := by
    refine eq_of_forall_ge_iff fun k => ?_
    cases k with
    | zero => simp [decimalDigits]
    | succ k =>
        rw [decimalDigits, Nat.length_toDigits_le_iff ten k.succ_pos, Nat.succ_le_iff,
          Nat.log_lt_iff_lt_pow ten h]
  have log : Int.log 10 d.value = Nat.log 10 d.digits + d.exponent :=
    log_mul_zpow ten positive d.exponent
  rw [length, log]
  push_cast
  ring

/-- The floating-point number of a numeral depends on its value alone. -/
theorem toBinary64_congr {d d' : Decimal} (negative : Bool) (same : d.value = d'.value) :
    d.toBinary64 negative = d'.toBinary64 negative := by
  have zero : d.digits = 0 ↔ d'.digits = 0 := by
    rw [← value_eq_zero_iff, ← value_eq_zero_iff, same]
  by_cases hd : d.digits = 0
  · simp [toBinary64, hd, zero.1 hd]
  have hd' : d'.digits ≠ 0 := mt zero.2 hd
  have ratios : d.ratio.1 * d'.ratio.2 = d'.ratio.1 * d.ratio.2 :=
    (div_eq_iff_cross_mul d.ratio_den_pos d'.ratio_den_pos).1
      (d.ratio_eq_value.trans (same.trans d'.ratio_eq_value.symm))
  simp only [toBinary64, size_eq_log d hd, size_eq_log d' hd', same, hd, hd',
    Binary64.ofRatio_congr negative d.ratio_den_pos d'.ratio_den_pos ratios]

theorem value_dropZeros (fuel : Nat) (d : Decimal) : (dropZeros fuel d).value = d.value := by
  induction fuel generalizing d with
  | zero => rfl
  | succ fuel ih =>
      rw [dropZeros]
      split
      case isFalse => rfl
      case isTrue h =>
        have digits : (d.digits : ℚ) = 10 * (d.digits / 10 : Nat) := by
          exact_mod_cast (Nat.mul_div_cancel' (Nat.dvd_of_mod_eq_zero h.2)).symm
        rw [ih, value, value, digits, zpow_add_one₀ (by norm_num)]
        ring

end Decimal

namespace Binary64

variable {exponent : Fin 2047} {fraction : Fin 4503599627370496}

theorem value_exactDecimal (exponent : Fin 2047) (fraction : Fin 4503599627370496) :
    (exactDecimal exponent fraction).value = magnitude exponent fraction := by
  rw [magnitude, exactDecimal]
  generalize scale exponent = e
  split
  case isTrue below =>
    obtain ⟨n, hn⟩ := Int.eq_ofNat_of_zero_le (Int.neg_nonneg_of_nonpos below.le)
    obtain rfl : e = -n := by omega
    have ten : (10 : ℚ) = 2 * 5 := by norm_num
    simp only [Decimal.value, Nat.pow_eq]
    push_cast
    rw [neg_neg, Int.toNat_natCast, zpow_neg, zpow_neg, zpow_natCast, zpow_natCast, ten, mul_pow]
    field_simp
  case isFalse above =>
    obtain ⟨n, rfl⟩ := Int.eq_ofNat_of_zero_le (not_lt.1 above)
    simp [Decimal.value]

theorem scale_bounds : -1074 ≤ scale exponent ∧ scale exponent ≤ 971 := by
  simp only [scale]
  omega

theorem magnitude_pos (h : significand exponent fraction ≠ 0) :
    0 < magnitude exponent fraction := by
  have positive : (0 : ℚ) < significand exponent fraction := by
    exact_mod_cast Nat.pos_of_ne_zero h
  rw [magnitude]
  positivity

/-- No finite number is so small or so large that numerals of its size are not worked out. -/
theorem log_magnitude (h : significand exponent fraction ≠ 0) :
    -331 ≤ Int.log 10 (magnitude exponent fraction) ∧
      Int.log 10 (magnitude exponent fraction) < 310 := by
  have ten : (1 : Nat) < 10 := by decide
  have one : (1 : ℚ) ≤ significand exponent fraction := by
    exact_mod_cast Nat.pos_of_ne_zero h
  have top : (significand exponent fraction : ℚ) < 2 ^ 53 := by
    exact_mod_cast significand_lt exponent fraction
  have positive := magnitude_pos h
  -- A number is at least the least positive one and below the power of two above the largest.
  constructor
  · rw [← Int.zpow_le_iff_le_log ten positive]
    have powers : (2 : ℚ) ^ 1074 ≤ 10 ^ 331 := by
      exact_mod_cast (by decide +kernel : 2 ^ 1074 ≤ 10 ^ 331)
    calc ((10 : Nat) : ℚ) ^ (-331 : ℤ) ≤ 1 * 2 ^ (-1074 : ℤ) := by
          rw [one_mul, zpow_neg, zpow_neg, inv_le_inv₀ (by positivity) (by positivity),
            zpow_ofNat, zpow_ofNat]
          exact powers
      _ ≤ significand exponent fraction * 2 ^ scale exponent :=
          mul_le_mul one (zpow_le_zpow_right₀ one_le_two scale_bounds.1)
            (zpow_pos two_pos _).le (Nat.cast_nonneg _)
  · rw [← Int.lt_zpow_iff_log_lt ten positive]
    have powers : (2 : ℚ) ^ 53 * 2 ^ 971 ≤ 10 ^ 310 := by
      exact_mod_cast (by decide +kernel : 2 ^ 53 * 2 ^ 971 ≤ 10 ^ 310)
    calc magnitude exponent fraction < 2 ^ 53 * 2 ^ scale exponent := by
          rw [magnitude]
          gcongr
      _ ≤ 2 ^ 53 * 2 ^ (971 : ℤ) := by
          gcongr
          · norm_num
          · exact scale_bounds.2
      _ ≤ ((10 : Nat) : ℚ) ^ (310 : ℤ) := by
          rw [zpow_ofNat, zpow_ofNat]
          exact powers

/-- The numeral that writes a number out in full reads back as the number. -/
theorem toBinary64_exactDecimal (negative : Bool) (h : significand exponent fraction ≠ 0) :
    (exactDecimal exponent fraction).toBinary64 negative = .finite negative exponent fraction := by
  have value := value_exactDecimal exponent fraction
  generalize exactDecimal exponent fraction = d at value ⊢
  have nonzero : d.digits ≠ 0 := by
    rw [Ne, ← d.value_eq_zero_iff, value]
    exact (magnitude_pos h).ne'
  have size := d.size_eq_log nonzero
  rw [value] at size
  have bounds := log_magnitude h
  have ratios : d.ratio.1 * (ratio exponent fraction).2 =
      (ratio exponent fraction).1 * d.ratio.2 :=
    (div_eq_iff_cross_mul d.ratio_den_pos ratio_den_pos).1
      (d.ratio_eq_value.trans (value.trans ratio_eq_magnitude.symm))
  rw [Decimal.toBinary64, if_neg (by omega), if_neg (by omega),
    ofRatio_congr negative d.ratio_den_pos ratio_den_pos ratios, ofRatio_ratio negative h]

theorem ofRank_sign {rank : Nat} (negative : Bool)
    (h : ofRank false rank = .finite false exponent fraction) :
    ofRank negative rank = .finite negative exponent fraction := by
  unfold ofRank at h ⊢
  split_ifs at h ⊢ with inside
  cases h
  rfl

/-- A numeral with another sign stands for the number with that sign. -/
theorem toBinary64_sign {d : Decimal} (negative : Bool)
    (h : d.toBinary64 false = .finite false exponent fraction) :
    d.toBinary64 negative = .finite negative exponent fraction := by
  have zeros (h : zero false = .finite false exponent fraction) :
      zero negative = .finite negative exponent fraction := by
    cases h
    rfl
  rw [Decimal.toBinary64] at h ⊢
  split_ifs at h ⊢ with small large
  · exact zeros h
  · rw [ofRatio] at h ⊢
    split_ifs at h ⊢ with nothing
    · exact zeros h
    · exact ofRank_sign negative h

/-- The shortest numeral of a number reads back as the number. -/
theorem toBinary64_shortest (negative : Bool) :
    (shortest exponent fraction).toBinary64 negative = .finite negative exponent fraction := by
  rw [shortest]
  by_cases zero : (ratio exponent fraction).1 = 0
  · have least : significand exponent fraction = 0 :=
      (Nat.mul_eq_zero.1 zero).resolve_right (Nat.pow_pos (by decide)).ne'
    have parts : exponent.val = 0 ∧ fraction.val = 0 := by
      simp only [significand, fractionCount] at least
      split at least <;> omega
    obtain rfl : exponent = 0 := Fin.ext parts.1
    obtain rfl : fraction = 0 := Fin.ext parts.2
    simp [zero, Decimal.toBinary64, Binary64.zero]
  · simp only [zero, if_false]
    have nonzero : significand exponent fraction ≠ 0 := by
      intro h
      exact zero (by simp [ratio, h])
    rw [Decimal.toBinary64_congr negative (Decimal.value_dropZeros _ _)]
    cases found : (candidates (ratio exponent fraction).1 (ratio exponent fraction).2).find?
        fun d => d.toBinary64 false == .finite false exponent fraction with
    | none => exact toBinary64_exactDecimal negative nonzero
    | some d => exact toBinary64_sign negative (by simpa using List.find?_some found)

end Binary64

end DocQuery
