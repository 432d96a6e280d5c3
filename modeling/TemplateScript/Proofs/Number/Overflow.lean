import Mathlib.Algebra.Order.Field.Basic
import Mathlib.Algebra.Order.Field.Power
import Mathlib.Data.Rat.Cast.Order
import Mathlib.Tactic.FieldSimp
import Mathlib.Tactic.Linarith
import Mathlib.Tactic.NormNum
import Mathlib.Tactic.Positivity
import Mathlib.Tactic.Ring
import TemplateScript.Proofs.Number.Range

/-!
Where numbers become infinite.

The largest finite double is 2^1024 - 2^971. A number is rounded to it up to the middle between it
and 2^1024, and the middle itself goes to the even neighbour, which is infinite. So exactly the
numbers below 2^1024 - 2^970 have a finite double, and this holds of ratios and of decimals.
-/
namespace TemplateScript

namespace Double

/-- Rounding reaches an even number from the middle below it on. -/
theorem le_nearest_even_iff (num : Nat) {den bound : Nat} (positive : 0 < den)
    (even : bound % 2 = 0) :
    bound ≤ nearestEven num den ↔ 2 * (bound * den) ≤ 2 * num + den := by
  have whole := Nat.div_add_mod num den
  have remainder := Nat.mod_lt num positive
  rw [Nat.mul_comm] at whole
  have rounded : nearestEven num den = num / den ∧ 2 * (num % den) ≤ den ∨
      nearestEven num den = num / den + 1 ∧ den ≤ 2 * (num % den) := by
    unfold nearestEven
    dsimp only
    split
    · exact .inl ⟨rfl, by omega⟩
    · split
      · exact .inr ⟨rfl, by omega⟩
      · omega
  have tie : 2 * (num % den) = den → nearestEven num den = num / den + num / den % 2 := by
    intro half
    simp [nearestEven, half]
  generalize nearestEven num den = result at *
  generalize num / den = floor at *
  generalize num % den = left at *
  rcases Nat.lt_or_ge (floor + 1) bound with above | within
  · have far := Nat.mul_le_mul_right den above
    rw [Nat.succ_mul, Nat.succ_mul] at far
    constructor
    · omega
    · omega
  · rcases Nat.lt_or_ge floor bound with next | below
    · have same : bound = floor + 1 := by omega
      have product : bound * den = floor * den + den := by rw [same, Nat.succ_mul]
      constructor
      · omega
      · omega
    · have near := Nat.mul_le_mul_right den below
      constructor
      · omega
      · omega

theorem two_zpow (k : Int) :
    (2 : ℚ) ^ k * ((2 ^ (-k).toNat : Nat) : ℚ) = ((2 ^ k.toNat : Nat) : ℚ) := by
  push_cast
  rw [← zpow_natCast, ← zpow_natCast, ← zpow_add₀ (by norm_num)]
  congr 1
  omega

theorem two_zpow_le_iff (num : Nat) {den : Nat} (positive : 0 < den) (k : Int) (more : Nat) :
    (2 : ℚ) ^ (k + more) ≤ num / den ↔
      2 ^ more * (den * 2 ^ k.toNat) ≤ num * 2 ^ (-k).toNat := by
  have denominator : (0 : ℚ) < den := by exact_mod_cast positive
  have scale : (0 : ℚ) < ((2 ^ (-k).toNat : Nat) : ℚ) := by positivity
  have product : (2 : ℚ) ^ (k + more) * den * ((2 ^ (-k).toNat : Nat) : ℚ) =
      ((2 ^ more * (den * 2 ^ k.toNat) : Nat) : ℚ) := by
    rw [zpow_add₀ (by norm_num), zpow_natCast, Nat.cast_mul, Nat.cast_mul, ← two_zpow k]
    push_cast
    ring
  rw [le_div_iff₀ denominator, ← mul_le_mul_iff_left₀ scale, product]
  exact_mod_cast Iff.rfl

section Ratio

variable {num den : Nat}

theorem ratio_log2_bounds (numerator : num ≠ 0) (denominator : den ≠ 0) :
    (2 : ℚ) ^ ((num.log2 : Int) - den.log2 - 1) ≤ num / den ∧
      (num : ℚ) / den < 2 ^ ((num.log2 : Int) - den.log2 + 1) := by
  have numLow : ((2 : ℚ) ^ num.log2) ≤ num := by exact_mod_cast Nat.log2_self_le numerator
  have numHigh : (num : ℚ) < 2 ^ (num.log2 + 1) := by exact_mod_cast Nat.lt_log2_self
  have denLow : ((2 : ℚ) ^ den.log2) ≤ den := by exact_mod_cast Nat.log2_self_le denominator
  have denHigh : (den : ℚ) < 2 ^ (den.log2 + 1) := by exact_mod_cast Nat.lt_log2_self
  have positive : (0 : ℚ) < den := by exact_mod_cast Nat.pos_of_ne_zero denominator
  constructor
  · rw [le_div_iff₀ positive]
    calc (2 : ℚ) ^ ((num.log2 : Int) - den.log2 - 1) * den
        ≤ 2 ^ ((num.log2 : Int) - den.log2 - 1) * 2 ^ (den.log2 + 1) := by
          gcongr
      _ = 2 ^ num.log2 := by
          rw [← zpow_natCast, ← zpow_natCast, ← zpow_add₀ (by norm_num)]
          congr 1
          push_cast
          ring
      _ ≤ num := numLow
  · rw [div_lt_iff₀ positive]
    calc (num : ℚ) < 2 ^ (num.log2 + 1) := numHigh
      _ = 2 ^ ((num.log2 : Int) - den.log2 + 1) * 2 ^ den.log2 := by
          rw [← zpow_natCast, ← zpow_natCast, ← zpow_add₀ (by norm_num)]
          congr 1
          push_cast
          ring
      _ ≤ 2 ^ ((num.log2 : Int) - den.log2 + 1) * den := by
          gcongr

/-- The leading exponent of a ratio is that of the power of two at or just below it. -/
theorem leading_exponent_spec (numerator : num ≠ 0) (denominator : den ≠ 0) :
    (2 : ℚ) ^ leadingExponent num den ≤ num / den ∧
      (num : ℚ) / den < 2 ^ (leadingExponent num den + 1) := by
  obtain ⟨low, high⟩ := ratio_log2_bounds numerator denominator
  have compare := two_zpow_le_iff num (Nat.pos_of_ne_zero denominator)
    ((num.log2 : Int) - den.log2) 0
  simp only [Nat.cast_zero, add_zero, pow_zero, one_mul] at compare
  unfold leadingExponent
  dsimp only
  split
  · next reached => exact ⟨compare.mpr reached, high⟩
  · next missed =>
      refine ⟨low, ?_⟩
      rw [sub_add_cancel]
      exact lt_of_not_ge fun reached => missed (compare.mp reached)

/-- A ratio below 2^53 units is rounded to at most that many. -/
theorem nearest_even_scaled_le (denominator : den ≠ 0) {exponent : Int}
    (small : (num : ℚ) / den < 2 ^ (exponent + 53)) :
    nearestEven (num * 2 ^ (-exponent).toNat) (den * 2 ^ exponent.toNat) ≤ 2 ^ 53 := by
  have positive : 0 < den * 2 ^ exponent.toNat :=
    Nat.mul_pos (Nat.pos_of_ne_zero denominator) (Nat.two_pow_pos _)
  have compare := two_zpow_le_iff num (Nat.pos_of_ne_zero denominator) exponent 53
  have below : num * 2 ^ (-exponent).toNat < 2 ^ 53 * (den * 2 ^ exponent.toNat) :=
    lt_of_not_ge fun reached => absurd (compare.mpr reached) (not_le_of_gt small)
  have quotient := (Nat.div_lt_iff_lt_mul positive).mpr below
  have rounded := nearest_even_le (num * 2 ^ (-exponent).toNat) (den * 2 ^ exponent.toNat)
  omega

/-- A ratio of at least 2^52 units is rounded to at least that many. -/
theorem le_nearest_even_scaled (denominator : den ≠ 0) {exponent : Int}
    (large : (2 : ℚ) ^ (exponent + 52) ≤ num / den) :
    2 ^ 52 ≤ nearestEven (num * 2 ^ (-exponent).toNat) (den * 2 ^ exponent.toNat) := by
  have positive : 0 < den * 2 ^ exponent.toNat :=
    Nat.mul_pos (Nat.pos_of_ne_zero denominator) (Nat.two_pow_pos _)
  have reached := (two_zpow_le_iff num (Nat.pos_of_ne_zero denominator) exponent 52).mp large
  rw [le_nearest_even_iff _ positive (by decide)]
  omega

/-- The least number that has no finite double: the middle between the largest finite double and the
power of two above it. -/
def overflow : ℚ := 2 ^ (1024 : Int) - 2 ^ (970 : Int)

theorem overflow_bounds : (2 : ℚ) ^ (1023 : Int) ≤ overflow ∧ overflow ≤ 2 ^ (1024 : Int) := by
  have top : (2 : ℚ) ^ (1024 : Int) = 2 * 2 ^ (1023 : Int) := by
    rw [← zpow_one_add₀ (by norm_num)]
    rfl
  have less : (2 : ℚ) ^ (970 : Int) ≤ 2 ^ (1023 : Int) :=
    zpow_le_zpow_right₀ (by norm_num) (by norm_num)
  have positive : (0 : ℚ) < 2 ^ (970 : Int) := by positivity
  rw [overflow, top]
  generalize (2 : ℚ) ^ (1023 : Int) = half at *
  generalize (2 : ℚ) ^ (970 : Int) = gap at *
  constructor <;> linarith

theorem overflow_pos : 0 < overflow :=
  lt_of_lt_of_le (by positivity) overflow_bounds.1

theorem overflow_le_iff (positive : 0 < den) :
    overflow ≤ num / den ↔ (2 ^ 54 - 1) * (den * 2 ^ 970) ≤ num := by
  have denominator : (0 : ℚ) < den := by exact_mod_cast positive
  have value : overflow = ((2 ^ 54 - 1 : Nat) : ℚ) * ((2 ^ 970 : Nat) : ℚ) := by
    have top : (2 : ℚ) ^ (1024 : Int) = 2 ^ (54 : Int) * 2 ^ (970 : Int) := by
      rw [← zpow_add₀ (by norm_num)]
      rfl
    have small : ((2 ^ 970 : Nat) : ℚ) = 2 ^ (970 : Int) := by
      rw [Nat.cast_pow, ← zpow_natCast]
      rfl
    rw [overflow, top, small]
    generalize (2 : ℚ) ^ (970 : Int) = gap
    norm_num
    ring
  rw [le_div_iff₀ denominator, value]
  have product : ((2 ^ 54 - 1 : Nat) : ℚ) * ((2 ^ 970 : Nat) : ℚ) * den =
      (((2 ^ 54 - 1) * (den * 2 ^ 970) : Nat) : ℚ) := by
    rw [Nat.cast_mul, Nat.cast_mul]
    ring
  rw [product]
  exact_mod_cast Iff.rfl

/-- Rounding gives the word of infinity, or one above it, from the overflow on. -/
theorem infinite_word_iff (numerator : num ≠ 0) (denominator : den ≠ 0) {exponent : Int}
    (chosen : exponent = max leastExponent (leadingExponent num den - 52)) :
    infiniteWord ≤ (exponent - leastExponent).toNat * fractionSize +
        nearestEven (num * 2 ^ (-exponent).toNat) (den * 2 ^ exponent.toNat) ↔
      overflow ≤ num / den := by
  obtain ⟨low, high⟩ := leading_exponent_spec numerator denominator
  obtain ⟨overflowLow, overflowHigh⟩ := overflow_bounds
  have sizes : fractionSize = 2 ^ 52 ∧ infiniteWord = 2047 * 2 ^ 52 ∧ leastExponent = -1074 := by
    decide
  obtain ⟨fraction, infinite, least⟩ := sizes
  rw [least] at chosen
  rw [fraction, infinite, least]
  generalize leadingExponent num den = leading at *
  rcases lt_trichotomy leading 1023 with below | last | above
  · have small : (num : ℚ) / den < 2 ^ (exponent + 53) :=
      high.trans_le (zpow_le_zpow_right₀ (by norm_num) (by omega))
    have rounded := nearest_even_scaled_le denominator small
    have under : (num : ℚ) / den < overflow :=
      (high.trans_le (zpow_le_zpow_right₀ (by norm_num) (by omega))).trans_le overflowLow
    refine iff_of_false ?_ (not_le_of_gt under)
    omega
  · -- the significand of the last exponent is full exactly where rounding reaches the next one
    have positive := Nat.pos_of_ne_zero denominator
    have scale : exponent = 971 := by omega
    subst scale
    have doubled : den * 2 ^ (971 : Int).toNat = 2 * (den * 2 ^ 970) := by
      have power : (971 : Int).toNat = 970 + 1 := rfl
      rw [power, pow_succ, ← Nat.mul_assoc, Nat.mul_comm]
    have units : num * 2 ^ (-971 : Int).toNat = num := Nat.mul_one num
    have scaled : 0 < den * 2 ^ 970 := by positivity
    have full : 2 ^ 53 ≤ nearestEven num (2 * (den * 2 ^ 970)) ↔
        2 * (2 ^ 53 * (2 * (den * 2 ^ 970))) ≤ 2 * num + 2 * (den * 2 ^ 970) :=
      le_nearest_even_iff num (Nat.mul_pos two_pos scaled) (by decide)
    rw [overflow_le_iff positive, doubled, units]
    clear doubled
    generalize den * 2 ^ 970 = unit at *
    omega
  · have large : (2 : ℚ) ^ (exponent + 52) ≤ num / den :=
      (zpow_le_zpow_right₀ (by norm_num) (by omega)).trans low
    have rounded := le_nearest_even_scaled denominator large
    have beyond : overflow ≤ num / den :=
      overflowHigh.trans ((zpow_le_zpow_right₀ (by norm_num) (by omega)).trans low)
    refine iff_of_true ?_ beyond
    omega

theorem is_finite_iff (d : Double) :
    d.isFinite = true ↔ d.bits.toNat / fractionSize % exponentSize ≠ exponentSize - 1 := by
  by_cases greatest : d.bits.toNat / fractionSize % exponentSize = exponentSize - 1
  · by_cases fraction : d.bits.toNat % fractionSize = 0 <;>
      simp [isFinite, read, greatest, fraction]
  · by_cases least : d.bits.toNat / fractionSize % exponentSize = 0
    · have other : 0 ≠ exponentSize - 1 := by decide
      simp [isFinite, read, least, other]
    · simp [isFinite, read, greatest, least]

theorem of_word_finite (negative : Bool) {word : Nat} (small : word < infiniteWord) :
    (ofWord negative word).isFinite = true := by
  have sizes : fractionSize = 4503599627370496 ∧ exponentSize = 2048 ∧
      signBit = 9223372036854775808 ∧ infiniteWord = 9218868437227405312 := by decide
  obtain ⟨fraction, exponents, sign, infinite⟩ := sizes
  rw [infinite] at small
  have bits : (ofWord negative word).bits.toNat =
      (if negative then 9223372036854775808 + word else word) := by
    rw [ofWord, UInt64.toNat_ofNat', sign]
    apply Nat.mod_eq_of_lt
    split <;> omega
  have biased : (ofWord negative word).bits.toNat / 4503599627370496 % 2048 ≠ 2048 - 1 := by
    rw [bits]
    cases negative <;> simp <;> omega
  rwa [is_finite_iff, fraction, exponents]

/-- The double of a ratio is finite exactly below the overflow. -/
theorem of_ratio_finite_iff (negative : Bool) (num : Nat) (denominator : den ≠ 0) :
    (ofRatio negative num den).isFinite = true ↔ (num : ℚ) / den < overflow := by
  unfold ofRatio
  split
  · next zero =>
      rw [zero, Nat.cast_zero, zero_div]
      exact iff_of_true (of_word_finite negative (by decide)) overflow_pos
  · next nonzero =>
      have infinite := infinite_word_iff nonzero denominator rfl
      dsimp only
      split
      · next large =>
          refine iff_of_false ?_ (not_lt_of_ge (infinite.mp large))
          cases negative <;> decide
      · next small =>
          refine iff_of_true (of_word_finite negative (Nat.lt_of_not_ge small)) ?_
          exact lt_of_not_ge fun reached => small (infinite.mpr reached)

end Ratio

end Double

namespace Decimal

def toRat (d : Decimal) : ℚ :=
  d.digits * 10 ^ d.exponent

theorem width_of_ne_zero {n : Nat} (nonzero : n ≠ 0) :
    width n = (Nat.toDigits 10 n).length ∧ 0 < width n := by
  have digits : width n = (Nat.toDigits 10 n).length := if_neg nonzero
  exact ⟨digits, digits ▸ Nat.length_toDigits_pos⟩

theorem lt_pow_width (n : Nat) : n < 10 ^ width n := by
  by_cases zero : n = 0
  · simp [zero]
  · obtain ⟨digits, some⟩ := width_of_ne_zero zero
    exact (Nat.length_toDigits_le_iff (by decide) some).mp digits.ge

theorem pow_width_le {n : Nat} (nonzero : n ≠ 0) : 10 ^ (width n - 1) ≤ n := by
  obtain ⟨digits, some⟩ := width_of_ne_zero nonzero
  by_cases single : width n = 1
  · rw [single]
    exact Nat.one_le_iff_ne_zero.mpr nonzero
  · refine Nat.le_of_not_lt fun less => ?_
    have short := (Nat.length_toDigits_le_iff (by decide) (by omega)).mpr less
    rw [← digits] at short
    omega

/-- A decimal lies between the powers of ten around its first digit. -/
theorem to_rat_bounds {d : Decimal} (nonzero : d.digits ≠ 0) :
    (10 : ℚ) ^ (width d.digits + d.exponent - 1) ≤ d.toRat ∧
      d.toRat < 10 ^ (width d.digits + d.exponent) := by
  have some := (width_of_ne_zero nonzero).2
  have high := lt_pow_width d.digits
  have low := pow_width_le nonzero
  have exponent : (0 : ℚ) < 10 ^ d.exponent := by positivity
  have lowRat : ((10 : ℚ) ^ (width d.digits - 1)) ≤ d.digits := by exact_mod_cast low
  have highRat : (d.digits : ℚ) < 10 ^ width d.digits := by exact_mod_cast high
  unfold toRat
  constructor
  · calc (10 : ℚ) ^ (width d.digits + d.exponent - 1)
        = 10 ^ (width d.digits - 1) * 10 ^ d.exponent := by
          rw [← zpow_natCast, ← zpow_add₀ (by norm_num)]
          congr 1
          omega
      _ ≤ d.digits * 10 ^ d.exponent := by gcongr
  · calc (d.digits : ℚ) * 10 ^ d.exponent
        < 10 ^ width d.digits * 10 ^ d.exponent := by gcongr
      _ = 10 ^ (width d.digits + d.exponent) := by
          rw [← zpow_natCast, ← zpow_add₀ (by norm_num)]

theorem to_rat_ratio (d : Decimal) :
    ((d.digits * 10 ^ d.exponent.toNat : Nat) : ℚ) / ((10 ^ (-d.exponent).toNat : Nat) : ℚ) =
      d.toRat := by
  have power : (10 : ℚ) ^ d.exponent * 10 ^ (-d.exponent).toNat = 10 ^ d.exponent.toNat := by
    rw [← zpow_natCast, ← zpow_natCast, ← zpow_add₀ (by norm_num)]
    congr 1
    omega
  have positive : (0 : ℚ) < 10 ^ (-d.exponent).toNat := by positivity
  push_cast
  rw [div_eq_iff positive.ne', toRat, mul_assoc, power]

/-- The double of a decimal is finite exactly below the overflow. -/
theorem to_double_finite_iff (negative : Bool) (d : Decimal) :
    (d.toDouble negative).isFinite = true ↔ d.toRat < Double.overflow := by
  have zero : (Double.zero negative).isFinite = true :=
    Double.of_word_finite negative (by decide)
  obtain ⟨low, high⟩ := Double.overflow_bounds
  unfold toDouble
  dsimp only
  split
  · next tiny =>
      refine iff_of_true zero ?_
      by_cases none : d.digits = 0
      · simpa [toRat, none] using Double.overflow_pos
      · have small : (width d.digits + d.exponent : Int) ≤ 0 := by
          have least := tiny.resolve_left none
          rw [leastMagnitude] at least
          omega
        calc d.toRat < 10 ^ (width d.digits + d.exponent) := (to_rat_bounds none).2
          _ ≤ 10 ^ (0 : Int) := zpow_le_zpow_right₀ (by norm_num) small
          _ = 2 ^ (0 : Int) := by norm_num
          _ ≤ 2 ^ (1023 : Int) := zpow_le_zpow_right₀ (by norm_num) (by norm_num)
          _ ≤ Double.overflow := low
  · next visible =>
      split
      · next huge =>
          have nonzero : d.digits ≠ 0 := fun none => visible (.inl none)
          have large : (309 : Int) ≤ width d.digits + d.exponent - 1 := by
            rw [greatestMagnitude] at huge
            omega
          refine iff_of_false (by cases negative <;> decide) (not_lt_of_ge ?_)
          have powers : (2 : ℚ) ^ (1024 : Int) ≤ 10 ^ (309 : Int) := by
            have compared : 2 ^ 1024 ≤ 10 ^ 309 := by decide +kernel
            exact_mod_cast compared
          calc Double.overflow ≤ 2 ^ (1024 : Int) := high
            _ ≤ 10 ^ (309 : Int) := powers
            _ ≤ 10 ^ (width d.digits + d.exponent - 1) := zpow_le_zpow_right₀ (by norm_num) large
            _ ≤ d.toRat := (to_rat_bounds nonzero).1
      · have positive : Nat.pow 10 (-d.exponent).toNat ≠ 0 := (Nat.pow_pos (by decide)).ne'
        rw [Double.of_ratio_finite_iff negative _ positive, ← to_rat_ratio]
        rfl

end Decimal

end TemplateScript
