import Mathlib.Algebra.Order.Ring.Int
import TemplateScript.Number.Fixed
import TemplateScript.Proofs.Number.Range

/-!
Whole numbers below 2^53 are doubles.

Such a number has at most 53 bits, so it is shifted into the place of a significand and nothing is
rounded away. It is compared and cut off as the number that it is, and written with its own digits.
-/
namespace TemplateScript.Double

/-- The word of a normal double is read as its parts. -/
theorem read_normal (negative : Bool) {significand biased : Nat}
    (low : fractionSize ≤ significand) (high : significand < 2 * fractionSize)
    (finite : biased + 2 < exponentSize) :
    (ofWord negative (biased * fractionSize + significand)).read =
      .finite negative significand (leastExponent + biased) := by
  have sizes : fractionSize = 4503599627370496 ∧ exponentSize = 2048 ∧
      signBit = 2048 * 4503599627370496 := by decide
  obtain ⟨fraction, exponents, sign⟩ := sizes
  rw [fraction] at low high
  rw [exponents] at finite
  have bits : (ofWord negative (biased * 4503599627370496 + significand)).bits.toNat =
      (if negative then 2048 * 4503599627370496 else 0) +
        ((biased + 1) * 4503599627370496 + (significand - 4503599627370496)) := by
    rw [ofWord, UInt64.toNat_ofNat', sign]
    cases negative <;> simp <;> omega
  have fields : (ofWord negative (biased * 4503599627370496 + significand)).bits.toNat %
        4503599627370496 = significand - 4503599627370496 ∧
      (ofWord negative (biased * 4503599627370496 + significand)).bits.toNat / 4503599627370496 %
        2048 = biased + 1 ∧
      decide (2048 * 4503599627370496 ≤
        (ofWord negative (biased * 4503599627370496 + significand)).bits.toNat) = negative := by
    rw [bits]
    cases negative <;> simp <;> omega
  obtain ⟨mantissa, exponent, signed⟩ := fields
  have notLast : ¬biased + 1 = 2048 - 1 := by omega
  have notFirst : ¬biased + 1 = 0 := by omega
  have whole : 4503599627370496 + (significand - 4503599627370496) = significand := by omega
  have power : leastExponent + ((biased + 1 : Nat) : Int) - 1 = leastExponent + biased := by omega
  simp only [read, fraction, exponents, sign, mantissa, exponent, signed, notLast, notFirst, whole,
    power, if_false]

theorem leading_exponent_one {n : Nat} (positive : n ≠ 0) : leadingExponent n 1 = n.log2 := by
  have least : 2 ^ n.log2 ≤ n := Nat.log2_self_le positive
  have one : Nat.log2 1 = 0 := by decide
  simp [leadingExponent, one, least]

theorem nearest_even_one (n : Nat) : nearestEven n 1 = n := by
  simp [nearestEven, Nat.mod_one]

/-- The significand of a whole number: its bits, moved up to the first place. -/
def moved (n : Nat) : Nat := n * 2 ^ (52 - n.log2)

theorem read_of_ratio_whole (negative : Bool) {n : Nat} (positive : n ≠ 0) (small : n < 2 ^ 53) :
    (ofRatio negative n 1).read = .finite negative (moved n) ((n.log2 : Int) - 52) := by
  have bits : n.log2 < 53 := (Nat.log2_lt positive).mpr small
  have least : 2 ^ n.log2 ≤ n := Nat.log2_self_le positive
  have most : n < 2 ^ (n.log2 + 1) := Nat.lt_log2_self
  have size : fractionSize = 2 ^ n.log2 * 2 ^ (52 - n.log2) := by
    rw [← Nat.pow_add, Nat.add_sub_cancel' (by omega)]
    rfl
  have low : fractionSize ≤ moved n := by
    rw [size]
    exact Nat.mul_le_mul_right _ least
  have high : moved n < 2 * fractionSize := by
    rw [size, ← Nat.mul_assoc, ← Nat.pow_succ']
    exact Nat.mul_lt_mul_of_pos_right most (Nat.two_pow_pos _)
  have exponent : max leastExponent (leadingExponent n 1 - 52) = (n.log2 : Int) - 52 := by
    rw [leading_exponent_one positive, leastExponent]
    omega
  have shift : (-((n.log2 : Int) - 52)).toNat = 52 - n.log2 := by omega
  have whole : ((n.log2 : Int) - 52).toNat = 0 := by omega
  have biased : ((n.log2 : Int) - 52 - leastExponent).toNat = n.log2 + 1022 := by
    rw [leastExponent]
    omega
  have significand : nearestEven (n * Nat.pow 2 (52 - n.log2)) (1 * Nat.pow 2 0) = moved n :=
    nearest_even_one _
  have finite : ¬infiniteWord ≤ (n.log2 + 1022) * fractionSize + moved n := by
    have sizes : fractionSize = 4503599627370496 ∧
        infiniteWord = 2047 * 4503599627370496 := by decide
    rw [sizes.1] at high
    rw [sizes.1, sizes.2]
    omega
  have exponents : exponentSize = 2048 := by decide
  have power : leastExponent + ((n.log2 + 1022 : Nat) : Int) = (n.log2 : Int) - 52 := by
    rw [leastExponent]
    omega
  simp only [ofRatio, positive, if_false, exponent, shift, whole, biased, significand, finite]
  rw [read_normal negative low high (by omega), power]

theorem steps_per_one_eq {power : Nat} (all : power = 1074) : stepsPerOne = 2 ^ power := by
  unfold stepsPerOne
  rw [← all, Nat.pow_eq]

theorem steps_per_one_pos : (0 : Int) < stepsPerOne := by
  obtain ⟨power, same⟩ : ∃ power, stepsPerOne = 2 ^ power := ⟨_, steps_per_one_eq rfl⟩
  rw [same]
  exact Int.natCast_pos.mpr (Nat.two_pow_pos power)

theorem steps_whole (negative : Bool) {n : Nat} (small : n.log2 < 53) :
    steps negative (moved n) ((n.log2 : Int) - 52) =
      (if negative then -(n : Int) else n) * stepsPerOne := by
  have shift : ((n.log2 : Int) - 52 - leastExponent).toNat = n.log2 + 1022 := by
    rw [leastExponent]
    omega
  have total : 52 - n.log2 + (n.log2 + 1022) = 1074 := by omega
  have magnitude : moved n * 2 ^ (n.log2 + 1022) = n * stepsPerOne := by
    rw [moved, Nat.mul_assoc, ← Nat.pow_add, ← steps_per_one_eq total]
  simp only [steps, shift, Nat.pow_eq, ← Int.natCast_mul, magnitude]
  split
  · rw [Int.neg_mul, Int.natCast_mul]
  · rw [Int.natCast_mul]

theorem read_zero : (zero false).read = .finite false 0 leastExponent := by
  decide

theorem steps_zero : steps false 0 leastExponent = 0 := by
  decide

variable {n : Int}

/-- The double of a whole number is finite and this many steps from zero. -/
theorem read_of_int (exact : n.natAbs < exactLimit) :
    ∃ negative significand exponent, (ofInt n).read = .finite negative significand exponent ∧
      steps negative significand exponent = n * stepsPerOne := by
  by_cases zero : n = 0
  · subst zero
    exact ⟨false, 0, leastExponent, read_zero, by rw [steps_zero, Int.zero_mul]⟩
  · have positive : n.natAbs ≠ 0 := Int.natAbs_ne_zero.mpr zero
    have bits : n.natAbs.log2 < 53 := (Nat.log2_lt positive).mpr exact
    refine ⟨_, _, _, read_of_ratio_whole _ positive exact, ?_⟩
    rw [steps_whole _ bits]
    congr 1
    by_cases negative : n < 0
    · simp only [negative, decide_true, if_true]
      omega
    · simp only [negative, decide_false, Bool.false_eq_true, if_false]
      omega

/-- Cutting off the places of a whole number changes nothing. -/
theorem truncate_of_int (exact : n.natAbs < exactLimit) : (ofInt n).truncate? = some n := by
  obtain ⟨negative, significand, exponent, read, value⟩ := read_of_int exact
  simp only [truncate?, read, value]
  rw [Int.mul_tdiv_cancel _ steps_per_one_pos.ne']

theorem truncated_text_of_int (exact : n.natAbs < exactLimit) :
    (ofInt n).truncatedText = NumberStyle.withSign (n < 0) (Nat.toDigits 10 n.natAbs) := by
  simp only [truncatedText, truncate_of_int exact, wholeText, exact, if_true]

theorem zero_le_of_int (exact : n.natAbs < exactLimit) :
    (zero false).le (ofInt n) = decide (0 ≤ n) := by
  obtain ⟨negative, significand, exponent, read, value⟩ := read_of_int exact
  have positive := steps_per_one_pos
  simp only [le, lt, same, read, read_zero, value, steps_zero]
  rw [← Bool.decide_or]
  apply decide_eq_decide.mpr
  rw [← le_iff_lt_or_eq]
  exact mul_nonneg_iff_of_pos_right positive

end TemplateScript.Double
