import Mathlib.Algebra.Group.Nat.Defs
import Mathlib.Data.Nat.Log
import TemplateScript.Number.Scaled

/-!
Words of 64 bits are in the range of numbers.

Rounding moves a ratio up by less than a few powers of two, which is all that is needed: a ratio far
below the largest double is rounded to a finite one, whose significand and exponent are bounded. So
is the product of two doubles of moderate size.
-/
namespace TemplateScript

namespace Double

theorem leading_exponent_bounds (num den : Nat) :
    (num.log2 : Int) - den.log2 - 1 ≤ leadingExponent num den ∧
      leadingExponent num den ≤ (num.log2 : Int) - den.log2 := by
  unfold leadingExponent
  dsimp only
  split <;> omega

theorem nearest_even_le (num den : Nat) : nearestEven num den ≤ num / den + 1 := by
  unfold nearestEven
  dsimp only
  split
  · omega
  · split <;> omega

/-- A ratio scaled to at most two bits more than a significand has stays below this. -/
theorem nearest_even_scaled {num den : Nat} (positive : den ≠ 0) {exponent : Int}
    (scale : leadingExponent num den - 52 ≤ exponent) :
    nearestEven (num * Nat.pow 2 (-exponent).toNat) (den * Nat.pow 2 exponent.toNat) ≤
      4 * fractionSize := by
  have below : num < 2 ^ (num.log2 + 1) := Nat.lt_log2_self
  have above : 2 ^ den.log2 ≤ den := Nat.log2_self_le positive
  have bounds := leading_exponent_bounds num den
  have numerator : num * 2 ^ (-exponent).toNat < 2 ^ (num.log2 + 1 + (-exponent).toNat) := by
    rw [Nat.pow_add]
    exact Nat.mul_lt_mul_of_pos_right below (Nat.two_pow_pos _)
  have denominator : 2 ^ (den.log2 + exponent.toNat) ≤ den * 2 ^ exponent.toNat := by
    rw [Nat.pow_add]
    exact Nat.mul_le_mul_right _ above
  have powers : 2 ^ (num.log2 + 1 + (-exponent).toNat) ≤
      2 ^ 54 * 2 ^ (den.log2 + exponent.toNat) := by
    rw [← Nat.pow_add]
    apply Nat.pow_le_pow_right (by decide)
    omega
  have quotient : num * 2 ^ (-exponent).toNat / (den * 2 ^ exponent.toNat) < 2 ^ 54 := by
    apply Nat.div_lt_of_lt_mul
    calc num * 2 ^ (-exponent).toNat
        < 2 ^ (num.log2 + 1 + (-exponent).toNat) := numerator
      _ ≤ 2 ^ 54 * 2 ^ (den.log2 + exponent.toNat) := powers
      _ ≤ 2 ^ 54 * (den * 2 ^ exponent.toNat) := Nat.mul_le_mul_left _ denominator
      _ = den * 2 ^ exponent.toNat * 2 ^ 54 := Nat.mul_comm _ _
  have rounded := nearest_even_le (num * 2 ^ (-exponent).toNat) (den * 2 ^ exponent.toNat)
  have size : 4 * fractionSize = 2 ^ 54 := by decide
  calc nearestEven (num * 2 ^ (-exponent).toNat) (den * 2 ^ exponent.toNat)
      ≤ num * 2 ^ (-exponent).toNat / (den * 2 ^ exponent.toNat) + 1 := rounded
    _ ≤ 2 ^ 54 := quotient
    _ = 4 * fractionSize := size.symm

/-- A word below that of infinity is read as a finite double. -/
theorem read_of_word {word : Nat} {biased : Nat} (small : word ≤ (biased + 4) * fractionSize)
    (finite : biased + 4 < exponentSize - 1) :
    ∃ significand exponent, (ofWord false word).read = .finite false significand exponent ∧
      significand < 2 * fractionSize ∧ exponent ≤ leastExponent + biased + 3 := by
  have sizes : fractionSize = 4503599627370496 ∧ exponentSize = 2048 ∧
      signBit = 9223372036854775808 ∧ leastExponent = -1074 := by decide
  obtain ⟨fraction, exponents, sign, least⟩ := sizes
  rw [fraction] at small
  rw [exponents] at finite
  have bits : (UInt64.ofNat word).toNat = word := by
    rw [UInt64.toNat_ofNat']
    apply Nat.mod_eq_of_lt
    omega
  have exact : word / 4503599627370496 % 2048 = word / 4503599627370496 := by
    apply Nat.mod_eq_of_lt
    omega
  have positive : decide (9223372036854775808 ≤ word) = false := by
    apply decide_eq_false
    omega
  have finiteExponent : word / 4503599627370496 ≠ 2048 - 1 := by omega
  simp only [read, ofWord, bits, fraction, exponents, sign, least, exact, positive, finiteExponent,
    if_false, Bool.false_eq_true]
  split
  · refine ⟨_, _, rfl, ?_, ?_⟩ <;> omega
  · refine ⟨_, _, rfl, ?_, ?_⟩ <;> omega

/-- A ratio below two to the given power is rounded to a finite double of about that size. -/
theorem read_of_ratio (num den power : Nat) (positive : den ≠ 0) (moderate : power ≤ 900)
    (small : num.log2 ≤ den.log2 + power) :
    ∃ significand exponent, (ofRatio false num den).read = .finite false significand exponent ∧
      significand < 2 * fractionSize ∧ exponent ≤ power := by
  unfold ofRatio
  split
  · exact ⟨0, -1074, by decide, by decide, by omega⟩
  · next nonzero =>
      have bounds := leading_exponent_bounds num den
      have least : leastExponent = -1074 := rfl
      have exponents : exponentSize = 2048 := by decide
      generalize scale : max leastExponent (leadingExponent num den - 52) = exponent
      have lower : leadingExponent num den - 52 ≤ exponent := by omega
      have upper : exponent ≤ (power : Int) - 52 := by omega
      have significand := nearest_even_scaled positive lower
      have word : (exponent - leastExponent).toNat * fractionSize +
          nearestEven (num * Nat.pow 2 (-exponent).toNat) (den * Nat.pow 2 exponent.toNat) ≤
            ((exponent - leastExponent).toNat + 4) * fractionSize := by
        rw [Nat.add_mul]
        omega
      have finite : ¬infiniteWord ≤ (exponent - leastExponent).toNat * fractionSize +
          nearestEven (num * Nat.pow 2 (-exponent).toNat) (den * Nat.pow 2 exponent.toNat) := by
        have sizes : fractionSize = 4503599627370496 ∧
            infiniteWord = 2047 * 4503599627370496 := by decide
        rw [sizes.1] at word
        rw [sizes.1, sizes.2]
        omega
      dsimp only
      rw [if_neg finite]
      obtain ⟨found, scaled, read, bounded, limited⟩ := read_of_word word (by omega)
      exact ⟨found, scaled, read, bounded, by omega⟩

theorem log2_lt_of_lt {n power : Nat} (small : n < 2 ^ power) (positive : 0 < power) :
    n.log2 < power := by
  by_cases zero : n = 0
  · subst zero
    simpa using positive
  · exact (Nat.log2_lt zero).mpr small

/-- The product of two doubles of moderate size is finite. -/
theorem mul_finite {left right : Double} {s s' : Nat} {e e' : Int}
    (first : left.read = .finite false s e) (second : right.read = .finite false s' e')
    (small : s < 2 * fractionSize) (small' : s' < 2 * fractionSize) (moderate : e + e' ≤ 700) :
    (left.mul right).isFinite = true := by
  have size : 2 * fractionSize = 2 ^ 53 := by decide
  rw [size] at small small'
  have significands : s * s' < 2 ^ 53 * 2 ^ 53 := Nat.mul_lt_mul'' small small'
  rw [← Nat.pow_add] at significands
  have product : (s * s' * Nat.pow 2 (e + e').toNat).log2 < 106 + (e + e').toNat := by
    apply log2_lt_of_lt _ (by omega)
    rw [Nat.pow_add]
    exact Nat.mul_lt_mul_of_pos_right significands (Nat.two_pow_pos _)
  have positive : Nat.pow 2 (-(e + e')).toNat ≠ 0 := Nat.pos_iff_ne_zero.mp (Nat.two_pow_pos _)
  obtain ⟨found, scaled, finite, _⟩ := read_of_ratio (s * s' * Nat.pow 2 (e + e').toNat)
    _ (106 + (e + e').toNat) positive (by omega) (by omega)
  simp only [mul, first, second, bne_self_eq_false, isFinite, finite]

end Double

namespace Scaled

/-- A significand of 64 bits without a power of ten is in range. -/
theorem in_range_word {n : Nat} (word : n < 2 ^ 64) : inRange ⟨n, 0⟩ = true := by
  have digits : n.log2 < 64 := Double.log2_lt_of_lt word (by decide)
  obtain ⟨s, e, read, small, scale⟩ := Double.read_of_ratio n 1 63 (by decide) (by decide)
    (by omega)
  have one : (Double.ofNat 1).read = .finite false Double.fractionSize (-52) := by decide
  have finite : ((Double.ofNat n).mul (Double.ofNat 1)).isFinite = true :=
    Double.mul_finite read one small (by decide) (by omega)
  have power : Nat.pow 10 (0 : Int).toNat = 1 := rfl
  simp only [inRange, power, finite]
  simp [greatestPower]

/-- Digits only make a number larger. -/
theorem le_appended (digits : List Char) (total : Nat) :
    total ≤ digits.foldl (fun total c => 10 * total + Decimal.digitValue c) total := by
  induction digits generalizing total with
  | nil => exact Nat.le_refl total
  | cons c rest ih =>
      have step := ih (10 * total + Decimal.digitValue c)
      simp only [List.foldl_cons]
      omega

theorem append_fitting (digits : List Char) (significand : Nat)
    (fits : digits.foldl (fun total c => 10 * total + Decimal.digitValue c) significand <
      significandLimit) :
    append significand digits =
      (digits.foldl (fun total c => 10 * total + Decimal.digitValue c) significand, []) := by
  induction digits generalizing significand with
  | nil => rfl
  | cons c rest ih =>
      have longer := le_appended rest (10 * significand + Decimal.digitValue c)
      simp only [List.foldl_cons] at fits ⊢
      rw [append, if_pos (by omega)]
      exact ih _ fits

theorem of_parts_word {digits : List Char} (word : Decimal.value digits < 2 ^ 64) :
    ofParts ⟨digits, [], 0⟩ = ⟨Decimal.value digits, 0⟩ := by
  have whole := append_fitting digits 0 word
  simp only [ofParts, whole]
  simp [append, Decimal.value]

end Scaled

end TemplateScript
