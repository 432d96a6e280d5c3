import TemplateScript.Number.Style
import TemplateScript.Proofs.Number.Numerals

/-!
Printed numbers tell doubles apart.

The decimal that is printed for a double lies in the interval of numbers that round to it: with
seventeen digits the steps between decimals are smaller than the interval, so that the search ends.
The intervals of two doubles meet at most in an end, and an end belongs to the even one of the two
significands. So the printed text, which denotes the decimal, determines the double.
-/
namespace TemplateScript

namespace Double

/-- The significand and the exponent of a positive finite double. -/
structure Normal (significand : Nat) (exponent : Int) : Prop where
  positive : 0 < significand
  small : significand < 2 ^ 53
  least : -1074 ≤ exponent
  filled : exponent = -1074 ∨ 2 ^ 52 ≤ significand

/-- Half of the distance to the next double below, which is less under a power of two. -/
def halfBelow (significand : Nat) (exponent : Int) : ℚ :=
  if significand = 2 ^ 52 ∧ -1074 < exponent then 2 ^ exponent / 4 else 2 ^ exponent / 2

/-- A number between the middles to both neighbours. The middles belong to even significands. -/
structure Rounds (significand : Nat) (exponent : Int) (value : ℚ) : Prop where
  low : significand * 2 ^ exponent - halfBelow significand exponent < value ∨
    significand % 2 = 0 ∧ significand * 2 ^ exponent - halfBelow significand exponent = value
  high : value < significand * 2 ^ exponent + 2 ^ exponent / 2 ∨
    significand % 2 = 0 ∧ value = significand * 2 ^ exponent + 2 ^ exponent / 2

section Disjoint

variable {s s' : Nat} {e e' : Int} {value : ℚ}

theorem half_below_le (s : Nat) (e : Int) : halfBelow s e ≤ 2 ^ e / 2 := by
  have step : (0 : ℚ) < 2 ^ e := by positivity
  unfold halfBelow
  split
  · linarith
  · exact le_rfl

theorem half_below_pos (s : Nat) (e : Int) : 0 < halfBelow s e := by
  unfold halfBelow
  split <;> positivity

/-- A step of a greater exponent is twice as wide at least. -/
theorem double_step (less : e < e') : 2 * (2 : ℚ) ^ e ≤ 2 ^ e' := by
  rw [← zpow_one_add₀ (by norm_num)]
  exact zpow_le_zpow_right₀ (by norm_num) (by omega)

theorem Normal.less (normal : Normal s e) (normal' : Normal s' e') (less : e < e') :
    (s : ℚ) * 2 ^ e < s' * 2 ^ e' := by
  have full : 2 ^ 52 ≤ s' := normal'.filled.resolve_left (by have := normal.least; omega)
  have fullRat : (2 : ℚ) ^ 52 ≤ s' := by exact_mod_cast full
  have smallRat : (s : ℚ) < 2 ^ 53 := by exact_mod_cast normal.small
  calc (s : ℚ) * 2 ^ e < 2 ^ 53 * 2 ^ e := by gcongr
    _ = 2 ^ 52 * (2 * 2 ^ e) := by ring
    _ ≤ s' * 2 ^ e' := by gcongr; exact double_step less

theorem Normal.ordered (normal : Normal s e) (normal' : Normal s' e')
    (less : (s : ℚ) * 2 ^ e < s' * 2 ^ e') : e < e' ∨ e = e' ∧ s + 1 ≤ s' := by
  rcases lt_trichotomy e e' with before | rfl | behind
  · exact .inl before
  · have step : (0 : ℚ) < 2 ^ e := by positivity
    have significands : (s : ℚ) < s' := lt_of_mul_lt_mul_right less step.le
    exact .inr ⟨rfl, by exact_mod_cast significands⟩
  · exact absurd less (normal'.less normal behind).not_gt

/-- The middle above a double is not above the middle below a greater one. Where the two meet, the
doubles are neighbours, and one of their significands is odd. -/
theorem middles_apart (normal : Normal s e) (normal' : Normal s' e')
    (less : (s : ℚ) * 2 ^ e < s' * 2 ^ e') :
    s * 2 ^ e + 2 ^ e / 2 ≤ s' * 2 ^ e' - halfBelow s' e' ∧
      (s % 2 = 0 → s' % 2 = 0 →
        (s : ℚ) * 2 ^ e + 2 ^ e / 2 ≠ s' * 2 ^ e' - halfBelow s' e') := by
  have step : (0 : ℚ) < 2 ^ e := by positivity
  have below := half_below_le s' e'
  rcases normal.ordered normal' less with before | ⟨rfl, next⟩
  · have wide := double_step before
    have full : 2 ^ 52 ≤ s' := normal'.filled.resolve_left (by have := normal.least; omega)
    have last : s + 1 ≤ 2 ^ 53 := normal.small
    have lastRat : (s : ℚ) + 1 ≤ 2 ^ 53 := by exact_mod_cast last
    rcases Nat.eq_or_lt_of_le full with power | beyond
    · -- under a power of two, the gap is that of the smaller exponent
      have quarter : halfBelow s' e' = 2 ^ e' / 4 :=
        if_pos ⟨power.symm, by have := normal.least; omega⟩
      have exact : (s' : ℚ) = 2 ^ 52 := by exact_mod_cast power.symm
      rw [quarter, exact]
      have reached : (s : ℚ) * 2 ^ e ≤ (2 ^ 53 - 1) * 2 ^ e := by gcongr; linarith
      refine ⟨by linarith, fun even _ meet => ?_⟩
      have odd : s + 2 ≤ 2 ^ 53 := by omega
      have oddRat : (s : ℚ) + 2 ≤ 2 ^ 53 := by exact_mod_cast odd
      have short : (s : ℚ) * 2 ^ e ≤ (2 ^ 53 - 2) * 2 ^ e := by gcongr; linarith
      linarith
    · have beyondRat : (2 : ℚ) ^ 52 + 1 ≤ s' := by exact_mod_cast beyond
      have high : ((2 : ℚ) ^ 52 + 1) * 2 ^ e' ≤ s' * 2 ^ e' := by gcongr
      have reached : (s : ℚ) * 2 ^ e ≤ (2 ^ 53 - 1) * 2 ^ e := by gcongr; linarith
      have apart : (s : ℚ) * 2 ^ e + 2 ^ e / 2 < s' * 2 ^ e' - halfBelow s' e' := by linarith
      exact ⟨apart.le, fun _ _ meet => absurd meet apart.ne⟩
  · have nextRat : (s : ℚ) + 1 ≤ s' := by exact_mod_cast next
    have reached : ((s : ℚ) + 1) * 2 ^ e ≤ s' * 2 ^ e := by gcongr
    refine ⟨by linarith, fun even even' meet => ?_⟩
    have farther : s + 2 ≤ s' := by omega
    have fartherRat : (s : ℚ) + 2 ≤ s' := by exact_mod_cast farther
    have apart : ((s : ℚ) + 2) * 2 ^ e ≤ s' * 2 ^ e := by gcongr
    linarith

theorem Rounds.not_less (normal : Normal s e) (normal' : Normal s' e')
    (rounds : Rounds s e value) (rounds' : Rounds s' e' value) :
    ¬(s : ℚ) * 2 ^ e < s' * 2 ^ e' := by
  intro less
  obtain ⟨apart, meets⟩ := middles_apart normal normal' less
  rcases rounds.high with inside | ⟨even, last⟩
  · rcases rounds'.low with inside' | ⟨_, first⟩ <;> linarith
  · rcases rounds'.low with inside' | ⟨even', first⟩
    · linarith
    · exact meets even even' (by rw [first, last])

theorem Rounds.unique (normal : Normal s e) (normal' : Normal s' e')
    (rounds : Rounds s e value) (rounds' : Rounds s' e' value) : s = s' ∧ e = e' := by
  have same : (s : ℚ) * 2 ^ e = s' * 2 ^ e' :=
    le_antisymm (not_lt.mp (rounds'.not_less normal' normal rounds))
      (not_lt.mp (rounds.not_less normal normal' rounds'))
  rcases lt_trichotomy e e' with before | rfl | behind
  · exact absurd same (normal.less normal' before).ne
  · have step : (2 : ℚ) ^ e ≠ 0 := by positivity
    have significands : (s : ℚ) = s' := mul_right_cancel₀ step same
    exact ⟨by exact_mod_cast significands, rfl⟩
  · exact absurd same (normal'.less normal behind).ne'

end Disjoint

section Words

theorem read_finite {d : Double} {negative : Bool} {significand : Nat} {exponent : Int}
    (read : d.read = .finite negative significand exponent) :
    significand = 0 ∧ exponent = -1074 ∨ Normal significand exponent := by
  have sizes : fractionSize = 2 ^ 52 ∧ exponentSize = 2 ^ 11 ∧ leastExponent = -1074 := by decide
  obtain ⟨fraction, exponents, least⟩ := sizes
  simp only [Double.read, fraction, exponents, least] at read
  have fractionLess := Nat.mod_lt d.bits.toNat (Nat.two_pow_pos 52)
  generalize d.bits.toNat % 2 ^ 52 = own at read fractionLess
  generalize d.bits.toNat / 2 ^ 52 % 2 ^ 11 = biased at read
  split at read
  · split at read <;> cases read
  · split at read
    · simp only [Reading.finite.injEq] at read
      obtain ⟨_, rfl, rfl⟩ := read
      rcases Nat.eq_zero_or_pos own with zero | positive
      · exact .inl ⟨zero, rfl⟩
      · exact .inr ⟨positive, by omega, le_rfl, .inl rfl⟩
    · simp only [Reading.finite.injEq] at read
      obtain ⟨_, rfl, rfl⟩ := read
      exact .inr ⟨by omega, by omega, by omega, .inr (by omega)⟩

/-- The sign, the significand and the exponent make up the word. -/
theorem word_of_read {d : Double} {negative : Bool} {significand : Nat} {exponent : Int}
    (read : d.read = .finite negative significand exponent) :
    d.bits.toNat =
      (if negative then 2 ^ 63 else 0) + (exponent + 1074).toNat * 2 ^ 52 + significand := by
  have sizes : fractionSize = 2 ^ 52 ∧ exponentSize = 2 ^ 11 ∧ signBit = 2 ^ 63 ∧
      leastExponent = -1074 := by decide
  obtain ⟨fraction, exponents, sign, least⟩ := sizes
  simp only [Double.read, fraction, exponents, sign, least] at read
  have word : d.bits.toNat < 2 ^ 64 := d.bits.toNat_lt
  generalize d.bits.toNat = bits at read word ⊢
  have sum : bits = (if 2 ^ 63 ≤ bits then 2 ^ 63 else 0) + bits / 2 ^ 52 % 2 ^ 11 * 2 ^ 52 +
      bits % 2 ^ 52 := by
    split <;> omega
  split at read
  · split at read <;> cases read
  · split at read
    · next zero =>
        simp only [Reading.finite.injEq] at read
        obtain ⟨rfl, rfl, rfl⟩ := read
        rw [zero] at sum
        simp only [decide_eq_true_eq]
        exact sum
    · next nonzero =>
        simp only [Reading.finite.injEq] at read
        obtain ⟨rfl, rfl, rfl⟩ := read
        simp only [decide_eq_true_eq]
        generalize (if 2 ^ 63 ≤ bits then 2 ^ 63 else 0) = top at sum ⊢
        generalize bits / 2 ^ 52 % 2 ^ 11 = biased at sum nonzero ⊢
        have power : (-1074 + (biased : Int) - 1 + 1074).toNat + 1 = biased := by omega
        calc bits = top + ((-1074 + (biased : Int) - 1 + 1074).toNat + 1) * 2 ^ 52 +
              bits % 2 ^ 52 := by rw [power]; exact sum
          _ = _ := by ring

theorem read_injective {left right : Double} {negative : Bool} {significand : Nat}
    {exponent : Int} (first : left.read = .finite negative significand exponent)
    (second : right.read = .finite negative significand exponent) : left = right := by
  have same : left.bits.toNat = right.bits.toNat :=
    (word_of_read first).trans (word_of_read second).symm
  obtain ⟨bits⟩ := left
  obtain ⟨other⟩ := right
  exact congrArg Double.mk (UInt64.toNat_inj.mp same)

end Words

end Double

namespace Shortest

open Double

section Grid

variable (s : Nat) (e : Int)

theorem ten_zpow (k : Int) :
    (10 : ℚ) ^ k * ((10 ^ (-k).toNat : Nat) : ℚ) = ((10 ^ k.toNat : Nat) : ℚ) := by
  push_cast
  rw [← zpow_natCast, ← zpow_natCast, ← zpow_add₀ (by norm_num)]
  congr 1
  omega

/-- The numerators count quarters of a step. -/
theorem quarters (count : Nat) :
    ((count * 2 ^ (e - 2).toNat : Nat) : ℚ) / ((2 ^ (2 - e).toNat : Nat) : ℚ) =
      count * (2 ^ e / 4) := by
  have scale := two_zpow (e - 2)
  have turned : -(e - 2) = 2 - e := by omega
  rw [turned] at scale
  have quarter : (2 : ℚ) ^ e / 4 = 2 ^ (e - 2) := by
    rw [zpow_sub₀ (by norm_num)]
    norm_num
  have positive : (0 : ℚ) < ((2 ^ (2 - e).toNat : Nat) : ℚ) := by positivity
  rw [quarter, div_eq_iff positive.ne', Nat.cast_mul, mul_assoc, scale]

theorem interval_value :
    ((interval s e).value : ℚ) / (interval s e).den = s * 2 ^ e := by
  have counted := quarters e (4 * s)
  push_cast at counted
  simp only [interval, Nat.pow_eq]
  push_cast
  rw [counted]
  ring

theorem interval_high :
    ((interval s e).high : ℚ) / (interval s e).den = s * 2 ^ e + 2 ^ e / 2 := by
  have counted := quarters e (4 * s + 2)
  push_cast at counted
  simp only [interval, Nat.pow_eq]
  push_cast
  rw [counted]
  ring

theorem interval_low (positive : 0 < s) :
    ((interval s e).low : ℚ) / (interval s e).den = s * 2 ^ e - halfBelow s e := by
  have sizes : fractionSize = 2 ^ 52 ∧ leastExponent = -1074 := by decide
  have low : ((interval s e).low : ℚ) / (interval s e).den =
      ((4 * s - (if s = 2 ^ 52 ∧ -1074 < e then 1 else 2) : Nat) : ℚ) * (2 ^ e / 4) := by
    rw [← quarters]
    simp only [interval, Nat.pow_eq, sizes]
  rw [low, halfBelow]
  split
  · rw [Nat.cast_sub (by omega)]
    push_cast
    ring
  · rw [Nat.cast_sub (by omega)]
    push_cast
    ring

end Grid

section Search

variable {s : Nat} {e : Int}

/-- A numerator over the denominator is compared with a decimal in whole numbers. -/
theorem scaled_order (num count : Nat) {den : Nat} (positive : 0 < den) (k : Int) :
    (num * 10 ^ (-k).toNat < count * (den * 10 ^ k.toNat) ↔ (num : ℚ) / den < count * 10 ^ k) ∧
      (count * (den * 10 ^ k.toNat) < num * 10 ^ (-k).toNat ↔ count * 10 ^ k < (num : ℚ) / den) ∧
      (num * 10 ^ (-k).toNat = count * (den * 10 ^ k.toNat) ↔
        (num : ℚ) / den = count * 10 ^ k) := by
  have denominator : (0 : ℚ) < den := by exact_mod_cast positive
  have common : (0 : ℚ) < den * ((10 ^ (-k).toNat : Nat) : ℚ) := by positivity
  have left : ((num * 10 ^ (-k).toNat : Nat) : ℚ) =
      num / den * (den * ((10 ^ (-k).toNat : Nat) : ℚ)) := by
    rw [Nat.cast_mul]
    field_simp
  have right : ((count * (den * 10 ^ k.toNat) : Nat) : ℚ) =
      count * 10 ^ k * (den * ((10 ^ (-k).toNat : Nat) : ℚ)) := by
    rw [Nat.cast_mul, Nat.cast_mul, ← ten_zpow]
    ring
  refine ⟨?_, ?_, ?_⟩
  · rw [← Nat.cast_lt (α := ℚ), left, right]
    exact mul_lt_mul_iff_left₀ common
  · rw [← Nat.cast_lt (α := ℚ), left, right]
    exact mul_lt_mul_iff_left₀ common
  · rw [← Nat.cast_inj (R := ℚ), left, right]
    exact mul_left_inj' common.ne'

/-- The decimal below is taken if it fits, and so is the one above. -/
theorem choice_good {below above nearer : Prop} [Decidable below] [Decidable above]
    [Decidable nearer] {floor : Nat} {k : Int} {Good : Decimal → Prop}
    (floorGood : below → Good ⟨floor, k⟩) (ceilGood : above → Good ⟨floor + 1, k⟩)
    {found : Option Decimal}
    (chosen : found =
      if below ∧ above then some ⟨if nearer then floor + 1 else floor, k⟩
      else if below then some ⟨floor, k⟩
      else if above then some ⟨floor + 1, k⟩
      else none) :
    (∃ d, found = some d ∧ Good d) ∨ found = none ∧ ¬below ∧ ¬above := by
  subst chosen
  by_cases low : below
  · by_cases high : above
    · refine .inl ⟨_, if_pos ⟨low, high⟩, ?_⟩
      split
      · exact ceilGood high
      · exact floorGood low
    · exact .inl ⟨_, by rw [if_neg fun both => high both.2, if_pos low], floorGood low⟩
  · by_cases high : above
    · exact .inl ⟨_, by rw [if_neg fun both => low both.1, if_neg low, if_pos high], ceilGood high⟩
    · exact .inr ⟨by rw [if_neg fun both => low both.1, if_neg low, if_neg high], low, high⟩

/-- Of the two decimals around a double, one rounds to it, or the interval has no room for more than
one step of the grid. -/
theorem on_grid_cases (tie : Tie) (positive : 0 < s) (k : Int) :
    (∃ d, onGrid? tie (interval s e) k = some d ∧ Rounds s e d.toRat) ∨
      onGrid? tie (interval s e) k = none ∧ halfBelow s e + 2 ^ e / 2 ≤ 10 ^ k := by
  have value := interval_value s e
  have low := interval_low s e positive
  have high := interval_high s e
  have den : 0 < (interval s e).den := Nat.two_pow_pos _
  have closed : (interval s e).closed = true ↔ s % 2 = 0 := decide_eq_true_iff
  have halfLow := half_below_pos s e
  have halfHigh : (0 : ℚ) < 2 ^ e / 2 := by positivity
  unfold onGrid?
  simp only [Nat.pow_eq]
  generalize interval s e = i at value low high den closed ⊢
  have step : 0 < i.den * 10 ^ k.toNat := Nat.mul_pos den (by positivity)
  have floorLe : i.value * 10 ^ (-k).toNat / (i.den * 10 ^ k.toNat) * (i.den * 10 ^ k.toNat) ≤
    i.value * 10 ^ (-k).toNat := Nat.div_mul_le_self _ _
  have ltCeil : i.value * 10 ^ (-k).toNat <
    (i.value * 10 ^ (-k).toNat / (i.den * 10 ^ k.toNat) + 1) * (i.den * 10 ^ k.toNat) :=
      Nat.lt_mul_of_div_lt (Nat.lt_succ_self _) step
  generalize i.value * 10 ^ (-k).toNat / (i.den * 10 ^ k.toNat) = floor at floorLe ltCeil ⊢
  rw [← Nat.not_lt, (scaled_order i.value floor den k).1, value, not_lt] at floorLe
  rw [(scaled_order i.value (floor + 1) den k).1, value] at ltCeil
  have floorFits := scaled_order i.low floor den k
  have ceilFits := scaled_order i.high (floor + 1) den k
  simp only [closed, floorFits, ceilFits, low, high, eq_comm (a := (floor + 1) * _)]
  have floorRounds (fits : s * 2 ^ e - halfBelow s e < floor * 10 ^ k ∨
      s % 2 = 0 ∧ s * 2 ^ e - halfBelow s e = floor * 10 ^ k) :
      Rounds s e (Decimal.toRat ⟨floor, k⟩) :=
    ⟨fits, .inl (lt_of_le_of_lt floorLe (by linarith))⟩
  have ceilRounds (fits : ((floor + 1 : Nat) : ℚ) * 10 ^ k < s * 2 ^ e + 2 ^ e / 2 ∨
      s % 2 = 0 ∧ s * 2 ^ e + 2 ^ e / 2 = ((floor + 1 : Nat) : ℚ) * 10 ^ k) :
      Rounds s e (Decimal.toRat ⟨floor + 1, k⟩) :=
    ⟨.inl (lt_trans (by linarith) ltCeil), fits.imp_right (And.imp_right Eq.symm)⟩
  refine (choice_good floorRounds ceilRounds rfl).imp_right (And.imp_right fun neither => ?_)
  have noFloor := not_lt.mp fun less => neither.1 (.inl less)
  have noCeil := not_lt.mp fun less => neither.2 (.inl less)
  push_cast at noCeil
  linarith

theorem pow_magnitude_le {num den : Nat} (numerator : 0 < num) (denominator : 0 < den) :
    (10 : ℚ) ^ magnitude num den ≤ num / den := by
  have positive : (0 : ℚ) < den := by exact_mod_cast denominator
  rw [le_div_iff₀ positive]
  unfold magnitude
  split
  · next large =>
      have whole : num / den ≠ 0 := (Nat.div_pos large denominator).ne'
      have some := (Decimal.width_of_ne_zero whole).2
      have power : (10 : ℚ) ^ ((Decimal.width (num / den) : Int) - 1) =
          ((10 ^ (Decimal.width (num / den) - 1) : Nat) : ℚ) := by
        push_cast
        rw [← zpow_natCast]
        congr 1
        omega
      rw [power]
      exact_mod_cast (Nat.mul_le_mul_right den (Decimal.pow_width_le whole)).trans
        (Nat.div_mul_le_self num den)
  · have less : den ≤ 10 ^ Decimal.width ((den - 1) / num) * num := by
      have above := Nat.lt_mul_of_div_lt (Decimal.lt_pow_width ((den - 1) / num)) numerator
      omega
    have lessRat : (den : ℚ) ≤ 10 ^ Decimal.width ((den - 1) / num) * num := by
      exact_mod_cast less
    rw [zpow_neg, zpow_natCast, inv_mul_le_iff₀ (by positivity)]
    exact lessRat

/-- Seventeen digits are finer than the interval of a double. -/
theorem seventeen_fit (normal : Normal s e) :
    (10 : ℚ) ^ (magnitude (interval s e).value (interval s e).den - 16) <
      halfBelow s e + 2 ^ e / 2 := by
  have step : (0 : ℚ) < 2 ^ e := by positivity
  have den : 0 < (interval s e).den := Nat.two_pow_pos _
  have value : 0 < (interval s e).value :=
    Nat.mul_pos (Nat.mul_pos (by decide) normal.positive) (Nat.two_pow_pos _)
  have low := pow_magnitude_le value den
  rw [interval_value] at low
  have grid : (10 : ℚ) ^ (magnitude (interval s e).value (interval s e).den - 16) ≤
      s * 2 ^ e / 10 ^ 16 := by
    rw [zpow_sub₀ (by norm_num)]
    exact div_le_div_of_nonneg_right low (by norm_num)
  unfold halfBelow
  split
  · next power =>
      have exact : (s : ℚ) = 2 ^ 52 := by exact_mod_cast power.1
      rw [exact] at grid
      linarith
  · have small : (s : ℚ) * 2 ^ e ≤ 2 ^ 53 * 2 ^ e := by
      gcongr
      exact_mod_cast normal.small.le
    linarith

theorem trim_zeros_to_rat (fuel : Nat) (d : Decimal) : (trimZeros fuel d).toRat = d.toRat := by
  induction fuel generalizing d with
  | zero => rfl
  | succ fuel ih =>
      unfold trimZeros
      split
      · next zero =>
          have whole : d.digits / 10 * 10 = d.digits :=
            Nat.div_mul_cancel (Nat.dvd_of_mod_eq_zero zero.2)
          rw [ih]
          simp only [Decimal.toRat]
          rw [zpow_add₀ (by norm_num), zpow_one]
          nth_rewrite 2 [← whole]
          push_cast
          ring
      · rfl

theorem decimal_rounds (tie : Tie) (normal : Normal s e) :
    Rounds s e (decimal tie s e).toRat := by
  unfold decimal
  dsimp only
  rw [trim_zeros_to_rat]
  have top := seventeen_fit normal
  generalize magnitude (interval s e).value (interval s e).den = first at top ⊢
  cases search : (List.range mostDigits).findSome? fun (count : Nat) =>
      onGrid? tie (interval s e) (first - count) with
  | some found =>
      obtain ⟨count, _, here⟩ := List.exists_of_findSome?_eq_some search
      rcases on_grid_cases tie normal.positive (first - count) with ⟨d, fits, rounds⟩ | ⟨missing, _⟩
      · rw [fits] at here
        rwa [← Option.some.inj here]
      · rw [missing] at here
        cases here
  | none =>
      have last : onGrid? tie (interval s e) (first - 16) = none :=
        List.findSome?_eq_none_iff.mp search 16 (by decide)
      rcases on_grid_cases (e := e) tie normal.positive (first - 16) with ⟨d, fits, _⟩ | ⟨_, narrow⟩
      · rw [fits] at last
        cases last
      · exact absurd top (not_lt.mpr narrow)

end Search

end Shortest

namespace Numeral

theorem pointed_denotes {whole fraction : List Char} {d : Decimal}
    (digits : ∀ c ∈ whole ++ fraction, c.isDigit = true) (filled : whole ++ fraction ≠ [])
    (same : number 10 (whole ++ fraction) = d.digits) (places : d.exponent = -fraction.length) :
    DecimalText (whole ++ '.' :: fraction) d.toRat := by
  have text := DecimalText.pointed ((digit_text_ten_iff _).mpr ⟨filled, digits⟩) .absent
  rwa [same, List.append_nil, zero_sub, ← places] at text

theorem zeros_digits (count : Nat) : ∀ c ∈ NumberStyle.zeros count, c.isDigit = true := by
  intro c member
  rw [List.eq_of_mem_replicate member]
  rfl

theorem whole_denotes {written : List Char} {d : Decimal} {count : Nat}
    (digits : ∀ c ∈ written, c.isDigit = true) (filled : written ≠ [])
    (same : number 10 written = d.digits) (places : d.exponent = count) :
    DecimalText (written ++ NumberStyle.zeros count) d.toRat := by
  have all : DigitText 10 (written ++ NumberStyle.zeros count) :=
    (digit_text_ten_iff _).mpr ⟨by simp [filled], List.forall_mem_append.mpr
      ⟨digits, zeros_digits count⟩⟩
  have none : number 10 (NumberStyle.zeros count) = 0 := by
    have nothing := number_zeros count []
    rwa [List.append_nil] at nothing
  have value : ((number 10 (written ++ NumberStyle.zeros count) : Nat) : ℚ) * 10 ^ (0 : Int) =
      d.toRat := by
    rw [number_append, same, none, NumberStyle.zeros, List.length_replicate, Decimal.toRat, places,
      zpow_natCast]
    push_cast
    ring
  have text := DecimalText.whole all .absent
  rwa [value, List.append_nil] at text

theorem positional_denotes (d : Decimal) :
    DecimalText (NumberStyle.positionalText (Nat.toDigits 10 d.digits)
      ((Nat.toDigits 10 d.digits).length + d.exponent)) d.toRat := by
  have digits := to_digits_digits d.digits
  have same := number_to_digits d.digits
  have filled : Nat.toDigits 10 d.digits ≠ [] := by simp
  generalize Nat.toDigits 10 d.digits = written at digits same filled ⊢
  unfold NumberStyle.positionalText
  split
  · -- zeros between the point and the digits
    have all : ∀ c ∈ ['0'] ++ (NumberStyle.zeros (-(written.length + d.exponent)).toNat ++ written),
        c.isDigit = true := by
      simp only [List.forall_mem_append]
      exact ⟨List.forall_mem_singleton.mpr (by decide), zeros_digits _, digits⟩
    have value : number 10 (['0'] ++ (NumberStyle.zeros (-(written.length + d.exponent)).toNat ++
        written)) = d.digits :=
      ((number_zeros 1 _).trans (number_zeros _ written)).trans same
    refine pointed_denotes all (by simp) value ?_
    simp only [NumberStyle.zeros, List.length_append, List.length_replicate]
    omega
  · split
    · -- zeros behind the digits
      next whole =>
        exact whole_denotes digits filled same (by omega)
    · -- the point between the digits
      next inside =>
        have parts := List.take_append_drop (written.length + d.exponent).toNat written
        rw [List.append_assoc, List.singleton_append]
        refine pointed_denotes (by rwa [parts]) (by rwa [parts]) (by rwa [parts]) ?_
        rw [List.length_drop]
        omega

end Numeral

namespace Double

open Numeral

theorem Rounds.pos {significand : Nat} {exponent : Int} {value : ℚ}
    (normal : Normal significand exponent) (rounds : Rounds significand exponent value) :
    0 < value := by
  have step : (0 : ℚ) < 2 ^ exponent := by positivity
  have below := half_below_le significand exponent
  have first : (1 : ℚ) ≤ significand := by exact_mod_cast normal.positive
  have least : 1 * (2 : ℚ) ^ exponent ≤ significand * 2 ^ exponent := by gcongr
  rcases rounds.low with inside | ⟨_, reached⟩ <;> linarith

theorem text_positional {d : Double} {negative : Bool} {significand : Nat} {exponent : Int}
    (read : d.read = .finite negative significand exponent) (nonzero : significand ≠ 0) :
    (d.text .plain).toList = (if negative then ['-'] else []) ++
      NumberStyle.positionalText
        (Nat.toDigits 10 (Shortest.decimal .up significand exponent).digits)
        ((Nat.toDigits 10 (Shortest.decimal .up significand exponent).digits).length +
          (Shortest.decimal .up significand exponent).exponent) := by
  cases negative <;>
    simp [Double.text, read, nonzero, NumberStyle.withSign, NumberStyle.decimalText,
      NumberStyle.plain]

/-- What is printed of a finite double: its sign, and a literal of a number that rounds to it. -/
theorem text_denotes {d : Double} {negative : Bool} {significand : Nat} {exponent : Int}
    (read : d.read = .finite negative significand exponent) :
    ∃ literal value, (d.text .plain).toList = (if negative then ['-'] else []) ++ literal ∧
      DecimalText literal value ∧
      ((significand = 0 ∧ exponent = -1074) ∧ value = 0 ∨
        Normal significand exponent ∧ Rounds significand exponent value) := by
  rcases read_finite read with ⟨rfl, rfl⟩ | normal
  · have zero : DecimalText ['0'] 0 := by
      have text := DecimalText.whole (by decide : DigitText 10 ['0']) .absent
      have value : ((number 10 ['0'] : Nat) : ℚ) * 10 ^ (0 : Int) = 0 := by
        have none : number 10 ['0'] = 0 := by decide
        rw [none, Nat.cast_zero, zero_mul]
      rwa [value] at text
    refine ⟨['0'], 0, ?_, zero, .inl ⟨⟨rfl, rfl⟩, rfl⟩⟩
    cases negative <;> simp [Double.text, read, NumberStyle.plain]
  · exact ⟨_, _, text_positional read normal.positive.ne',
      positional_denotes (Shortest.decimal .up significand exponent),
      .inr ⟨normal, Shortest.decimal_rounds .up normal⟩⟩

theorem read_of_is_finite {d : Double} (finite : d.isFinite = true) :
    ∃ negative significand exponent, d.read = .finite negative significand exponent := by
  unfold isFinite at finite
  split at finite
  · next negative significand exponent read => exact ⟨negative, significand, exponent, read⟩
  · cases finite

/-- Finite doubles that are printed alike are the same. -/
theorem text_injective {left right : Double} (leftFinite : left.isFinite = true)
    (rightFinite : right.isFinite = true) (same : left.text .plain = right.text .plain) :
    left = right := by
  obtain ⟨negative, s, e, read⟩ := read_of_is_finite leftFinite
  obtain ⟨negative', s', e', read'⟩ := read_of_is_finite rightFinite
  obtain ⟨literal, value, written, denoted, rounds⟩ := text_denotes read
  obtain ⟨literal', value', written', denoted', rounds'⟩ := text_denotes read'
  -- the sign and the literal can be told apart, as no literal begins with a sign
  have known (negative : Bool) : (if negative then ['-'] else []) ∈ signs := by
    cases negative <;> decide
  have taken := read_sign_append (known negative) fun _ => denoted.unsigned
  have taken' := read_sign_append (known negative') fun _ => denoted'.unsigned
  rw [← written, same, written', taken'] at taken
  obtain ⟨signs, rfl⟩ := Prod.mk.inj taken
  have sign : negative = negative' := by
    cases negative <;> cases negative' <;> simp_all
  have number := denoted.unique denoted'
  subst number sign
  have parts : s = s' ∧ e = e' := by
    rcases rounds with ⟨⟨rfl, rfl⟩, zero⟩ | ⟨normal, own⟩
    · rcases rounds' with ⟨⟨rfl, rfl⟩, _⟩ | ⟨normal', own'⟩
      · exact ⟨rfl, rfl⟩
      · exact absurd zero (own'.pos normal').ne'
    · rcases rounds' with ⟨_, zero⟩ | ⟨normal', own'⟩
      · exact absurd zero (own.pos normal).ne'
      · exact own.unique normal normal' own'
  obtain ⟨rfl, rfl⟩ := parts
  exact read_injective read read'

end Double

end TemplateScript
