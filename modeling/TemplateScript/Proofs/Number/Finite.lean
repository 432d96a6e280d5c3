import TemplateScript.Number.Constant
import TemplateScript.Proofs.Number.Overflow
import TemplateScript.Proofs.Text.Units

/-!
Number constants are finite.

Integers of 64 bits and characters are far below the least number without a finite double, decimal
literals that overflow are not read, and a sign in front changes one bit of the double only.
-/
namespace TemplateScript

namespace Double

theorem of_ratio_whole_finite (negative : Bool) {n : Nat} (small : n ≤ 2 ^ 63) :
    (ofRatio negative n 1).isFinite = true := by
  rw [of_ratio_finite_iff negative n one_ne_zero, Nat.cast_one, div_one]
  calc (n : ℚ) ≤ 2 ^ 63 := by exact_mod_cast small
    _ = 2 ^ (63 : Int) := by norm_num
    _ < 2 ^ (1023 : Int) := zpow_lt_zpow_right₀ (by norm_num) (by norm_num)
    _ ≤ overflow := overflow_bounds.1

/-- A sign changes the first bit only. -/
theorem neg_finite {d : Double} (finite : d.isFinite = true) : d.neg.isFinite = true := by
  have below : d.neg.bits.toNat % 2 ^ 63 = d.bits.toNat % 2 ^ 63 := by
    have sign : (UInt64.ofNat signBit).toNat = 2 ^ 63 := by decide
    rw [neg, UInt64.toNat_xor, sign, Nat.xor_mod_two_pow, Nat.mod_self, Nat.xor_zero]
  have sizes : fractionSize = 4503599627370496 ∧ exponentSize = 2048 := by decide
  rw [is_finite_iff, sizes.1, sizes.2] at finite ⊢
  omega

end Double

namespace Constant

theorem integer_small {base : Nat} {body : List Char} {n : Int}
    (read : integer? base body = some n) : n.natAbs ≤ 2 ^ 63 := by
  simp only [integer?, Option.bind_eq_bind, Option.bind_eq_some_iff] at read
  obtain ⟨magnitude, _, fits⟩ := read
  split at fits
  · next small =>
      have size : n.natAbs = magnitude := by
        rw [← Option.some.inj fits, Decimal.signed]
        split <;> simp
      have word : Nat.pow 2 63 = 2 ^ 63 := rfl
      omega
  · cases fits

theorem decimal_finite {body : List Char} {value : Double} (read : decimal? body = some value) :
    value.isFinite = true := by
  simp only [decimal?, Option.bind_eq_bind, Option.bind_eq_some_iff] at read
  obtain ⟨d, _, fits⟩ := read
  split at fits
  · next finite => rwa [← Option.some.inj fits]
  · cases fits

theorem unsigned_finite {body : List Char} {value : Double} (read : unsigned? body = some value) :
    value.isFinite = true := by
  have whole {base : Nat} {digits : List Char}
      (read : (integer? base digits).map Double.ofInt = some value) : value.isFinite = true := by
    obtain ⟨n, known, rfl⟩ := Option.map_eq_some_iff.mp read
    exact Double.of_ratio_whole_finite _ (integer_small known)
  unfold unsigned? at read
  split at read
  · exact whole read
  · exact whole read
  · exact whole read
  · exact whole read
  · exact whole read
  · exact whole read
  · split at read
    · exact whole read
    · exact decimal_finite read
  · exact decimal_finite read

theorem character_small {inner : List Char} {code : Nat} (read : character? inner = some code) :
    code ≤ 0x10ffff := by
  unfold character? at read
  split at read
  · obtain ⟨own, _, scalar⟩ := Option.bind_eq_some_iff.mp read
    split at scalar
    · next known =>
        rw [← Option.some.inj scalar]
        simp only [isScalar, Bool.or_eq_true, Bool.and_eq_true, decide_eq_true_eq] at known
        omega
    · cases scalar
  · next c _ =>
      have bounds := Units.char_to_nat_bounds c
      rw [← Option.some.inj read]
      omega
  · cases read

theorem read_finite {literal : String} {value : Double} (read : read? literal = some value) :
    value.isFinite = true := by
  unfold read? at read
  split at read
  · obtain ⟨code, known, rfl⟩ := Option.map_eq_some_iff.mp read
    have small := character_small known
    exact Double.of_ratio_whole_finite false (by omega)
  · unfold withSign? at read
    split at read
    · obtain ⟨positive, known, rfl⟩ := Option.map_eq_some_iff.mp read
      exact Double.neg_finite (unsigned_finite known)
    · exact unsigned_finite read
    · exact unsigned_finite read

end Constant

end TemplateScript
