import Mathlib.Algebra.Order.Field.Power
import Mathlib.Data.Rat.Cast.Order
import Mathlib.Tactic.NormNum
import Mathlib.Tactic.Positivity

/-!
# Powers of two and of ten

Doubles are counted in powers of two and decimals in powers of ten. Which of two such powers is the
larger one follows from estimates of the decimal logarithm of two, unless they are very close.
-/

namespace BroadcastScenes.Decimal

theorem pow_le_pow_of_ratio {base other power otherPower first second : Nat} (notZero : power ≠ 0)
    (positive : 0 < other) (known : base ^ power ≤ other ^ otherPower)
    (ratio : otherPower * first ≤ power * second) : base ^ first ≤ other ^ second := by
  rw [← Nat.pow_le_pow_iff_left notZero]
  calc (base ^ first) ^ power
      = (base ^ power) ^ first := by rw [← pow_mul, ← pow_mul, Nat.mul_comm]
    _ ≤ (other ^ otherPower) ^ first := Nat.pow_le_pow_left known _
    _ = other ^ (otherPower * first) := by rw [← pow_mul]
    _ ≤ other ^ (power * second) := Nat.pow_le_pow_right positive ratio
    _ = (other ^ second) ^ power := by rw [← pow_mul, Nat.mul_comm]

/-- The decimal logarithm of two lies between 59/196 and 28/93. -/
theorem two_pow_le_ten_pow_of_ratio {bits digits : Nat} (enough : 28 * bits ≤ 93 * digits) :
    (2 : ℚ) ^ bits ≤ 10 ^ digits := by
  have known : 2 ^ 93 ≤ 10 ^ 28 := by norm_num
  exact_mod_cast pow_le_pow_of_ratio (by decide) (by decide) known enough

theorem ten_pow_le_two_pow_of_ratio {bits digits : Nat} (enough : 196 * digits ≤ 59 * bits) :
    (10 : ℚ) ^ digits ≤ 2 ^ bits := by
  have known : 10 ^ 59 ≤ 2 ^ 196 := by norm_num
  exact_mod_cast pow_le_pow_of_ratio (by decide) (by decide) known enough

theorem two_zpow_le_ten_zpow {bits place : Int} (large : 28 * bits ≤ 93 * place)
    (small : 59 * bits ≤ 196 * place) : (2 : ℚ) ^ bits ≤ 10 ^ place := by
  rcases Int.le_total 0 bits with notNegative | notPositive
  · obtain ⟨power, rfl⟩ := Int.eq_ofNat_of_zero_le notNegative
    obtain ⟨digits, rfl⟩ := Int.eq_ofNat_of_zero_le (by omega : 0 ≤ place)
    rw [zpow_natCast, zpow_natCast]
    exact two_pow_le_ten_pow_of_ratio (by omega)
  · rcases Int.le_total 0 place with placeNotNegative | placeNotPositive
    · exact (zpow_le_one_of_nonpos₀ one_le_two notPositive).trans
        (one_le_zpow₀ (by norm_num) placeNotNegative)
    · obtain ⟨power, powerEqual⟩ := Int.eq_ofNat_of_zero_le (by omega : 0 ≤ -bits)
      obtain ⟨digits, digitsEqual⟩ := Int.eq_ofNat_of_zero_le (by omega : 0 ≤ -place)
      rw [← inv_le_inv₀ (by positivity) (by positivity), ← zpow_neg, ← zpow_neg, powerEqual,
        digitsEqual, zpow_natCast, zpow_natCast]
      exact ten_pow_le_two_pow_of_ratio (by omega)

theorem ten_zpow_le_two_zpow {bits place : Int} (large : 196 * place ≤ 59 * bits)
    (small : 93 * place ≤ 28 * bits) : (10 : ℚ) ^ place ≤ 2 ^ bits := by
  rcases Int.le_total 0 place with notNegative | notPositive
  · obtain ⟨digits, rfl⟩ := Int.eq_ofNat_of_zero_le notNegative
    obtain ⟨power, rfl⟩ := Int.eq_ofNat_of_zero_le (by omega : 0 ≤ bits)
    rw [zpow_natCast, zpow_natCast]
    exact ten_pow_le_two_pow_of_ratio (by omega)
  · rcases Int.le_total 0 bits with bitsNotNegative | bitsNotPositive
    · exact (zpow_le_one_of_nonpos₀ (by norm_num) notPositive).trans
        (one_le_zpow₀ one_le_two bitsNotNegative)
    · obtain ⟨power, powerEqual⟩ := Int.eq_ofNat_of_zero_le (by omega : 0 ≤ -bits)
      obtain ⟨digits, digitsEqual⟩ := Int.eq_ofNat_of_zero_le (by omega : 0 ≤ -place)
      rw [← inv_le_inv₀ (by positivity) (by positivity), ← zpow_neg, ← zpow_neg, powerEqual,
        digitsEqual, zpow_natCast, zpow_natCast]
      exact two_pow_le_ten_pow_of_ratio (by omega)

end BroadcastScenes.Decimal
