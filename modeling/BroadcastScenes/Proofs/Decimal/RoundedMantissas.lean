import BroadcastScenes.Proofs.Decimal.PackedDoubles

/-!
# Rounding by mantissas

A number is rounded by its mantissa, cut to a whole number, and two bits that say what has been cut
off. Shifting the mantissa keeps what the bits say, so that the shifted one is rounded to the double
that the number is rounded to.
-/

namespace BroadcastScenes.Decimal

open Float.Model Float.Model.UnpackedFloat

/-- What the mantissa and the two bits behind it say about a number, in units of the mantissa. -/
def Represents (mantissa : ExtendedMantissa) (number : ℚ) : Prop :=
  match mantissa with
  | ⟨whole, false, false⟩ => number = whole
  | ⟨whole, false, true⟩ => whole < number ∧ number < whole + 1 / 2
  | ⟨whole, true, false⟩ => number = whole + 1 / 2
  | ⟨whole, true, true⟩ => whole + 1 / 2 < number ∧ number < whole + 1

namespace Represents

variable {mantissa : ExtendedMantissa} {number : ℚ}

theorem mantissa_le (represents : Represents mantissa number) :
    (mantissa.mantissa : ℚ) ≤ number := by
  rcases mantissa with ⟨whole, _ | _, _ | _⟩ <;>
    simp only [Represents] at represents ⊢ <;>
    linarith

theorem lt_mantissa_add_one (represents : Represents mantissa number) :
    number < mantissa.mantissa + 1 := by
  rcases mantissa with ⟨whole, _ | _, _ | _⟩ <;>
    simp only [Represents] at represents ⊢ <;>
    linarith

theorem roundsTo (represents : Represents mantissa number) :
    RoundsTo number mantissa.roundedMantissa := by
  rcases mantissa with ⟨whole, _ | _, _ | _⟩ <;>
    simp only [Represents, ExtendedMantissa.roundedMantissa, ExtendedMantissa.accuracy,
      Accuracy.roundToNearestEven] at represents ⊢
  · apply RoundsTo.of_lt
    rw [represents, sub_self, abs_zero]
    norm_num
  · apply RoundsTo.of_lt
    rw [abs_lt]
    constructor <;> linarith
  · rcases Nat.mod_two_eq_zero_or_one whole with even | odd
    · have distance : number - (whole + 0 : Nat) = 1 / 2 := by
        rw [represents]
        push_cast
        ring
      rw [even]
      exact ⟨by rw [distance]; norm_num, fun _ => even⟩
    · have distance : number - (whole + 1 : Nat) = -(1 / 2) := by
        rw [represents]
        push_cast
        ring
      rw [odd]
      exact ⟨by rw [distance]; norm_num, fun _ => by omega⟩
  · apply RoundsTo.of_lt
    rw [abs_lt]
    push_cast
    constructor <;> linarith

theorem shiftRightOne (represents : Represents mantissa number) :
    Represents mantissa.shiftRightOne (number / 2) := by
  rcases mantissa with ⟨whole, roundBit, stickyBit⟩
  have parts : (whole : ℚ) = 2 * (whole / 2 : Nat) + (whole % 2 : Nat) := by
    exact_mod_cast (Nat.div_add_mod whole 2).symm
  rw [ExtendedMantissa.shiftRightOne]
  rcases Nat.mod_two_eq_zero_or_one whole with lastBit | lastBit <;> rw [lastBit] at parts ⊢ <;>
    push_cast at parts <;> cases roundBit <;> cases stickyBit <;>
    simp only [Represents] at represents <;> simp [Represents, -Nat.cast_ofNat] <;>
    first
      | linarith
      | constructor <;> linarith

theorem shiftRight (represents : Represents mantissa number) (amount : Nat) :
    Represents (mantissa >>> amount) (number / 2 ^ amount) := by
  change Represents (amount.repeat ExtendedMantissa.shiftRightOne mantissa) _
  induction amount with
  | zero =>
      rw [Nat.repeat, pow_zero, div_one]
      exact represents
  | succ amount induction =>
      rw [Nat.repeat, pow_succ, ← div_div]
      exact induction.shiftRightOne

theorem exact (whole : Nat) :
    Represents (ExtendedMantissa.ofMantissaAndAccuracy whole .exact) whole := rfl

theorem quotient (dividend : Nat) {divisor : Nat} (positive : 0 < divisor) :
    Represents (ExtendedMantissa.ofMantissaAndAccuracy (dividend / divisor)
      (accuracyOfFraction (dividend % divisor) divisor)) ((dividend : ℚ) / divisor) := by
  have divisorPositive : (0 : ℚ) < divisor := by exact_mod_cast positive
  have division : ((dividend / divisor : Nat) : ℚ) * divisor + (dividend % divisor : Nat) =
      dividend := by
    exact_mod_cast Nat.div_add_mod' dividend divisor
  have parts : (dividend : ℚ) / divisor =
      (dividend / divisor : Nat) + ((dividend % divisor : Nat) : ℚ) / divisor := by
    rw [← division, add_div, mul_div_cancel_right₀ _ divisorPositive.ne']
  have small : ((dividend % divisor : Nat) : ℚ) / divisor < 1 := by
    rw [div_lt_one divisorPositive]
    exact_mod_cast Nat.mod_lt _ positive
  rw [accuracyOfFraction]
  split
  · rename_i exactly
    rw [parts, exactly, Nat.cast_zero, zero_div, add_zero]
    exact exact _
  · rename_i inexact
    have above : (0 : ℚ) < ((dividend % divisor : Nat) : ℚ) / divisor :=
      div_pos (by exact_mod_cast Nat.pos_of_ne_zero inexact) divisorPositive
    rw [parts]
    generalize dividend % divisor = remainder at *
    rcases lt_trichotomy (2 * remainder) divisor with less | equal | greater
    · have half : (remainder : ℚ) / divisor < 1 / 2 := by
        rw [div_lt_div_iff₀ divisorPositive two_pos]
        exact_mod_cast (by omega : remainder * 2 < 1 * divisor)
      rw [Nat.compare_eq_lt.mpr less]
      exact ⟨by linarith, by linarith⟩
    · have half : (remainder : ℚ) / divisor = 1 / 2 := by
        rw [div_eq_div_iff divisorPositive.ne' two_ne_zero]
        exact_mod_cast (by omega : remainder * 2 = 1 * divisor)
      rw [Nat.compare_eq_eq.mpr equal, half]
      rfl
    · have half : 1 / 2 < (remainder : ℚ) / divisor := by
        rw [div_lt_div_iff₀ two_pos divisorPositive]
        exact_mod_cast (by omega : 1 * divisor < remainder * 2)
      rw [Nat.compare_eq_gt.mpr greater]
      exact ⟨by linarith, by linarith⟩

end Represents

/-! ## Rounding as it is computed -/

theorem targetExponent_eq (mantissa : Nat) (exponent : Int) :
    Format.binary64.targetExponent (totalExponent mantissa exponent) =
      max (mantissa.log2 + exponent - 52) (-1074) := by
  simp only [Format.targetExponent, totalExponent, Format.mantissaBits, Format.minExponent]
  norm_num
  omega

theorem shiftToTargetExponent_eq (mantissa : Nat) (exponent : Int) (accuracy : Accuracy) :
    shiftToTargetExponent Format.binary64 mantissa exponent accuracy =
      (ExtendedMantissa.ofMantissaAndAccuracy mantissa accuracy >>>
          (max (mantissa.log2 + exponent - 52) (-1074) - exponent).toNat,
        exponent + ((max (mantissa.log2 + exponent - 52) (-1074) - exponent).toNat : Nat)) := by
  rw [shiftToTargetExponent, targetExponent_eq, shiftToExponent]

theorem shiftToTargetExponent_of_lt {significand : Nat} {exponent : Int}
    (fits : significand < 2 ^ 53) (least : -1074 ≤ exponent) :
    shiftToTargetExponent Format.binary64 significand exponent .exact =
      (⟨significand, false, false⟩, exponent) := by
  have bits : significand.log2 < 53 := by
    rcases Nat.eq_zero_or_pos significand with rfl | positive
    · decide
    · exact (Nat.log2_lt positive.ne').mpr fits
  have none : (max ((significand.log2 : Int) + exponent - 52) (-1074) - exponent).toNat = 0 := by
    omega
  rw [shiftToTargetExponent_eq, none, Nat.cast_zero, add_zero]
  rfl

theorem shiftToTargetExponent_power {exponent : Int} (least : -1074 ≤ exponent) :
    shiftToTargetExponent Format.binary64 (2 ^ 53) exponent .exact =
      (⟨2 ^ 52, false, false⟩, exponent + 1) := by
  have one : (max (((2 ^ 53 : Nat).log2 : Int) + exponent - 52) (-1074) - exponent).toNat = 1 := by
    rw [Nat.log2_two_pow]
    omega
  rw [shiftToTargetExponent_eq, one]
  rfl

theorem HasScale.exists_isRounding {number : ℚ} {scale : Int} (hasScale : HasScale number scale)
    {whole : Nat} (rounds : RoundsTo (number / 2 ^ scale) whole) (sign : Sign) :
    ∃ significand exponent, IsDouble significand exponent ∧
      IsRounding number significand exponent ∧
      unpacked sign (shiftToTargetExponent Format.binary64 whole scale .exact).1.mantissa
          (shiftToTargetExponent Format.binary64 whole scale .exact).2 =
        unpacked sign significand exponent := by
  have atMost : whole ≤ 2 ^ 53 := by
    have upper : (whole : ℚ) < 2 ^ 53 + 1 := by
      have := rounds.lower
      have := hasScale.fits
      linarith
    exact Nat.lt_succ_iff.mp (by exact_mod_cast upper)
  rcases Nat.lt_or_eq_of_le atMost with fits | power
  · refine ⟨whole, scale, ⟨fits, hasScale.least, ?_⟩,
      ⟨scale, whole, hasScale, rounds, .inl ⟨fits, rfl, rfl⟩⟩, ?_⟩
    · rcases hasScale.full with least | full
      · exact .inl least
      · right
        have lower : ((2 ^ 52 : Nat) : ℚ) < whole + 1 := by
          have := rounds.upper
          push_cast
          linarith
        exact Nat.lt_succ_iff.mp (by exact_mod_cast lower)
    · rw [shiftToTargetExponent_of_lt fits hasScale.least]
  · subst power
    refine ⟨2 ^ 52, scale + 1, ⟨by norm_num, by have := hasScale.least; omega, .inr le_rfl⟩,
      ⟨scale, 2 ^ 53, hasScale, rounds, .inr ⟨rfl, rfl, rfl⟩⟩, ?_⟩
    rw [shiftToTargetExponent_power hasScale.least]

theorem hasScale_of_represents {mantissa : Nat} {exponent : Int} {accuracy : Accuracy}
    {number : ℚ}
    (represents : Represents (ExtendedMantissa.ofMantissaAndAccuracy mantissa accuracy)
      (number / 2 ^ exponent))
    (fine : exponent ≤ max (mantissa.log2 + exponent - 52) (-1074)) :
    HasScale number (max (mantissa.log2 + exponent - 52) (-1074)) := by
  have whole : (ExtendedMantissa.ofMantissaAndAccuracy mantissa accuracy).mantissa = mantissa := by
    cases accuracy with
    | exact => rfl
    | inexact order => cases order <;> rfl
  have lower := represents.mantissa_le
  have upper := represents.lt_mantissa_add_one
  rw [whole] at lower upper
  obtain ⟨shift, scale⟩ : ∃ shift : Nat, max ((mantissa.log2 : Int) + exponent - 52) (-1074) =
      exponent + shift := ⟨_, (by omega : _ = exponent +
        ((max ((mantissa.log2 : Int) + exponent - 52) (-1074) - exponent).toNat : Nat))⟩
  have steps : number / 2 ^ (exponent + shift) = number / 2 ^ exponent / 2 ^ shift := by
    rw [zpow_add₀ two_ne_zero, zpow_natCast, div_div]
  rw [scale]
  refine ⟨by omega, ?_, ?_⟩
  · rw [steps, div_lt_iff₀ (by positivity), ← pow_add]
    have bits : mantissa + 1 ≤ 2 ^ (53 + shift) :=
      Nat.lt_log2_self.trans_le (Nat.pow_le_pow_right (by decide) (by omega))
    have bitsCast : (mantissa : ℚ) + 1 ≤ 2 ^ (53 + shift) := by exact_mod_cast bits
    linarith
  · by_cases least : exponent + shift = -1074
    · exact .inl least
    · right
      rw [steps, le_div_iff₀ (by positivity), ← pow_add]
      have log : mantissa.log2 = 52 + shift := by omega
      have notZero : mantissa ≠ 0 := by
        rintro rfl
        rw [Nat.log2_zero] at log
        omega
      have bits : 2 ^ (52 + shift) ≤ mantissa := log ▸ Nat.log2_self_le notZero
      have bitsCast : (2 : ℚ) ^ (52 + shift) ≤ mantissa := by exact_mod_cast bits
      linarith

/-- What a number is rounded to that is known by a mantissa and its accuracy. -/
theorem exists_roundWithAccuracy (sign : Sign) {mantissa : Nat} {exponent : Int}
    {accuracy : Accuracy} {number : ℚ}
    (represents : Represents (ExtendedMantissa.ofMantissaAndAccuracy mantissa accuracy)
      (number / 2 ^ exponent))
    (fine : exponent ≤ max (mantissa.log2 + exponent - 52) (-1074)) :
    ∃ significand power, IsDouble significand power ∧ IsRounding number significand power ∧
      roundWithAccuracy Format.binary64 sign mantissa exponent accuracy =
        unpacked sign significand power := by
  have hasScale := hasScale_of_represents represents fine
  have shifted := represents.shiftRight
    (max ((mantissa.log2 : Int) + exponent - 52) (-1074) - exponent).toNat
  rw [div_div, ← zpow_natCast, ← zpow_add₀ two_ne_zero] at shifted
  have scale : exponent +
      ((max ((mantissa.log2 : Int) + exponent - 52) (-1074) - exponent).toNat : Nat) =
      max (mantissa.log2 + exponent - 52) (-1074) := by omega
  rw [scale] at shifted
  rcases hasScale.exists_isRounding shifted.roundsTo sign with
    ⟨significand, power, isDouble, isRounding, equal⟩
  refine ⟨significand, power, isDouble, isRounding, ?_⟩
  rw [← equal, roundWithAccuracy, shiftToTargetExponent_eq, scale]
  rfl

end BroadcastScenes.Decimal
