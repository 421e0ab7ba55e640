import BroadcastScenes.Decimal.Numeral
import BroadcastScenes.Proofs.Decimal.PowerEstimates
import BroadcastScenes.Proofs.Decimal.RoundedMantissas

/-!
# Decimals read as doubles

A decimal is read by multiplying its digits with a power of ten or by dividing them by one. Either
is rounded once, whether it is done on doubles that hold both numbers or on the numbers themselves.
So a decimal is read as the double that it is rounded to, however large or small it is.
-/

namespace BroadcastScenes.Decimal

open Float.Model Float.Model.UnpackedFloat

/-! ## Products and quotients -/

def IsRounded (value : UnpackedFloat) (number : ℚ) : Prop :=
  ∃ significand exponent, IsDouble significand exponent ∧
    IsRounding number significand exponent ∧ value = unpacked .positive significand exponent

theorem isRounded_mul {first second : Nat} {firstExponent secondExponent : Int}
    (firstPositive : 0 < first) (secondPositive : 0 < second)
    (enough : 52 ≤ (first * second).log2) :
    IsRounded (mul Format.binary64 (.finite .positive first firstExponent firstPositive)
        (.finite .positive second secondExponent secondPositive))
      (first * 2 ^ firstExponent * (second * 2 ^ secondExponent)) := by
  have steps : ((first : ℚ) * 2 ^ firstExponent * (second * 2 ^ secondExponent)) /
      2 ^ (firstExponent + secondExponent) = (first * second : Nat) := by
    rw [zpow_add₀ two_ne_zero]
    push_cast
    field_simp
  have represents := Represents.exact (first * second)
  rw [← steps] at represents
  exact exists_roundWithAccuracy .positive represents (by omega)

theorem le_log2_quotient {dividend divisor shift : Nat} (dividendPositive : 0 < dividend)
    (divisorPositive : 0 < divisor) (enough : divisor.log2 + 53 ≤ dividend.log2 + shift) :
    52 ≤ ((dividend <<< shift) / divisor).log2 := by
  have lower : 2 ^ dividend.log2 ≤ dividend := Nat.log2_self_le dividendPositive.ne'
  have upper : divisor ≤ 2 ^ (divisor.log2 + 1) := Nat.lt_log2_self.le
  have quotient : 2 ^ 52 ≤ (dividend <<< shift) / divisor := by
    rw [Nat.le_div_iff_mul_le divisorPositive, Nat.shiftLeft_eq]
    calc 2 ^ 52 * divisor
        ≤ 2 ^ 52 * 2 ^ (divisor.log2 + 1) := Nat.mul_le_mul_left _ upper
      _ = 2 ^ (divisor.log2 + 53) := by rw [← pow_add]; congr 1; omega
      _ ≤ 2 ^ (dividend.log2 + shift) := Nat.pow_le_pow_right (by decide) enough
      _ = 2 ^ dividend.log2 * 2 ^ shift := pow_add _ _ _
      _ ≤ dividend * 2 ^ shift := Nat.mul_le_mul_right _ lower
  have positive : (dividend <<< shift) / divisor ≠ 0 := by omega
  exact (Nat.le_log2 positive).mpr quotient

theorem isRounded_div {first second : Nat} {firstExponent secondExponent : Int}
    (firstPositive : 0 < first) (secondPositive : 0 < second) :
    IsRounded (div Format.binary64 (.finite .positive first firstExponent firstPositive)
        (.finite .positive second secondExponent secondPositive))
      (first * 2 ^ firstExponent / (second * 2 ^ secondExponent)) := by
  -- the exponent that the quotient is cut at
  obtain ⟨cut, cutEqual⟩ : ∃ cut : Int, cut = min (firstExponent - secondExponent)
      (max ((first.log2 : Int) + firstExponent - (second.log2 + secondExponent) - 53)
        (-1074)) := ⟨_, rfl⟩
  obtain ⟨shift, shiftEqual⟩ : ∃ shift : Nat,
      (shift : Int) = firstExponent - secondExponent - cut :=
    ⟨(firstExponent - secondExponent - cut).toNat, by omega⟩
  have core : divCore Format.binary64 first firstExponent second secondExponent =
      ((first <<< shift) / second, cut,
        accuracyOfFraction ((first <<< shift) % second) second) := by
    have target : min (firstExponent - secondExponent) (Format.binary64.targetExponent
        (totalExponent first firstExponent - totalExponent second secondExponent)) = cut := by
      rw [cutEqual]
      simp only [Format.targetExponent, totalExponent, Format.mantissaBits, Format.minExponent]
      norm_num
      omega
    rw [divCore, target, ← shiftEqual, Int.toNat_natCast]
  have steps : (first : ℚ) * 2 ^ firstExponent / (second * 2 ^ secondExponent) / 2 ^ cut =
      (first <<< shift : Nat) / second := by
    have power : (2 : ℚ) ^ firstExponent = 2 ^ secondExponent * 2 ^ cut * 2 ^ shift := by
      rw [← zpow_natCast, shiftEqual, ← zpow_add₀ two_ne_zero, ← zpow_add₀ two_ne_zero]
      congr 1
      ring
    have secondNotZero : (second : ℚ) ≠ 0 := by exact_mod_cast secondPositive.ne'
    rw [power, Nat.shiftLeft_eq]
    push_cast
    field_simp
  have represents := Represents.quotient (first <<< shift) secondPositive
  rw [← steps] at represents
  have fine : cut ≤ max ((((first <<< shift) / second).log2 : Int) + cut - 52) (-1074) := by
    by_cases least : cut ≤ -1074
    · exact le_max_of_le_right least
    · have bits := le_log2_quotient firstPositive secondPositive
        (by omega : second.log2 + 53 ≤ first.log2 + shift)
      omega
  rw [UnpackedFloat.div, core]
  exact exists_roundWithAccuracy .positive represents fine

/-! ## Powers of ten -/

theorem length_toDigits_le_log2 (number : Nat) :
    (Nat.toDigits 10 number).length ≤ number.log2 + 1 := by
  rw [Nat.length_toDigits_le_iff (by decide) (by omega)]
  exact Nat.lt_log2_self.trans_le (Nat.pow_le_pow_left (by decide) _)

def scaled (significand : Nat) (positive : 0 < significand) (exponent : Int) : UnpackedFloat :=
  if 0 ≤ exponent then
    mul Format.binary64
      (.finite .positive (significand <<< 53) (-53) (by rw [Nat.shiftLeft_eq]; positivity))
      (.finite .positive (10 ^ exponent.toNat) 0 (Nat.pow_pos (by decide)))
  else
    UnpackedFloat.div Format.binary64 (.finite .positive significand 0 positive)
      (.finite .positive (10 ^ (-exponent).toNat) 0 (Nat.pow_pos (by decide)))

theorem isRounded_scaled {significand : Nat} (positive : 0 < significand) (exponent : Int) :
    IsRounded (scaled significand positive exponent) (significand * 10 ^ exponent) := by
  rw [scaled]
  split
  · rename_i notNegative
    obtain ⟨power, rfl⟩ := Int.eq_ofNat_of_zero_le notNegative
    have number : (significand : ℚ) * (10 : ℚ) ^ (power : Int) =
        (significand <<< 53 : Nat) * 2 ^ (-53 : Int) * ((10 ^ power : Nat) * 2 ^ (0 : Int)) := by
      rw [Nat.shiftLeft_eq, zpow_natCast, zpow_neg, zpow_zero, mul_one]
      push_cast
      field_simp
    rw [number]
    apply isRounded_mul
    have shifted : 0 < significand <<< 53 * 10 ^ power := by
      rw [Nat.shiftLeft_eq]
      positivity
    apply (Nat.le_log2 shifted.ne').mpr
    rw [Nat.shiftLeft_eq]
    calc 2 ^ 52
        ≤ 1 * 2 ^ 53 * 1 := by norm_num
      _ ≤ significand * 2 ^ 53 * 10 ^ power :=
          Nat.mul_le_mul (Nat.mul_le_mul_right _ positive) (Nat.one_le_pow _ _ (by decide))
  · rename_i isNegative
    obtain ⟨power, powerEqual⟩ : ∃ power : Nat, exponent = -(power : Int) :=
      ⟨(-exponent).toNat, by omega⟩
    have number : (significand : ℚ) * 10 ^ exponent =
        significand * 2 ^ (0 : Int) / ((10 ^ (-exponent).toNat : Nat) * 2 ^ (0 : Int)) := by
      rw [powerEqual, neg_neg, Int.toNat_natCast, zpow_neg, zpow_natCast]
      push_cast
      norm_num
      rfl
    rw [number]
    exact isRounded_div positive _

theorem ofScientific_eq_scaled {significand : Nat} (positive : 0 < significand) {exponent : Int}
    (above : -400 ≤ (Nat.toDigits 10 significand).length + exponent)
    (below : (Nat.toDigits 10 significand).length + exponent ≤ 400) :
    UnpackedFloat.ofScientific Format.binary64 significand exponent =
      scaled significand positive exponent := by
  have digits := length_toDigits_le_log2 significand
  rw [UnpackedFloat.ofScientific, dif_neg positive.ne',
    if_neg (by change ¬exponent > 2048; omega),
    if_neg (by change ¬exponent < -(2048 + (significand.log2 : Int)); omega)]
  rfl

/-! ## Doubles that hold the digits and the power -/

theorem roundWithAccuracy_of_isDouble (sign : Sign) {significand : Nat} {exponent : Int}
    (isDouble : IsDouble significand exponent) :
    roundWithAccuracy Format.binary64 sign significand exponent .exact =
      unpacked sign significand exponent := by
  rw [roundWithAccuracy, shiftToTargetExponent_of_lt isDouble.fits isDouble.least]
  change unpacked sign
      (shiftToTargetExponent Format.binary64 significand exponent .exact).1.mantissa
      (shiftToTargetExponent Format.binary64 significand exponent .exact).2 = _
  rw [shiftToTargetExponent_of_lt isDouble.fits isDouble.least]

theorem exists_ofFloat_toFloat {number : Nat} (positive : 0 < number) (fits : number < 2 ^ 53) :
    ∃ (significand : Nat) (exponent : Int), 2 ^ 52 ≤ significand ∧
      (significand : ℚ) * 2 ^ exponent = number ∧
      Binary.ofFloat number.toUInt64.toFloat = .finite false significand exponent := by
  have bits : number.log2 < 53 := (Nat.log2_lt positive.ne').mpr fits
  obtain ⟨shift, shiftEqual⟩ : ∃ shift, number.log2 + shift = 52 :=
    ⟨52 - number.log2, by omega⟩
  have full : 2 ^ 52 ≤ number <<< shift := by
    rw [Nat.shiftLeft_eq, ← shiftEqual, pow_add]
    exact Nat.mul_le_mul_right _ (Nat.log2_self_le positive.ne')
  have small : number <<< shift < 2 ^ 53 := by
    have power : 2 ^ 53 = 2 ^ (number.log2 + 1) * 2 ^ shift := by
      rw [← pow_add]
      congr 1
      omega
    rw [Nat.shiftLeft_eq, power]
    exact Nat.mul_lt_mul_of_pos_right Nat.lt_log2_self (by positivity)
  have isDouble : IsDouble (number <<< shift) (-(shift : Int)) :=
    ⟨small, by omega, .inr full⟩
  refine ⟨number <<< shift, -(shift : Int), full, ?_, ?_⟩
  · rw [Nat.shiftLeft_eq, zpow_neg, zpow_natCast]
    push_cast
    field_simp
  · have sameNumber : number.toUInt64.toNat = number := by
      rw [Nat.toUInt64, UInt64.toNat_ofNat', Nat.mod_eq_of_lt (by omega)]
    have amount : (0 - Format.binary64.targetExponent (totalExponent number 0)).toNat = shift := by
      rw [targetExponent_eq]
      omega
    have rounded : UnpackedFloat.ofUInt64 Format.binary64 number.toUInt64 =
        unpacked .positive (number <<< shift) (-(shift : Int)) := by
      have greater : compare (number : Int) 0 = .gt := by
        rw [Int.compare_eq_gt]
        omega
      rw [UnpackedFloat.ofUInt64, sameNumber, UnpackedFloat.ofNat, UnpackedFloat.ofInt,
        UnpackedFloat.normalize, greater, Int.toNat_natCast]
      change UnpackedFloat.round Format.binary64 .positive number 0 = _
      rw [UnpackedFloat.round, decreaseExponent, amount, zero_sub]
      exact roundWithAccuracy_of_isDouble .positive isDouble
    change Binary.ofFloat (Float.ofModel (Float.Model.pack (UnpackedFloat.ofUInt64 _ _))) = _
    rw [rounded]
    exact Binary.ofFloat_pack_unpacked .positive isDouble (by omega)

theorem zpow_sub_natCast (first second : Nat) :
    (2 : ℚ) ^ ((first : Int) - second) = 2 ^ (first - second) / 2 ^ (second - first) := by
  rcases Nat.le_total first second with less | less
  · obtain ⟨distance, rfl⟩ := Nat.exists_eq_add_of_le less
    rw [Nat.sub_eq_zero_of_le less, Nat.add_sub_cancel_left, pow_zero, one_div, ← zpow_natCast,
      ← zpow_neg]
    congr 1
    push_cast
    ring
  · obtain ⟨distance, rfl⟩ := Nat.exists_eq_add_of_le less
    rw [Nat.sub_eq_zero_of_le less, Nat.add_sub_cancel_left, pow_zero, div_one, ← zpow_natCast]
    congr 1
    push_cast
    ring

/-- The table has doubles of all powers of ten that are doubles. -/
theorem ofFloat_powerOfTen : ∀ power : Fin 23,
    let log := Nat.log2 (10 ^ power.val)
    let significand : Nat := 10 ^ power.val * 2 ^ (52 - log) / 2 ^ (log - 52)
    Binary.ofFloat Float.exactlyRepresentablePowersOfTen[power.val] =
        .finite false significand ((log : Int) - (52 : Nat)) ∧
      2 ^ 52 ≤ significand ∧
      significand * 2 ^ (log - 52) = 10 ^ power.val * 2 ^ (52 - log) := by
  decide +kernel

theorem exists_ofFloat_powerOfTen {power : Nat} (small : power < 23) :
    ∃ (significand : Nat) (exponent : Int), 2 ^ 52 ≤ significand ∧
      (significand : ℚ) * 2 ^ exponent = 10 ^ power ∧
      Binary.ofFloat Float.exactlyRepresentablePowersOfTen[power] =
        .finite false significand exponent := by
  rcases ofFloat_powerOfTen ⟨power, small⟩ with ⟨taken, full, product⟩
  refine ⟨_, (Nat.log2 (10 ^ power) : Int) - (52 : Nat), full, ?_, taken⟩
  rw [zpow_sub_natCast, mul_div_assoc', div_eq_iff (by positivity)]
  exact_mod_cast product

/-! ## Written decimals -/

/-- The double is the one that the number is rounded to; infinite if the number is too large. -/
def IsNearest (double : Float) (number : ℚ) : Prop :=
  ∃ significand exponent, IsDouble significand exponent ∧
    IsRounding number significand exponent ∧
    double = Float.ofModel (Float.Model.pack (unpacked .positive significand exponent))

theorem IsRounded.isNearest {value : UnpackedFloat} {number : ℚ}
    (isRounded : IsRounded value number) :
    IsNearest (Float.ofModel (Float.Model.pack value)) number := by
  rcases isRounded with ⟨significand, exponent, isDouble, isRounding, rfl⟩
  exact ⟨significand, exponent, isDouble, isRounding, rfl⟩

theorem IsNearest.unique {first second : Float} {number : ℚ} (isNearest : IsNearest first number)
    (isOtherNearest : IsNearest second number) : first = second := by
  rcases isNearest with ⟨significand, exponent, _, isRounding, rfl⟩
  rcases isOtherNearest with ⟨other, otherExponent, _, isOtherRounding, rfl⟩
  rcases isRounding.unique isOtherRounding with ⟨rfl, rfl⟩
  rfl

theorem IsNearest.exists_ofFloat {double : Float} {number : ℚ} (isNearest : IsNearest double number)
    (notNegative : 0 ≤ number) :
    ∃ significand exponent, IsDouble significand exponent ∧ IsReadAs number significand exponent ∧
      Binary.ofFloat double =
        if exponent ≤ 971 then .finite false significand exponent else .infinite false := by
  rcases isNearest with ⟨significand, exponent, isDouble, isRounding, rfl⟩
  refine ⟨significand, exponent, isDouble,
    (isReadAs_iff_isRounding notNegative isDouble).mpr isRounding, ?_⟩
  split
  · rename_i bounded
    exact Binary.ofFloat_pack_unpacked .positive isDouble bounded
  · rename_i large
    exact Binary.ofFloat_pack_unpacked_of_large .positive isDouble (not_le.mp large)

section

variable {first second : Float} {significand otherSignificand : Nat} {exponent otherExponent : Int}
  (taken : Binary.ofFloat first = .finite false significand exponent)
  (otherTaken : Binary.ofFloat second = .finite false otherSignificand otherExponent)

include taken otherTaken

theorem isNearest_mul (full : 2 ^ 52 ≤ significand) (otherFull : 2 ^ 52 ≤ otherSignificand) :
    IsNearest (first * second)
      (significand * 2 ^ exponent * (otherSignificand * 2 ^ otherExponent)) := by
  have positive : 0 < significand := by omega
  have otherPositive : 0 < otherSignificand := by omega
  have product : first * second = Float.ofModel (Float.Model.pack
      (mul Format.binary64 first.toModel.unpack second.toModel.unpack)) := rfl
  rw [product, Binary.unpack_eq_of_ofFloat taken, Binary.unpack_eq_of_ofFloat otherTaken, unpacked,
    dif_neg positive.ne', unpacked, dif_neg otherPositive.ne']
  apply IsRounded.isNearest
  apply isRounded_mul
  apply (Nat.le_log2 (Nat.mul_pos positive otherPositive).ne').mpr
  calc 2 ^ 52
      ≤ 2 ^ 52 * 1 := by norm_num
    _ ≤ significand * otherSignificand := Nat.mul_le_mul full (by omega)

theorem isNearest_div (positive : 0 < significand) (otherPositive : 0 < otherSignificand) :
    IsNearest (first / second)
      (significand * 2 ^ exponent / (otherSignificand * 2 ^ otherExponent)) := by
  have quotient : first / second = Float.ofModel (Float.Model.pack
      (UnpackedFloat.div Format.binary64 first.toModel.unpack second.toModel.unpack)) := rfl
  rw [quotient, Binary.unpack_eq_of_ofFloat taken, Binary.unpack_eq_of_ofFloat otherTaken, unpacked,
    dif_neg positive.ne', unpacked, dif_neg otherPositive.ne']
  exact (isRounded_div positive otherPositive).isNearest

end

/-- Small numbers are computed with doubles and all others exactly, which makes no difference. -/
theorem isNearest_ofScientific {significand : Nat} (positive : 0 < significand) {exponent : Int}
    (above : -400 ≤ (Nat.toDigits 10 significand).length + exponent)
    (below : (Nat.toDigits 10 significand).length + exponent ≤ 400) :
    IsNearest (Float.ofScientific significand (exponent < 0) exponent.natAbs)
      (significand * 10 ^ exponent) := by
  rw [Float.ofScientific]
  split
  · rename_i small
    rcases exists_ofFloat_toFloat positive small.1 with ⟨_, _, full, holds, taken⟩
    rcases exists_ofFloat_powerOfTen (by omega : exponent.natAbs < 23) with
      ⟨_, _, tenFull, tenHolds, tenTaken⟩
    by_cases isNegative : exponent < 0
    · have number : (10 : ℚ) ^ exponent = ((10 : ℚ) ^ exponent.natAbs)⁻¹ := by
        rw [← zpow_natCast, ← zpow_neg]
        congr 1
        omega
      rw [number, ← div_eq_mul_inv, ← holds, ← tenHolds]
      simp only [isNegative, decide_true, if_true]
      exact isNearest_div taken tenTaken (by omega) (by omega)
    · have number : (10 : ℚ) ^ exponent = (10 : ℚ) ^ exponent.natAbs := by
        rw [← zpow_natCast]
        congr 1
        omega
      rw [number, ← holds, ← tenHolds]
      simp only [isNegative, decide_false, Bool.false_eq_true, if_false]
      exact isNearest_mul taken tenTaken full tenFull
  · have same : (if decide (exponent < 0) = true then Int.negOfNat exponent.natAbs
        else Int.ofNat exponent.natAbs) = exponent := by
      by_cases isNegative : exponent < 0
      · rw [if_pos (decide_eq_true isNegative), Int.negOfNat_eq,
          Int.ofNat_eq_natCast]
        omega
      · rw [if_neg (by simpa using isNegative), Int.ofNat_eq_natCast]
        omega
    simp only [same]
    change IsNearest (Float.ofModel (Float.Model.pack (UnpackedFloat.ofScientific _ _ _))) _
    rw [ofScientific_eq_scaled positive above below]
    exact (isRounded_scaled positive exponent).isNearest

namespace Numeral

def size (numeral : Numeral) : ℚ := numeral.significand * 10 ^ numeral.exponent

theorem size_nonneg (numeral : Numeral) : 0 ≤ numeral.size := by
  rw [size]
  positivity

theorem size_lt (numeral : Numeral) :
    numeral.size <
      10 ^ (((Nat.toDigits 10 numeral.significand).length : Int) + numeral.exponent) := by
  have digits : numeral.significand < 10 ^ (Nat.toDigits 10 numeral.significand).length :=
    (Nat.length_toDigits_le_iff (by decide) Nat.length_toDigits_pos).mp le_rfl
  rw [size, zpow_add₀ (by norm_num), zpow_natCast]
  have power : (0 : ℚ) < 10 ^ numeral.exponent := by positivity
  exact mul_lt_mul_of_pos_right (by exact_mod_cast digits) power

theorem le_size {numeral : Numeral} (positive : 0 < numeral.significand) :
    10 ^ (((Nat.toDigits 10 numeral.significand).length : Int) + numeral.exponent - 1) ≤
      numeral.size := by
  have digits : 10 ^ ((Nat.toDigits 10 numeral.significand).length - 1) ≤
      numeral.significand := by
    rcases Nat.eq_or_lt_of_le (Nat.length_toDigits_pos (b := 10) (n := numeral.significand)) with
      one | more
    · rw [← one]
      exact positive
    · by_contra less
      have shorter := (Nat.length_toDigits_le_iff (b := 10) (by decide) (by omega)).mpr
        (not_le.mp less)
      omega
  have power : (10 : ℚ) ^ (((Nat.toDigits 10 numeral.significand).length : Int) +
      numeral.exponent - 1) =
      10 ^ ((Nat.toDigits 10 numeral.significand).length - 1) * 10 ^ numeral.exponent := by
    have length := Nat.length_toDigits_pos (b := 10) (n := numeral.significand)
    rw [← zpow_natCast, ← zpow_add₀ (by norm_num)]
    congr 1
    omega
  rw [power, size]
  gcongr
  exact_mod_cast digits

theorem isRounding_zero {number : ℚ} (notNegative : 0 ≤ number)
    (small : number < 2 ^ (-1075 : Int)) : IsRounding number 0 (-1074) := by
  have steps : number / 2 ^ (-1074 : Int) < 1 / 2 := by
    rw [div_lt_iff₀ (by positivity)]
    calc number
        < 2 ^ ((-1074 : Int) - 1) := small
      _ = 1 / 2 * 2 ^ (-1074 : Int) := by
          rw [zpow_sub_one₀ two_ne_zero]
          ring
  have stepsNotNegative : 0 ≤ number / 2 ^ (-1074 : Int) := by positivity
  refine ⟨-1074, 0, ⟨le_rfl, by linarith, .inl rfl⟩, ?_, .inl ⟨by norm_num, rfl, rfl⟩⟩
  apply RoundsTo.of_lt
  rw [Nat.cast_zero, sub_zero, abs_of_nonneg stepsNotNegative]
  exact steps

theorem isNearest_zero {number : ℚ} (notNegative : 0 ≤ number)
    (small : number < 2 ^ (-1075 : Int)) : IsNearest 0 number :=
  ⟨0, -1074, ⟨by norm_num, le_rfl, .inl rfl⟩, isRounding_zero notNegative small,
    by decide +kernel⟩

theorem isNearest_infinite {value : UnpackedFloat} {number : ℚ}
    (isRounded : IsRounded value number)
    (large : 2 ^ 1025 ≤ number) : IsNearest (Float.ofBits 0x7FF0000000000000) number := by
  rcases isRounded with ⟨significand, exponent, isDouble, isRounding, rfl⟩
  refine ⟨significand, exponent, isDouble, isRounding, ?_⟩
  have beyond : 971 < exponent := by
    rcases isRounding with ⟨scale, whole, hasScale, _, which⟩
    have fits := hasScale.fits
    rw [div_lt_iff₀ (by positivity), ← zpow_natCast, ← zpow_add₀ two_ne_zero] at fits
    have powers : (2 : ℚ) ^ (1025 : Int) < 2 ^ (((53 : Nat) : Int) + scale) :=
      lt_of_le_of_lt (by exact_mod_cast large) fits
    rw [zpow_lt_zpow_iff_right₀ one_lt_two] at powers
    omega
  have notZero : significand ≠ 0 := by
    have full := isDouble.full.resolve_left (by omega)
    omega
  have packed : UnpackedFloat.pack Format.binary64 (unpacked .positive significand exponent) =
      packedInfinity Format.binary64 .positive := by
    rw [unpacked, dif_neg notZero, UnpackedFloat.pack,
      if_pos (by change 2048 ≤ (exponent + 1023 + 52).toNat + 1; omega)]
  have model : Float.Model.pack (unpacked .positive significand exponent) =
      Float.Model.pack (.infinity .positive) := by
    simp only [Float.Model.pack, packed]
    rfl
  rw [model]
  decide +kernel

/-- Every decimal is read as the double that it is rounded to. -/
theorem isNearest_magnitude (numeral : Numeral) : IsNearest numeral.magnitude numeral.size := by
  rw [magnitude]
  split
  · rename_i trivially
    apply isNearest_zero numeral.size_nonneg
    rcases trivially with none | tiny
    · rw [size, none, Nat.cast_zero, zero_mul]
      positivity
    · calc numeral.size
          < 10 ^ (((Nat.toDigits 10 numeral.significand).length : Int) + numeral.exponent) :=
            numeral.size_lt
        _ ≤ 10 ^ (-401 : Int) := zpow_le_zpow_right₀ (by norm_num) (by omega)
        _ ≤ 2 ^ (-1075 : Int) := ten_zpow_le_two_zpow (by decide) (by decide)
  · rename_i notTrivial
    have positive : 0 < numeral.significand :=
      Nat.pos_of_ne_zero fun none => notTrivial (.inl none)
    split
    · apply isNearest_infinite (isRounded_scaled positive numeral.exponent)
      calc (2 : ℚ) ^ 1025
          ≤ 10 ^ (400 : Int) := by
            rw [zpow_ofNat]
            exact two_pow_le_ten_pow_of_ratio (by decide)
        _ ≤ 10 ^ (((Nat.toDigits 10 numeral.significand).length : Int) +
            numeral.exponent - 1) := zpow_le_zpow_right₀ (by norm_num) (by omega)
        _ ≤ numeral.size := le_size positive
    · exact isNearest_ofScientific positive (by omega) (by omega)

theorem isReadAs_unique {number : ℚ} (notNegative : 0 ≤ number) {significand other : Nat}
    {exponent otherExponent : Int} (isDouble : IsDouble significand exponent)
    (isOtherDouble : IsDouble other otherExponent) (reads : IsReadAs number significand exponent)
    (otherReads : IsReadAs number other otherExponent) :
    significand = other ∧ exponent = otherExponent :=
  ((isReadAs_iff_isRounding notNegative isDouble).mp reads).unique
    ((isReadAs_iff_isRounding notNegative isOtherDouble).mp otherReads)

/-- A decimal in the interval around a finite double is read as this double. -/
theorem toFloat_eq_of_isReadAs {numeral : Numeral} {number : Float} {significand : Nat}
    {exponent : Int}
    (taken : Binary.ofFloat number = .finite numeral.negative significand exponent)
    (reads : IsReadAs numeral.size significand exponent) : numeral.toFloat = number := by
  rcases Binary.isDouble_of_ofFloat taken with ⟨isDouble, bounded⟩
  rcases numeral.isNearest_magnitude.exists_ofFloat numeral.size_nonneg with
    ⟨found, foundExponent, isFoundDouble, foundReads, magnitudeTaken⟩
  rcases isReadAs_unique numeral.size_nonneg isDouble isFoundDouble reads foundReads with
    ⟨rfl, rfl⟩
  rw [if_pos bounded] at magnitudeTaken
  rw [toFloat]
  cases sign : numeral.negative with
  | false =>
      rw [sign] at taken
      exact Binary.eq_of_ofFloat_eq magnitudeTaken taken
  | true =>
      rw [sign] at taken
      exact Binary.eq_of_ofFloat_eq (Binary.ofFloat_neg magnitudeTaken) taken

end Numeral

end BroadcastScenes.Decimal
