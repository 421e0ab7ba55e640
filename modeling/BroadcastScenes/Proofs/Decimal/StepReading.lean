import BroadcastScenes.Decimal.Steps
import BroadcastScenes.Proofs.Decimal.ReadDecimals
import BroadcastScenes.Proofs.Decimal.ShortestDecimals

/-!
# Decimals read in two steps

The digits of a decimal become a double, then the power of ten does, and then both are multiplied or
divided. Each of the three steps is rounded. If the first two are exact, the nearest double comes
out. Otherwise the product is too large by a few parts in `2 ^ 53` at most, so that it is finite
unless the decimal is among the last doubles.
-/

namespace BroadcastScenes.Decimal

open Float.Model Float.Model.UnpackedFloat

/-! ## The first digits -/

theorem le_ofDigitChars (number : Nat) (digits : List Char) :
    number ≤ Nat.ofDigitChars 10 digits number := by
  induction digits generalizing number with
  | nil => rw [Nat.ofDigitChars_nil]
  | cons first rest induction =>
      rw [Nat.ofDigitChars_cons]
      exact (by omega : number ≤ 10 * number + _).trans (induction _)

theorem takeWord_eq {number : Nat} {digits : List Char}
    (fits : Nat.ofDigitChars 10 digits number < wordSize) :
    takeWord number digits = (Nat.ofDigitChars 10 digits number, []) := by
  induction digits generalizing number with
  | nil => rfl
  | cons first rest induction =>
      rw [Nat.ofDigitChars_cons] at fits ⊢
      rw [takeWord, if_pos ((le_ofDigitChars _ rest).trans_lt fits), induction fits]

theorem Numeral.ofFirstDigits_eq {negative : Bool} {whole fraction : List Char} {exponent : Int}
    (fits : (ofDigits negative whole fraction exponent).significand < wordSize) :
    ofFirstDigits negative whole fraction exponent =
      ofDigits negative whole fraction exponent := by
  rw [ofDigits, Nat.ofDigitChars_append] at *
  rw [ofFirstDigits, takeWord_eq ((le_ofDigitChars _ fraction).trans_lt fits)]
  dsimp only
  rw [takeWord_eq fits]
  simp

/-! ## How far a double is off -/

section

variable {number : ℚ} {significand : Nat} {exponent : Int}

theorem le_of_isReadAs {bound : Nat} {places : Int} (reads : IsReadAs number significand exponent)
    (high : 4 * significand + 2 ≤ bound) (low : exponent - 2 ≤ places) :
    number ≤ bound * 2 ^ places :=
  calc number
      ≤ (4 * significand + 2 : Nat) * 2 ^ (exponent - 2) := reads.le_high
    _ ≤ bound * 2 ^ (exponent - 2) := by gcongr
    _ ≤ bound * 2 ^ places := by gcongr; exact one_le_two

theorem two_pow_le_of_isReadAs (isDouble : IsDouble significand exponent)
    (reads : IsReadAs number significand exponent) (large : 1 ≤ number) :
    2 ^ 52 ≤ significand := by
  refine isDouble.full.resolve_left ?_
  rintro rfl
  have few : 4 * significand + 2 ≤ 2 ^ 55 := by
    have := isDouble.fits
    omega
  have small := le_of_isReadAs reads few le_rfl
  rw [Nat.cast_pow, Nat.cast_ofNat, ← zpow_natCast, ← zpow_add₀ two_ne_zero] at small
  have less : (2 : ℚ) ^ (((55 : Nat) : Int) + (-1074 - 2)) < 1 :=
    zpow_lt_one_of_neg₀ one_lt_two (by norm_num)
  linarith

/-- A double with all its bits is too large by one part in `2 ^ 53 - 1` at most. -/
theorem doubleValue_le_of_isReadAs (full : 2 ^ 52 ≤ significand)
    (reads : IsReadAs number significand exponent) :
    doubleValue significand exponent * (2 ^ 53 - 1) ≤ number * 2 ^ 53 := by
  have low : 4 * significand ≤ (Interval.around significand exponent).low + 2 := by
    change _ ≤ 4 * significand - (if _ then 1 else 2) + 2
    split <;> omega
  have quarters : (4 * significand : ℚ) - 2 ≤ (Interval.around significand exponent).low := by
    rw [sub_le_iff_le_add]
    exact_mod_cast low
  have bits : (2 ^ 52 : ℚ) ≤ significand := by exact_mod_cast full
  have unit : (0 : ℚ) < 2 ^ (exponent - 2) := by positivity
  calc doubleValue significand exponent * (2 ^ 53 - 1)
      = (4 * (significand : ℚ) * (2 ^ 53 - 1)) * 2 ^ (exponent - 2) := by
        rw [doubleValue_eq_quarters]
        push_cast
        ring
    _ ≤ ((4 * (significand : ℚ) - 2) * 2 ^ 53) * 2 ^ (exponent - 2) :=
        mul_le_mul_of_nonneg_right (by linarith) unit.le
    _ ≤ ((Interval.around significand exponent).low * 2 ^ 53 : ℚ) * 2 ^ (exponent - 2) := by gcongr
    _ ≤ number * 2 ^ 53 := by
        have lower := reads.low_le
        linarith

theorem doubleValue_nonneg (significand : Nat) (exponent : Int) :
    0 ≤ doubleValue significand exponent := by
  rw [doubleValue]
  positivity

theorem doubleValue_le_two_mul (reads : IsReadAs number significand exponent) :
    doubleValue significand exponent ≤ 2 * number := by
  have low : 2 * significand ≤ (Interval.around significand exponent).low := by
    change _ ≤ 4 * significand - (if significand = 2 ^ 52 ∧ -1074 < exponent then 1 else 2)
    split <;> omega
  calc doubleValue significand exponent
      = 2 * ((2 * significand : Nat) * 2 ^ (exponent - 2)) := by
        rw [doubleValue_eq_quarters]
        push_cast
        ring
    _ ≤ 2 * ((Interval.around significand exponent).low * 2 ^ (exponent - 2)) := by gcongr
    _ ≤ 2 * number := by
        have lower := reads.low_le
        linarith

theorem le_two_mul_doubleValue (positive : 0 < significand)
    (reads : IsReadAs number significand exponent) :
    number ≤ 2 * doubleValue significand exponent := by
  have high : (Interval.around significand exponent).high ≤ 2 * (4 * significand) := by
    change 4 * significand + 2 ≤ _
    omega
  calc number
      ≤ (Interval.around significand exponent).high * 2 ^ (exponent - 2) := reads.le_high
    _ ≤ (2 * (4 * significand) : Nat) * 2 ^ (exponent - 2) := by
        gcongr
    _ = 2 * doubleValue significand exponent := by
        rw [doubleValue_eq_quarters]
        push_cast
        ring

/-- The least number that is rounded to infinity. -/
def overflow : ℚ := (2 ^ 54 - 1) * 2 ^ 970

theorem overflow_pos : 0 < overflow := mul_pos (by norm_num) (by positivity)

theorem two_pow_lt_overflow {bits : Nat} (few : bits ≤ 1023) : (2 : ℚ) ^ bits < overflow := by
  calc (2 : ℚ) ^ bits
      ≤ 2 ^ (53 + 970) := pow_le_pow_right₀ one_le_two few
    _ = 2 ^ 53 * 2 ^ 970 := pow_add _ _ _
    _ < (2 ^ 54 - 1) * 2 ^ 970 := mul_lt_mul_of_pos_right (by norm_num) (by positivity)

theorem ten_pow_lt_overflow {places : Nat} (within : places ≤ lastPlace) :
    (10 : ℚ) ^ places < overflow := by
  have estimate : (10 : ℚ) ^ 305 ≤ 2 ^ 1014 := ten_pow_le_two_pow_of_ratio (by decide)
  calc (10 : ℚ) ^ places
      ≤ 10 ^ (3 + 305) := pow_le_pow_right₀ (by norm_num) within
    _ = 10 ^ 3 * 10 ^ 305 := pow_add _ _ _
    _ ≤ 10 ^ 3 * 2 ^ (44 + 970) := by gcongr
    _ = 10 ^ 3 * 2 ^ 44 * 2 ^ 970 := by rw [pow_add, mul_assoc]
    _ < (2 ^ 54 - 1) * 2 ^ 970 := mul_lt_mul_of_pos_right (by norm_num) (by positivity)

theorem overflow_lt_ten_pow {places : Nat} (beyond : lastPlace < places) :
    overflow < 10 ^ places := by
  calc (2 ^ 54 - 1) * 2 ^ 970
      < (2 : ℚ) ^ 54 * 2 ^ 970 := mul_lt_mul_of_pos_right (by norm_num) (by positivity)
    _ = 2 ^ (54 + 970) := (pow_add _ _ _).symm
    _ ≤ 10 ^ 309 := two_pow_le_ten_pow_of_ratio (by decide)
    _ ≤ 10 ^ places := pow_le_pow_right₀ (by norm_num) beyond

theorem le_of_isReadAs_of_lt (isDouble : IsDouble significand exponent)
    (reads : IsReadAs number significand exponent) (small : number < overflow) :
    exponent ≤ 971 := by
  by_contra large
  have full := isDouble.full.resolve_left (by omega)
  have low : 2 ^ 54 ≤ (Interval.around significand exponent).low + 1 := by
    change _ ≤ 4 * significand - (if significand = 2 ^ 52 ∧ -1074 < exponent then 1 else 2) + 1
    split <;> omega
  have quarters : (2 ^ 54 - 1 : ℚ) ≤ (Interval.around significand exponent).low := by
    rw [sub_le_iff_le_add]
    exact_mod_cast low
  have unit : (2 : ℚ) ^ 970 ≤ 2 ^ (exponent - 2) := by
    rw [← zpow_natCast]
    exact zpow_le_zpow_right₀ one_le_two (by push_cast; omega)
  have reached : overflow ≤ number := by
    calc overflow
        = (2 ^ 54 - 1) * 2 ^ 970 := rfl
      _ ≤ (Interval.around significand exponent).low * 2 ^ (exponent - 2) := by gcongr
      _ ≤ number := reads.low_le
  exact absurd small (not_lt.mpr reached)

end

theorem IsNearest.exists_finite {double : Float} {number : ℚ} (isNearest : IsNearest double number)
    (notNegative : 0 ≤ number) (small : number < overflow) :
    ∃ significand exponent, IsDouble significand exponent ∧
      IsReadAs number significand exponent ∧
      Binary.ofFloat double = .finite false significand exponent := by
  rcases isNearest.exists_ofFloat notNegative with
    ⟨significand, exponent, isDouble, reads, taken⟩
  rw [if_pos (le_of_isReadAs_of_lt isDouble reads small)] at taken
  exact ⟨significand, exponent, isDouble, reads, taken⟩

/-! ## Digits and powers -/

/-- A double that holds a number with all the bits it has room for. -/
structure Holds (double : Float) (number : ℚ) (significand : Nat) (exponent : Int) : Prop where
  isDouble : IsDouble significand exponent
  reads : IsReadAs number significand exponent
  taken : Binary.ofFloat double = .finite false significand exponent
  full : 2 ^ 52 ≤ significand

theorem Holds.positive {double : Float} {number : ℚ} {significand : Nat} {exponent : Int}
    (held : Holds double number significand exponent) : 0 < significand :=
  lt_of_lt_of_le (by norm_num) held.full

theorem Holds.mul_lt_overflow {double otherDouble : Float} {number otherNumber : ℚ}
    {significand other : Nat} {exponent otherExponent : Int}
    (held : Holds double number significand exponent)
    (otherHeld : Holds otherDouble otherNumber other otherExponent) (notNegative : 0 ≤ number)
    (small : number * otherNumber * (2 ^ 53) ^ 2 < overflow * (2 ^ 53 - 1) ^ 2) :
    doubleValue significand exponent * doubleValue other otherExponent < overflow := by
  have estimate := mul_le_mul (doubleValue_le_of_isReadAs held.full held.reads)
    (doubleValue_le_of_isReadAs otherHeld.full otherHeld.reads)
    (mul_nonneg (doubleValue_nonneg _ _) (by norm_num)) (by positivity)
  have scale : (0 : ℚ) < (2 ^ 53 - 1) ^ 2 := by norm_num
  rw [← mul_lt_mul_iff_of_pos_right scale]
  calc doubleValue significand exponent * doubleValue other otherExponent * (2 ^ 53 - 1) ^ 2
      = doubleValue significand exponent * (2 ^ 53 - 1) *
          (doubleValue other otherExponent * (2 ^ 53 - 1)) := by rw [sq]; ac_rfl
    _ ≤ number * 2 ^ 53 * (otherNumber * 2 ^ 53) := estimate
    _ = number * otherNumber * (2 ^ 53) ^ 2 := by ring
    _ < overflow * (2 ^ 53 - 1) ^ 2 := small

theorem IsNearest.exists_holds {double : Float} {number : ℚ} (isNearest : IsNearest double number)
    (large : 1 ≤ number) (small : number < overflow) :
    ∃ significand exponent, Holds double number significand exponent := by
  rcases isNearest.exists_finite (by linarith) small with
    ⟨significand, exponent, isDouble, reads, taken⟩
  exact ⟨significand, exponent, isDouble, reads, taken,
    two_pow_le_of_isReadAs isDouble reads large⟩

theorem exists_holds_powerOfTen {places : Nat} (within : places ≤ lastPlace) :
    ∃ significand exponent, Holds (powerOfTen places) (10 ^ places) significand exponent := by
  have isNearest := Numeral.isNearest_magnitude ⟨false, 1, places⟩
  have size : Numeral.size ⟨false, 1, places⟩ = 10 ^ places := by
    rw [Numeral.size, Nat.cast_one, one_mul, zpow_natCast]
  rw [size] at isNearest
  exact isNearest.exists_holds (one_le_pow₀ (by norm_num)) (ten_pow_lt_overflow within)

theorem isNearest_digits (digits : Nat) :
    IsNearest (Numeral.magnitude ⟨false, digits, 0⟩) digits := by
  have isNearest := Numeral.isNearest_magnitude ⟨false, digits, 0⟩
  have size : Numeral.size ⟨false, digits, 0⟩ = digits := by
    rw [Numeral.size, zpow_zero, mul_one]
  rw [size] at isNearest
  exact isNearest

theorem exists_holds_digits {digits : Nat} (positive : 0 < digits) (small : digits < overflow) :
    ∃ significand exponent,
      Holds (Numeral.magnitude ⟨false, digits, 0⟩) digits significand exponent :=
  (isNearest_digits digits).exists_holds (by exact_mod_cast positive) small

/-- The product of digits and a power of ten is finite, unless it is among the last doubles. -/
theorem exists_ofFloat_timesPower {digits places : Nat} (positive : 0 < digits)
    (small : digits * 10 ^ places * (2 ^ 53) ^ 2 < overflow * (2 ^ 53 - 1) ^ 2) :
    ∃ significand exponent,
      Binary.ofFloat (timesPower (Numeral.magnitude ⟨false, digits, 0⟩) places) =
        .finite false significand exponent := by
  have one : (1 : ℚ) ≤ digits := by exact_mod_cast positive
  have power : (1 : ℚ) ≤ 10 ^ places := one_le_pow₀ (by norm_num)
  have less : (digits * 10 ^ places : ℚ) < overflow := by
    have scale : (0 : ℚ) < (2 ^ 53) ^ 2 := by positivity
    rw [← mul_lt_mul_iff_of_pos_right scale]
    exact small.trans_le (mul_le_mul_of_nonneg_left (by norm_num) overflow_pos.le)
  have within : places ≤ lastPlace := by
    by_contra beyond
    have more : (10 : ℚ) ^ places ≤ digits * 10 ^ places :=
      le_mul_of_one_le_left (by positivity) one
    exact lt_asymm less ((overflow_lt_ten_pow (not_le.mp beyond)).trans_le more)
  rcases exists_holds_digits positive
      ((le_mul_of_one_le_right (by positivity) power).trans_lt less) with
    ⟨significand, exponent, held⟩
  rcases exists_holds_powerOfTen within with ⟨tens, tensExponent, tensHeld⟩
  have product := isNearest_mul held.taken tensHeld.taken held.full tensHeld.full
  rw [timesPower, if_pos within]
  rcases product.exists_finite (by positivity)
    (held.mul_lt_overflow tensHeld (by positivity) small) with ⟨_, _, _, _, taken⟩
  exact ⟨_, _, taken⟩

theorem ofFloat_zero_div {number divisor : Float} {exponent divisorExponent : Int}
    {significand : Nat} (taken : Binary.ofFloat number = .finite false 0 exponent)
    (divisorTaken : Binary.ofFloat divisor = .finite false significand divisorExponent)
    (positive : 0 < significand) :
    Binary.ofFloat (number / divisor) = .finite false 0 (-1074) := by
  have quotient : number / divisor = Float.ofModel (Float.Model.pack
      (UnpackedFloat.div Format.binary64 number.toModel.unpack divisor.toModel.unpack)) := rfl
  have zero : IsDouble 0 (-1074) := ⟨by norm_num, le_rfl, .inl rfl⟩
  rw [quotient, Binary.unpack_eq_of_ofFloat taken, Binary.unpack_eq_of_ofFloat divisorTaken,
    unpacked, dif_pos rfl, unpacked, dif_neg positive.ne']
  exact Binary.ofFloat_pack_unpacked .positive zero (by norm_num)

/-- Both roundings together make a quotient four times too large at most. -/
theorem exists_ofFloat_div_powerOfTen {number : Float} {significand places : Nat} {exponent : Int}
    (taken : Binary.ofFloat number = .finite false significand exponent)
    (within : places ≤ lastPlace) (small : 2 * doubleValue significand exponent < overflow) :
    ∃ quotient quotientExponent,
      Binary.ofFloat (number / powerOfTen places) = .finite false quotient quotientExponent ∧
        doubleValue quotient quotientExponent * 10 ^ places ≤
          4 * doubleValue significand exponent := by
  rcases exists_holds_powerOfTen within with ⟨tens, tensExponent, held⟩
  rcases Nat.eq_zero_or_pos significand with rfl | positive
  · refine ⟨0, -1074, ofFloat_zero_div taken held.taken held.positive, ?_⟩
    simp [doubleValue]
  · have divided := isNearest_div taken held.taken positive held.positive
    change IsNearest _ (doubleValue significand exponent / doubleValue tens tensExponent)
      at divided
    have power := le_two_mul_doubleValue held.positive held.reads
    have tensValue : 0 < doubleValue tens tensExponent := by
      have atLeast : (0 : ℚ) < 10 ^ places := by positivity
      linarith
    have nonneg := doubleValue_nonneg significand exponent
    have quotientBound : doubleValue significand exponent / doubleValue tens tensExponent *
        10 ^ places ≤ 2 * doubleValue significand exponent := by
      rw [div_mul_eq_mul_div, div_le_iff₀ tensValue]
      calc doubleValue significand exponent * 10 ^ places
          ≤ doubleValue significand exponent * (2 * doubleValue tens tensExponent) := by gcongr
        _ = 2 * doubleValue significand exponent * doubleValue tens tensExponent := by ring
    have quotientSmall : doubleValue significand exponent / doubleValue tens tensExponent <
        overflow :=
      lt_of_le_of_lt
        ((le_mul_of_one_le_right (by positivity) (one_le_pow₀ (by norm_num))).trans quotientBound)
        small
    rcases divided.exists_finite (by positivity) quotientSmall with
      ⟨quotient, quotientExponent, _, reads, quotientTaken⟩
    refine ⟨quotient, quotientExponent, quotientTaken, ?_⟩
    calc doubleValue quotient quotientExponent * 10 ^ places
        ≤ 2 * (doubleValue significand exponent / doubleValue tens tensExponent) * 10 ^ places := by
          gcongr
          exact doubleValue_le_two_mul reads
      _ ≤ 4 * doubleValue significand exponent := by linarith

theorem exists_ofFloat_overPower (places : Nat) {number : Float} {significand : Nat}
    {exponent : Int} (taken : Binary.ofFloat number = .finite false significand exponent)
    (small : 2 * doubleValue significand exponent < overflow) :
    ∃ quotient quotientExponent,
      Binary.ofFloat (overPower number places) = .finite false quotient quotientExponent := by
  induction places using Nat.strong_induction_on generalizing number significand exponent with
  | _ places induction =>
      rw [overPower]
      split_ifs with within zero
      · rcases exists_ofFloat_div_powerOfTen taken within small with
          ⟨quotient, quotientExponent, quotientTaken, _⟩
        exact ⟨quotient, quotientExponent, quotientTaken⟩
      · exact ⟨significand, exponent, taken⟩
      · rcases exists_ofFloat_div_powerOfTen taken le_rfl small with
          ⟨quotient, quotientExponent, quotientTaken, bound⟩
        apply induction (places - lastPlace) (by unfold lastPlace at *; omega) quotientTaken
        have smaller : doubleValue quotient quotientExponent * 4 ≤
            doubleValue quotient quotientExponent * 10 ^ lastPlace := by
          gcongr
          · exact doubleValue_nonneg _ _
          · calc (4 : ℚ)
                ≤ 10 ^ 1 := by norm_num
              _ ≤ 10 ^ lastPlace := pow_le_pow_right₀ (by norm_num) (by decide)
        linarith

/-! ## Numerals -/

namespace Numeral

theorem isFinite_inSteps_of_scaled {numeral : Numeral} {significand : Nat} {exponent : Int}
    (taken : Binary.ofFloat (if 0 ≤ numeral.exponent then
        timesPower (magnitude ⟨false, numeral.significand, 0⟩) numeral.exponent.natAbs
      else overPower (magnitude ⟨false, numeral.significand, 0⟩) numeral.exponent.natAbs) =
        .finite false significand exponent) :
    (Binary.ofFloat numeral.inSteps).isFinite = true := by
  rw [inSteps]
  split
  · rw [Binary.ofFloat_neg taken]
    rfl
  · rw [taken]
    rfl

theorem isFinite_inSteps_of_neg {numeral : Numeral} (fits : numeral.significand < wordSize)
    (negative : numeral.exponent < 0) : (Binary.ofFloat numeral.inSteps).isFinite = true := by
  have word : (2 : ℚ) ^ 66 < overflow := two_pow_lt_overflow (by decide)
  have digits : (numeral.significand : ℚ) < 2 ^ 64 := by exact_mod_cast fits
  rcases (isNearest_digits numeral.significand).exists_finite (Nat.cast_nonneg _) (by linarith) with
    ⟨_, _, _, reads, digitsTaken⟩
  have bound := doubleValue_le_two_mul reads
  rcases exists_ofFloat_overPower numeral.exponent.natAbs digitsTaken (by linarith) with
    ⟨quotient, exponent, taken⟩
  apply isFinite_inSteps_of_scaled
  rw [if_neg (by omega)]
  exact taken

theorem isFinite_inSteps_of_nonneg {numeral : Numeral} (positive : 0 < numeral.significand)
    (notNegative : 0 ≤ numeral.exponent)
    (small : numeral.size * (2 ^ 53) ^ 2 < overflow * (2 ^ 53 - 1) ^ 2) :
    (Binary.ofFloat numeral.inSteps).isFinite = true := by
  rw [size, ← Int.natAbs_of_nonneg notNegative, zpow_natCast] at small
  rcases exists_ofFloat_timesPower positive small with ⟨product, exponent, taken⟩
  apply isFinite_inSteps_of_scaled
  rw [if_pos notNegative]
  exact taken

end Numeral

/-! ## The last doubles -/

theorem le_of_isReadAs_before {number : ℚ} {significand : Nat} {exponent : Int}
    (isDouble : IsDouble significand exponent) (bounded : exponent ≤ 971)
    (before : exponent = 971 → significand + 3 < 2 ^ 53)
    (reads : IsReadAs number significand exponent) : number ≤ (2 ^ 55 - 14) * 2 ^ 969 := by
  rcases bounded.eq_or_lt with rfl | less
  · have few : 4 * significand + 2 ≤ 2 ^ 55 - 14 := by
      have := before rfl
      omega
    have bound : ((2 ^ 55 - 14 : Nat) : ℚ) = 2 ^ 55 - 14 := by norm_num
    have upper := le_of_isReadAs reads few (le_rfl : _ ≤ ((969 : Nat) : Int))
    rw [zpow_natCast, bound] at upper
    exact upper
  · have few : 4 * significand + 2 ≤ 2 ^ 55 := by
      have := isDouble.fits
      omega
    have upper := le_of_isReadAs reads few (by omega : _ ≤ ((968 : Nat) : Int))
    rw [zpow_natCast, Nat.cast_pow, Nat.cast_ofNat] at upper
    calc number
        ≤ 2 ^ 55 * 2 ^ 968 := upper
      _ = 2 ^ 54 * 2 ^ 969 := by rw [← pow_add, ← pow_add]
      _ ≤ (2 ^ 55 - 14) * 2 ^ 969 := mul_le_mul_of_nonneg_right (by norm_num) (by positivity)

/-- What is read as a double before the last three has room for two roundings. -/
theorem lt_overflow_of_isReadAs {number : ℚ} {significand : Nat} {exponent : Int}
    (isDouble : IsDouble significand exponent) (bounded : exponent ≤ 971)
    (before : exponent = 971 → significand + 3 < 2 ^ 53)
    (reads : IsReadAs number significand exponent) :
    number * (2 ^ 53) ^ 2 < overflow * (2 ^ 53 - 1) ^ 2 := by
  have upper := le_of_isReadAs_before isDouble bounded before reads
  have unit : (0 : ℚ) < 2 ^ 969 := by positivity
  calc number * (2 ^ 53) ^ 2
      ≤ (2 ^ 55 - 14) * 2 ^ 969 * (2 ^ 53) ^ 2 := by gcongr
    _ = (2 ^ 55 - 14) * (2 ^ 53) ^ 2 * 2 ^ 969 := mul_right_comm _ _ _
    _ < (2 ^ 54 - 1) * 2 * (2 ^ 53 - 1) ^ 2 * 2 ^ 969 :=
        mul_lt_mul_of_pos_right (by norm_num) unit
    _ = (2 ^ 54 - 1) * 2 * 2 ^ 969 * (2 ^ 53 - 1) ^ 2 := mul_right_comm _ _ _
    _ = overflow * (2 ^ 53 - 1) ^ 2 := by rw [overflow, mul_assoc (2 ^ 54 - 1 : ℚ), ← pow_succ']

theorem isFinite_inSteps_last : ∀ negative : Bool, ∀ back : Fin 3,
    let last := shortest .toEven (2 ^ 53 - 1 - back) 971
    (Binary.ofFloat (Numeral.mk negative last.digits last.exponent).inSteps).isFinite = true := by
  decide +kernel

/-- The digits of a double with none behind the point give a double again. -/
theorem isFinite_inSteps_shortest (negative : Bool) {significand : Nat} {exponent : Int}
    (positive : 0 < significand) (isDouble : IsDouble significand exponent)
    (bounded : exponent ≤ 971) :
    let decimal := shortest .toEven significand exponent
    0 ≤ decimal.exponent →
      (Binary.ofFloat (Numeral.mk negative decimal.digits decimal.exponent).inSteps).isFinite =
        true := by
  intro decimal whole
  have isShortest := isShortest_shortest .toEven positive isDouble bounded
  by_cases last : exponent = 971 ∧ 2 ^ 53 ≤ significand + 3
  · rcases last with ⟨rfl, close⟩
    have back : 2 ^ 53 - 1 - (2 ^ 53 - 1 - significand) = significand := by
      have := isDouble.fits
      omega
    have finite := isFinite_inSteps_last negative ⟨2 ^ 53 - 1 - significand, by omega⟩
    dsimp only at finite
    rw [back] at finite
    exact finite
  · apply Numeral.isFinite_inSteps_of_nonneg (isShortest.positive positive) whole
    exact lt_overflow_of_isReadAs isDouble bounded (by omega) isShortest.nearest.reads

/-! ## Exact steps -/

theorem Holds.doubleValue_eq {double : Float} {number : ℚ} {significand other : Nat}
    {exponent otherExponent : Int} (held : Holds double number significand exponent)
    (isDouble : IsDouble other otherExponent) (positive : 0 < other)
    (exact : doubleValue other otherExponent = number) :
    doubleValue significand exponent = number := by
  have reads := isReadAs_doubleValue otherExponent positive
  rw [exact] at reads
  have notNegative : 0 ≤ number := exact ▸ doubleValue_nonneg _ _
  rcases Numeral.isReadAs_unique notNegative isDouble held.isDouble reads held.reads with
    ⟨rfl, rfl⟩
  exact exact

namespace Numeral

theorem isNearest_scaled {numeral : Numeral} {digits tens : Nat} {digitsExponent tensExponent : Int}
    (held : Holds (magnitude ⟨false, numeral.significand, 0⟩) numeral.significand digits
      digitsExponent)
    (tensHeld : Holds (powerOfTen numeral.exponent.natAbs) (10 ^ numeral.exponent.natAbs) tens
      tensExponent)
    (digitsValue : doubleValue digits digitsExponent = numeral.significand)
    (tensValue : doubleValue tens tensExponent = 10 ^ numeral.exponent.natAbs)
    (within : numeral.exponent.natAbs ≤ lastPlace) :
    IsNearest (if 0 ≤ numeral.exponent then
        timesPower (magnitude ⟨false, numeral.significand, 0⟩) numeral.exponent.natAbs
      else overPower (magnitude ⟨false, numeral.significand, 0⟩) numeral.exponent.natAbs)
      numeral.size := by
  split
  · rename_i notNegative
    have product := isNearest_mul held.taken tensHeld.taken held.full tensHeld.full
    change IsNearest _ (doubleValue digits digitsExponent * doubleValue tens tensExponent)
      at product
    rw [digitsValue, tensValue, ← zpow_natCast, Int.natAbs_of_nonneg notNegative] at product
    rw [timesPower, if_pos within]
    exact product
  · rename_i negative
    have quotient := isNearest_div held.taken tensHeld.taken held.positive tensHeld.positive
    change IsNearest _ (doubleValue digits digitsExponent / doubleValue tens tensExponent)
      at quotient
    rw [digitsValue, tensValue, div_eq_mul_inv, ← zpow_natCast, ← zpow_neg,
      ← Int.eq_neg_natAbs_of_nonpos (by omega)] at quotient
    rw [overPower, if_pos within]
    exact quotient

theorem inSteps_eq_toFloat {numeral : Numeral} (positive : 0 < numeral.significand)
    (short : numeral.significand < 2 ^ 53) (near : numeral.exponent.natAbs < 23) :
    numeral.inSteps = numeral.toFloat := by
  have digitsSmall : (numeral.significand : ℚ) < overflow :=
    lt_trans (by exact_mod_cast short) (two_pow_lt_overflow (by decide : 53 ≤ 1023))
  rcases exists_holds_digits positive digitsSmall with ⟨digits, digitsExponent, held⟩
  have within : numeral.exponent.natAbs ≤ lastPlace := by
    unfold lastPlace
    omega
  rcases exists_holds_powerOfTen within with ⟨tens, tensExponent, tensHeld⟩
  rcases exists_ofFloat_toFloat positive short with ⟨_, _, full, exact, taken⟩
  rcases exists_ofFloat_powerOfTen near with ⟨_, _, tensFull, tensExact, tensTaken⟩
  have digitsValue := held.doubleValue_eq (Binary.isDouble_of_ofFloat taken).1 (by omega) exact
  have tensValue :=
    tensHeld.doubleValue_eq (Binary.isDouble_of_ofFloat tensTaken).1 (by omega) tensExact
  have scaled := isNearest_scaled held tensHeld digitsValue tensValue within
  have same := scaled.unique numeral.isNearest_magnitude
  rw [inSteps, same, toFloat]

end Numeral

end BroadcastScenes.Decimal
