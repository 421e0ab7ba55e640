import BroadcastScenes.Proofs.Decimal.Rounding
import Mathlib

/-!
# Doubles in bits

A double is kept in 64 bits: its sign, its exponent, and its significand without the leading bit.
Packing a double and unpacking it again loses nothing, and to take it apart by its bits is to unpack
it. So two finite doubles are equal if they are taken apart into the same numbers.
-/

namespace BroadcastScenes.Decimal

open Float.Model Float.Model.UnpackedFloat

def unpacked (sign : Sign) (significand : Nat) (exponent : Int) : UnpackedFloat :=
  if isZero : significand = 0 then .zero sign
  else .finite sign significand exponent (Nat.pos_of_ne_zero isZero)

/-! ## Bits -/

theorem toNat_unpackMantissa (bits : BitVec 64) :
    (@unpackMantissa Format.binary64 bits).toNat = bits.toNat % 2 ^ 52 := by
  simp [unpackMantissa, BitVec.extractLsb_toNat]

theorem toNat_unpackExponent (bits : BitVec 64) :
    (@unpackExponent Format.binary64 bits).toNat = bits.toNat / 2 ^ 52 % 2 ^ 11 := by
  simp [unpackExponent, BitVec.extractLsb_toNat, Nat.shiftRight_eq_div_pow]

theorem toNat_unpackSign (bits : BitVec 64) :
    (@unpackSign Format.binary64 bits).toNat = bits.toNat / 2 ^ 63 := by
  simp [unpackSign, BitVec.extractLsb_toNat, Nat.shiftRight_eq_div_pow]
  have := bits.isLt
  omega

theorem toNat_one_append (fraction : BitVec 52) :
    (1#1 ++ fraction).toNat = fraction.toNat + 2 ^ 52 := by
  rw [BitVec.toNat_append, ← Nat.shiftLeft_add_eq_or_of_lt fraction.isLt, Nat.add_comm]
  rfl

namespace Binary

def isNegative : Sign → Bool
  | .negative => true
  | .positive => false

/-- What is left of an unpacked value when a zero is taken for a double like others. -/
def ofUnpacked : UnpackedFloat → Binary
  | .infinity sign => .infinite (isNegative sign)
  | .notANumber => .notANumber
  | .zero sign => .finite (isNegative sign) 0 (-1074)
  | .finite sign significand exponent _ => .finite (isNegative sign) significand exponent

theorem ofUnpacked_unpacked {sign : Sign} {significand : Nat} {exponent : Int}
    (isDouble : IsDouble significand exponent) :
    ofUnpacked (unpacked sign significand exponent) =
      .finite (isNegative sign) significand exponent := by
  rw [unpacked]
  split
  · rename_i isZero
    subst isZero
    rw [isDouble.full.resolve_right (by decide)]
    rfl
  · rfl

theorem isNegative_ofBitVec (bits : BitVec 64) :
    isNegative (Sign.ofBitVec (@unpackSign Format.binary64 bits)) =
      (bits.toNat / 2 ^ 63 == 1) := by
  have bit := toNat_unpackSign bits
  rw [Sign.ofBitVec]
  have zero : @unpackSign Format.binary64 bits = 0#1 ↔ bits.toNat / 2 ^ 63 = 0 := by
    rw [← bit, BitVec.toNat_eq]
    rfl
  have less := bits.isLt
  split
  · rename_i equal
    rw [zero.mp equal]
    rfl
  · rename_i different
    have one : bits.toNat / 2 ^ 63 = 1 := by
      have := mt zero.mpr different
      omega
    rw [one]
    rfl

/-- Taking a double apart by its bits is unpacking it. -/
theorem ofFloat_eq_ofUnpacked (number : Float) :
    ofFloat number = ofUnpacked number.toModel.unpack := by
  have exponentBits := toNat_unpackExponent number.toModel.toBits.toBitVec
  have mantissaBits := toNat_unpackMantissa number.toModel.toBits.toBitVec
  have fullBits := toNat_one_append
    (@unpackMantissa Format.binary64 number.toModel.toBits.toBitVec)
  rw [mantissaBits] at fullBits
  have sign := isNegative_ofBitVec number.toModel.toBits.toBitVec
  have bits : number.toBits.toNat = number.toModel.toBits.toBitVec.toNat := rfl
  rw [Float.Model.unpack, UnpackedFloat.unpack]
  generalize number.toModel.toBits.toBitVec = vector at *
  have allOnes : @unpackExponent Format.binary64 vector = -1#_ ↔
      vector.toNat / 2 ^ 52 % 2 ^ 11 = 2047 := by
    rw [← exponentBits, BitVec.toNat_eq]
    rfl
  have noExponent : @unpackExponent Format.binary64 vector = 0#_ ↔
      vector.toNat / 2 ^ 52 % 2 ^ 11 = 0 := by
    rw [← exponentBits, BitVec.toNat_eq]
    rfl
  have noMantissa : @unpackMantissa Format.binary64 vector = 0#_ ↔
      vector.toNat % 2 ^ 52 = 0 := by
    rw [← mantissaBits, BitVec.toNat_eq]
    rfl
  have taken : ofFloat number =
      if vector.toNat / 2 ^ 52 % 2 ^ 11 = 2047 then
        if vector.toNat % 2 ^ 52 = 0 then .infinite (vector.toNat / 2 ^ 63 == 1) else .notANumber
      else if vector.toNat / 2 ^ 52 % 2 ^ 11 = 0 then
        .finite (vector.toNat / 2 ^ 63 == 1) (vector.toNat % 2 ^ 52) (-1074)
      else .finite (vector.toNat / 2 ^ 63 == 1) (vector.toNat % 2 ^ 52 + 2 ^ 52)
        (((vector.toNat / 2 ^ 52 % 2 ^ 11 : Nat) : Int) - 1075) := by
    rw [ofFloat, bits]
    rfl
  rw [taken]
  dsimp only
  by_cases last : vector.toNat / 2 ^ 52 % 2 ^ 11 = 2047
  · rw [if_pos last, if_pos (allOnes.mpr last)]
    by_cases none : vector.toNat % 2 ^ 52 = 0
    · rw [if_pos none, if_pos (noMantissa.mpr none), ofUnpacked, sign]
    · rw [if_neg none, if_neg (mt noMantissa.mp none), ofUnpacked]
  · rw [if_neg last, if_neg (mt allOnes.mp last)]
    by_cases first : vector.toNat / 2 ^ 52 % 2 ^ 11 = 0
    · rw [if_pos first, if_pos (noExponent.mpr first)]
      by_cases none : vector.toNat % 2 ^ 52 = 0
      · rw [dif_pos (noMantissa.mpr none), ofUnpacked, sign, none]
      · rw [dif_neg (mt noMantissa.mp none), ofUnpacked, sign, mantissaBits, exponentBits, first]
        rfl
    · rw [if_neg first, if_neg (mt noExponent.mp first), ofUnpacked, sign, fullBits, exponentBits]
      rfl

end Binary

/-! ## Packing -/

theorem unpackSign_packComponents {format : Format} (sign : Sign)
    (exponent : BitVec format.exponentBits)
    (mantissa : BitVec format.mantissaBitsWithoutImplicit) :
    unpackSign (packComponents format sign exponent mantissa) = sign.toBitVec := by
  apply BitVec.eq_of_getLsbD_eq
  intro index bound
  obtain rfl : index = 0 := by omega
  simp [unpackSign, packComponents, BitVec.getLsbD_append, BitVec.getElem_append]

theorem ofBitVec_toBitVec (sign : Sign) : Sign.ofBitVec sign.toBitVec = sign := by
  cases sign <;> rfl

theorem unpack_packComponents_full (sign : Sign) {significand biased : Nat}
    (fits : significand < 2 ^ 53) (full : 2 ^ 52 ≤ significand) (first : 0 < biased)
    (last : biased < 2047) (positive : 0 < significand) :
    UnpackedFloat.unpack Format.binary64 (packComponents Format.binary64 sign
        (BitVec.ofNat 11 biased) (BitVec.ofNat 52 significand)) =
      .finite sign significand (biased - 1075) positive := by
  have exponentBits : (BitVec.ofNat 11 biased).toNat = biased := by
    rw [BitVec.toNat_ofNat, Nat.mod_eq_of_lt (by omega)]
  have notLast : BitVec.ofNat 11 biased ≠ -1#11 := by
    intro equal
    have bits := congrArg BitVec.toNat equal
    rw [exponentBits] at bits
    change biased = 2047 at bits
    omega
  have notFirst : BitVec.ofNat 11 biased ≠ 0#11 := by
    intro equal
    have bits := congrArg BitVec.toNat equal
    rw [exponentBits] at bits
    change biased = 0 at bits
    omega
  have mantissa : (1#1 ++ BitVec.ofNat 52 significand).toNat = significand := by
    rw [toNat_one_append, BitVec.toNat_ofNat]
    omega
  rw [UnpackedFloat.unpack]
  simp only [unpackExponent_packComponents, unpackMantissa_packComponents,
    unpackSign_packComponents, ofBitVec_toBitVec]
  rw [if_neg notLast, if_neg notFirst]
  simp only [mantissa, exponentBits]
  rfl

theorem unpack_packComponents_subnormal (sign : Sign) {significand : Nat}
    (small : significand < 2 ^ 52) (positive : 0 < significand) :
    UnpackedFloat.unpack Format.binary64 (packComponents Format.binary64 sign 0#11
        (BitVec.ofNat 52 significand)) =
      .finite sign significand (-1074) positive := by
  have mantissa : (BitVec.ofNat 52 significand).toNat = significand := by
    rw [BitVec.toNat_ofNat, Nat.mod_eq_of_lt small]
  have notZero : BitVec.ofNat 52 significand ≠ 0#52 := by
    intro equal
    have bits := congrArg BitVec.toNat equal
    rw [mantissa] at bits
    change significand = 0 at bits
    omega
  rw [UnpackedFloat.unpack]
  simp only [unpackExponent_packComponents, unpackMantissa_packComponents,
    unpackSign_packComponents, ofBitVec_toBitVec]
  rw [if_neg (by decide), if_pos trivial, dif_neg notZero]
  simp only [mantissa]
  rfl

theorem unpack_pack_unpacked (sign : Sign) {significand : Nat} {exponent : Int}
    (isDouble : IsDouble significand exponent) (bounded : exponent ≤ 971) :
    (Float.Model.pack (unpacked sign significand exponent)).unpack =
      unpacked sign significand exponent := by
  have least := isDouble.least
  rw [unpacked]
  split
  · cases sign <;> rfl
  · rename_i notZero
    have positive := Nat.pos_of_ne_zero notZero
    obtain ⟨biased, biasedEqual⟩ : ∃ biased : Nat, (biased : Int) = exponent + 1075 :=
      ⟨(exponent + 1075).toNat, by omega⟩
    have same : (exponent + Format.binary64.exponentBias +
        Format.binary64.mantissaBitsWithoutImplicit).toNat = biased := by
      change (exponent + 1023 + 52).toNat = biased
      omega
    change UnpackedFloat.unpack Format.binary64 (UnpackedFloat.pack Format.binary64 _) = _
    rw [UnpackedFloat.pack, same, if_neg (by change ¬2048 ≤ biased + 1; omega)]
    by_cases full : 2 ^ 52 ≤ significand
    · have bits : significand.log2 + 1 = Format.binary64.mantissaBits := by
        have upper := (Nat.log2_lt positive.ne').mpr isDouble.fits
        have lower := (Nat.le_log2 positive.ne').mpr full
        change significand.log2 + 1 = 53
        omega
      rw [if_pos bits]
      have unpacking := unpack_packComponents_full sign isDouble.fits full
        (by omega : 0 < biased) (by omega) positive
      rw [biasedEqual, add_sub_cancel_right] at unpacking
      exact unpacking
    · have bits : significand.log2 + 1 ≠ Format.binary64.mantissaBits := by
        have upper := (Nat.log2_lt positive.ne').mpr (not_le.mp full)
        change significand.log2 + 1 ≠ 53
        omega
      rw [if_neg bits, isDouble.full.resolve_right full]
      exact unpack_packComponents_subnormal sign (not_le.mp full) positive

theorem unpack_pack_unpacked_of_large (sign : Sign) {significand : Nat} {exponent : Int}
    (isDouble : IsDouble significand exponent) (large : 971 < exponent) :
    (Float.Model.pack (unpacked sign significand exponent)).unpack = .infinity sign := by
  have full := isDouble.full.resolve_left (by omega)
  have notZero : significand ≠ 0 := by omega
  rw [unpacked, dif_neg notZero]
  change UnpackedFloat.unpack Format.binary64 (UnpackedFloat.pack Format.binary64 _) = _
  rw [UnpackedFloat.pack, if_pos (by change 2048 ≤ (exponent + 1023 + 52).toNat + 1; omega)]
  cases sign <;> rfl

namespace Binary

theorem ofFloat_pack_unpacked (sign : Sign) {significand : Nat} {exponent : Int}
    (isDouble : IsDouble significand exponent) (bounded : exponent ≤ 971) :
    ofFloat (Float.ofModel (Float.Model.pack (unpacked sign significand exponent))) =
      .finite (isNegative sign) significand exponent := by
  rw [ofFloat_eq_ofUnpacked, unpack_pack_unpacked sign isDouble bounded,
    ofUnpacked_unpacked isDouble]

theorem ofFloat_pack_unpacked_of_large (sign : Sign) {significand : Nat} {exponent : Int}
    (isDouble : IsDouble significand exponent) (large : 971 < exponent) :
    ofFloat (Float.ofModel (Float.Model.pack (unpacked sign significand exponent))) =
      .infinite (isNegative sign) := by
  rw [ofFloat_eq_ofUnpacked, unpack_pack_unpacked_of_large sign isDouble large, ofUnpacked]

variable {number : Float} {negative : Bool} {significand : Nat} {exponent : Int}

theorem toNat_toBits_of_ofFloat (taken : ofFloat number = .finite negative significand exponent) :
    IsDouble significand exponent ∧ exponent ≤ 971 ∧
      number.toBits.toNat = (if negative then 2 ^ 63 else 0) +
        if significand < 2 ^ 52 then significand
        else (exponent + 1075).toNat * 2 ^ 52 + (significand - 2 ^ 52) := by
  have less := number.toBits.toBitVec.isLt
  change number.toBits.toNat < 2 ^ 64 at less
  rw [ofFloat] at taken
  generalize number.toBits.toNat = bits at *
  change (if bits / 2 ^ 52 % 2 ^ 11 = 2047 then
      (if bits % 2 ^ 52 = 0 then Binary.infinite (bits / 2 ^ 63 == 1) else .notANumber)
    else if bits / 2 ^ 52 % 2 ^ 11 = 0 then
      .finite (bits / 2 ^ 63 == 1) (bits % 2 ^ 52) (-1074)
    else .finite (bits / 2 ^ 63 == 1) (bits % 2 ^ 52 + 2 ^ 52)
      (((bits / 2 ^ 52 % 2 ^ 11 : Nat) : Int) - 1075)) = _ at taken
  have sign : (if (bits / 2 ^ 63 == 1) = true then 2 ^ 63 else 0) = bits / 2 ^ 63 * 2 ^ 63 := by
    simp only [beq_iff_eq]
    split <;> omega
  split at taken
  · split at taken <;> cases taken
  · split at taken
    · cases taken
      refine ⟨⟨by omega, by omega, .inl rfl⟩, by omega, ?_⟩
      rw [sign, if_pos (by omega)]
      omega
    · cases taken
      refine ⟨⟨by omega, by omega, .inr (by omega)⟩, by omega, ?_⟩
      rw [sign, if_neg (by omega)]
      omega

theorem isDouble_of_ofFloat (taken : ofFloat number = .finite negative significand exponent) :
    IsDouble significand exponent ∧ exponent ≤ 971 :=
  ⟨(toNat_toBits_of_ofFloat taken).1, (toNat_toBits_of_ofFloat taken).2.1⟩

theorem eq_of_ofFloat_eq {other : Float}
    (taken : ofFloat number = .finite negative significand exponent)
    (otherTaken : ofFloat other = .finite negative significand exponent) : number = other := by
  have bits : number.toBits.toNat = other.toBits.toNat :=
    (toNat_toBits_of_ofFloat taken).2.2.trans (toNat_toBits_of_ofFloat otherTaken).2.2.symm
  rcases number with ⟨⟨numberBits, numberValid⟩⟩
  rcases other with ⟨⟨otherBits, otherValid⟩⟩
  obtain rfl : numberBits = otherBits := UInt64.toNat_inj.mp bits
  rfl

theorem exists_unpack_eq (taken : ofFloat number = .finite negative significand exponent) :
    ∃ sign, isNegative sign = negative ∧
      number.toModel.unpack = unpacked sign significand exponent := by
  rw [ofFloat_eq_ofUnpacked] at taken
  cases value : number.toModel.unpack with
  | infinity sign =>
      rw [value] at taken
      cases taken
  | notANumber =>
      rw [value] at taken
      cases taken
  | zero sign =>
      rw [value] at taken
      cases taken
      exact ⟨sign, rfl, rfl⟩
  | finite sign whole power positive =>
      rw [value] at taken
      cases taken
      exact ⟨sign, rfl, by rw [unpacked, dif_neg positive.ne']⟩

theorem unpack_eq_of_ofFloat (taken : ofFloat number = .finite false significand exponent) :
    number.toModel.unpack = unpacked .positive significand exponent := by
  rcases exists_unpack_eq taken with ⟨sign, isPositive, value⟩
  cases sign with
  | negative => cases isPositive
  | positive => exact value

theorem ofFloat_neg (taken : ofFloat number = .finite negative significand exponent) :
    ofFloat (-number) = .finite (!negative) significand exponent := by
  rcases isDouble_of_ofFloat taken with ⟨isDouble, bounded⟩
  rcases exists_unpack_eq taken with ⟨sign, rfl, value⟩
  have negated : (unpacked sign significand exponent).neg =
      unpacked (-sign) significand exponent := by
    rw [unpacked, unpacked]
    split <;> rfl
  change ofFloat (Float.ofModel (Float.Model.pack number.toModel.unpack.neg)) = _
  rw [value, negated, ofFloat_pack_unpacked _ isDouble bounded]
  cases sign <;> rfl

end Binary

end BroadcastScenes.Decimal
