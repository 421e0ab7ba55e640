import BroadcastScenes.Json.Printer
import BroadcastScenes.Proofs.Decimal.PositionalTexts
import BroadcastScenes.Proofs.Decimal.StepReading
import BroadcastScenes.Proofs.Json.Literals

/-!
# Written doubles

A finite double is written with the shortest digits that no other double is nearer to, and where the
point and the exponent stand does not change what they denote. The literal that is written always
means a double, but it is read in steps, so that this need not be the same one. It is the same one
if the digits are few.
-/

namespace BroadcastScenes.Json

/-- The decimal that a finite double is written as. Zero is written with one place. -/
def writtenDecimal (significand : Nat) (exponent : Int) : Decimal.Scientific :=
  if significand = 0 then ⟨0, -1⟩
  else Decimal.shortest Decimal.Layout.json.tie significand exponent

/-- The digits fit into the bits of a double, those of a whole number with the zeros behind them and
one behind the point, and there are not too many places. -/
def IsShort (decimal : Decimal.Scientific) : Prop :=
  decimal.digits * 10 ^ (decimal.exponent + 1).toNat < 2 ^ 53 ∧ -22 ≤ decimal.exponent

instance (decimal : Decimal.Scientific) : Decidable (IsShort decimal) :=
  inferInstanceAs (Decidable (_ ∧ _))

def isShortDouble (number : Float) : Bool :=
  match Decimal.Binary.ofFloat number with
  | .finite _ significand exponent => decide (IsShort (writtenDecimal significand exponent))
  | _ => false

namespace Literal

/-- The literal is no integer and denotes this decimal. A whole number may have a zero behind the
point in addition. -/
structure Denotes (literal : Literal) (negative : Bool) (decimal : Decimal.Scientific) : Prop where
  wellFormed : literal.IsWellFormed
  notInteger : (literal.fraction.isSome || literal.exponent.isSome) = true
  numeral : literal.numeral = ⟨negative, decimal.digits, decimal.exponent⟩ ∨
    ∃ zeros : Nat, decimal.exponent = zeros ∧ decimal.digits * 10 ^ zeros < 10 ^ 16 ∧
      literal.numeral = ⟨negative, decimal.digits * 10 ^ (zeros + 1), -1⟩

theorem denotes_zero (negative : Bool) :
    Denotes ⟨negative, ['0'], some ['0'], none⟩ negative ⟨0, -1⟩ := by
  refine ⟨⟨Decimal.isWholePart_zero, ?_⟩, rfl, .inl rfl⟩
  intro digits equal
  obtain rfl := Option.some.inj equal
  refine ⟨List.cons_ne_nil _ _, ?_⟩
  intro c member
  obtain rfl := List.mem_singleton.mp member
  rfl

theorem denotes_pointed (negative : Bool) {whole fraction : List Char}
    (isPointed : Decimal.IsPointed whole fraction) :
    Denotes ⟨negative, whole, some fraction, none⟩ negative (Decimal.pointed whole fraction) := by
  refine ⟨⟨isPointed.whole, ?_⟩, rfl, .inl ?_⟩
  · intro digits equal
    obtain rfl := Option.some.inj equal
    exact ⟨isPointed.notEmpty, isPointed.digits⟩
  · simp [numeral, Decimal.Numeral.ofDigits, Decimal.pointed]

section

variable {decimal : Decimal.Scientific} (positive : 0 < decimal.digits)

include positive

theorem denotes_whole (negative : Bool) {zeros : Nat} (places : decimal.exponent = zeros)
    (small : decimal.digits * 10 ^ zeros < 10 ^ 16) :
    Denotes ⟨negative, Nat.toDigits 10 decimal.digits ++ List.replicate zeros '0', some ['0'],
      none⟩ negative decimal := by
  refine ⟨⟨⟨?_, ?_, ?_⟩, ?_⟩, rfl, .inr ⟨zeros, places, small, ?_⟩⟩
  · intro c member
    rcases List.mem_append.mp member with digit | zero
    · exact Decimal.isDigit_of_mem_toDigits digit
    · rw [List.eq_of_mem_replicate zero]
      rfl
  · exact List.append_ne_nil_of_left_ne_nil Nat.toDigits_ne_nil _
  · intro leading
    rw [List.head?_append_of_ne_nil _ Nat.toDigits_ne_nil] at leading
    exact absurd leading (Decimal.head?_toDigits_ne positive)
  · exact (denotes_zero negative).wellFormed.fraction
  · have value : Nat.ofDigitChars 10
        (Nat.toDigits 10 decimal.digits ++ List.replicate zeros '0' ++ ['0']) 0 =
          decimal.digits * 10 ^ (zeros + 1) := by
      rw [Nat.ofDigitChars_append, Nat.ofDigitChars_append, Nat.ofDigitChars_ten_toDigits,
        Nat.ofDigitChars_replicate_zero]
      change 10 * (10 ^ zeros * decimal.digits) = _
      ring
    simp only [numeral, Decimal.Numeral.ofDigits, Option.getD_some, value]
    rfl

theorem denotes_scientific (negative : Bool) {first : Char} {more : List Char}
    (digits : Nat.toDigits 10 decimal.digits = first :: more) {leading : Int}
    (place : leading - more.length = decimal.exponent) :
    Denotes ⟨negative, [first], if more = [] then none else some more, some leading⟩ negative
      decimal := by
  have areDigits : ∀ c ∈ first :: more, c.isDigit = true := by
    rw [← digits]
    exact fun c member => Decimal.isDigit_of_mem_toDigits member
  have isNotZero : first ≠ '0' := by
    intro zero
    apply Decimal.head?_toDigits_ne positive
    rw [digits, zero]
    rfl
  have fraction : (if more = [] then none else some more).getD [] = more := by
    split
    · rename_i none
      rw [none]
      rfl
    · rfl
  refine ⟨⟨⟨?_, List.cons_ne_nil _ _, ?_⟩, ?_⟩, ?_, .inl ?_⟩
  · intro c member
    obtain rfl := List.mem_singleton.mp member
    exact areDigits _ List.mem_cons_self
  · intro zero
    exact absurd (Option.some.inj zero) isNotZero
  · intro other equal
    dsimp only at equal
    split at equal
    · cases equal
    · rename_i notEmpty
      obtain rfl := Option.some.inj equal
      exact ⟨notEmpty, fun c member => areDigits c (List.mem_cons_of_mem _ member)⟩
  · rw [Option.isSome_some, Bool.or_true]
  · simp only [numeral, Decimal.Numeral.ofDigits, fraction, Option.getD_some, place]
    rw [List.singleton_append, ← digits, Nat.ofDigitChars_ten_toDigits]

theorem exists_denotes_positionalText (negative : Bool) {leading : Int}
    (place : decimal.exponent + (Nat.toDigits 10 decimal.digits).length - 1 = leading)
    (short : leading ≤ 15) :
    ∃ literal : Literal, literal.Denotes negative decimal ∧ literal.text = signText negative ++
      Decimal.positionalText (Nat.toDigits 10 decimal.digits) leading
        Decimal.Layout.json.wholeMark := by
  rcases Int.lt_or_le decimal.exponent 0 with places | whole
  · rcases Decimal.exists_pointed_positionalText place positive places
        Decimal.Layout.json.wholeMark with ⟨whole, fraction, isPointed, rfl, set⟩
    refine ⟨_, denotes_pointed negative isPointed, ?_⟩
    rw [set]
    simp [text, fractionText, exponentText]
  · have exponent : decimal.exponent = decimal.exponent.toNat := (Int.toNat_of_nonneg whole).symm
    have small : decimal.digits * 10 ^ decimal.exponent.toNat < 10 ^ 16 := by
      have digits : decimal.digits < 10 ^ (Nat.toDigits 10 decimal.digits).length :=
        (Nat.length_toDigits_le_iff (by decide) Nat.length_toDigits_pos).mp le_rfl
      calc decimal.digits * 10 ^ decimal.exponent.toNat
          < 10 ^ (Nat.toDigits 10 decimal.digits).length * 10 ^ decimal.exponent.toNat :=
            Nat.mul_lt_mul_of_pos_right digits (Nat.pow_pos (by decide))
        _ = 10 ^ ((Nat.toDigits 10 decimal.digits).length + decimal.exponent.toNat) :=
            (pow_add _ _ _).symm
        _ ≤ 10 ^ 16 := Nat.pow_le_pow_right (by decide) (by omega)
    rw [Decimal.positionalText_of_exponent_nonneg place whole]
    refine ⟨_, denotes_whole positive negative exponent small, ?_⟩
    simp [text, fractionText, exponentText, Decimal.Layout.json]

theorem exists_denotes_scientificText (negative : Bool) {leading : Int}
    (place : decimal.exponent + (Nat.toDigits 10 decimal.digits).length - 1 = leading) :
    ∃ literal : Literal, literal.Denotes negative decimal ∧ literal.text = signText negative ++
      Decimal.scientificText (Nat.toDigits 10 decimal.digits) leading := by
  cases digits : Nat.toDigits 10 decimal.digits with
  | nil => exact absurd digits Nat.toDigits_ne_nil
  | cons first more =>
      have exponent : leading - more.length = decimal.exponent := by
        rw [digits, List.length_cons] at place
        omega
      refine ⟨_, denotes_scientific positive negative digits exponent, ?_⟩
      cases more with
      | nil => simp [text, fractionText, exponentText, Decimal.scientificText]
      | cons second others => simp [text, fractionText, exponentText, Decimal.scientificText]

/-- However a decimal is laid out, it is the text of a literal that denotes it. -/
theorem exists_denotes_layoutText (negative : Bool) :
    ∃ literal : Literal, literal.Denotes negative decimal ∧
      literal.text = signText negative ++ Decimal.Layout.json.text decimal := by
  rw [Decimal.Layout.text]
  split
  · rename_i positional
    apply exists_denotes_positionalText positive negative rfl
    exact of_decide_eq_true (Bool.and_eq_true_iff.mp positional).2
  · exact exists_denotes_scientificText positive negative rfl

end

theorem exists_denotes_doubleText {number : Float} {negative : Bool} {significand : Nat}
    {exponent : Int}
    (taken : Decimal.Binary.ofFloat number = .finite negative significand exponent) :
    ∃ literal : Literal, literal.Denotes negative (writtenDecimal significand exponent) ∧
      literal.text = doubleText number := by
  have signed : ∀ magnitude : List Char,
      (if negative = true then '-' :: magnitude else magnitude) =
        signText negative ++ magnitude := by
    intro magnitude
    cases negative <;> rfl
  have isFinite : (Decimal.Binary.ofFloat number).isFinite = true := by
    rw [taken]
    rfl
  rcases Decimal.Binary.isDouble_of_ofFloat taken with ⟨isDouble, bounded⟩
  rw [doubleText, if_pos isFinite, Decimal.Layout.write, taken]
  dsimp only
  rw [signed, writtenDecimal]
  split
  · refine ⟨_, denotes_zero negative, ?_⟩
    cases negative <;> rfl
  · rename_i notZero
    have shortest := Decimal.isShortest_shortest Decimal.Layout.json.tie
      (Nat.pos_of_ne_zero notZero) isDouble bounded
    exact exists_denotes_layoutText (shortest.positive (Nat.pos_of_ne_zero notZero)) negative

/-! ## What is read -/

section

variable {literal : Literal} {negative : Bool} {decimal : Decimal.Scientific}
  (denotes : literal.Denotes negative decimal)

include denotes

theorem Denotes.size_eq : literal.numeral.size = decimal.size := by
  rcases denotes.numeral with same | ⟨zeros, places, _, same⟩
  · rw [same]
    rfl
  · rw [same, Decimal.Numeral.size, Decimal.Scientific.size, places, zpow_natCast, zpow_neg_one]
    push_cast
    rw [pow_succ]
    field_simp

theorem Denotes.negative_eq : literal.numeral.negative = negative := by
  rcases denotes.numeral with same | ⟨zeros, _, _, same⟩
  · rw [same]
  · rw [same]

theorem Denotes.significand_lt (few : decimal.digits < 2 ^ 60) :
    literal.numeral.significand < Decimal.wordSize := by
  rcases denotes.numeral with same | ⟨zeros, _, small, same⟩
  · rw [same]
    exact few.trans (by decide)
  · rw [same, Decimal.wordSize]
    change decimal.digits * 10 ^ (zeros + 1) < _
    rw [Nat.pow_succ, ← Nat.mul_assoc]
    omega

theorem Denotes.near_of_short (positive : 0 < decimal.digits) (short : IsShort decimal) :
    0 < literal.numeral.significand ∧ literal.numeral.significand < 2 ^ 53 ∧
      literal.numeral.exponent.natAbs < 23 := by
  rcases short with ⟨few, near⟩
  have power : 0 < 10 ^ (decimal.exponent + 1).toNat := Nat.pow_pos (by decide)
  have places : (decimal.exponent + 1).toNat < 16 := by
    rw [← Nat.pow_lt_pow_iff_right (by decide : 1 < 10)]
    have atLeast := Nat.le_mul_of_pos_left (10 ^ (decimal.exponent + 1).toNat) positive
    omega
  rcases denotes.numeral with same | ⟨zeros, exponent, _, same⟩
  · have atMost := Nat.le_mul_of_pos_right decimal.digits power
    rw [same]
    exact ⟨positive, by dsimp only; omega, by dsimp only; omega⟩
  · have sum : (decimal.exponent + 1).toNat = zeros + 1 := by omega
    rw [sum] at few
    rw [same]
    exact ⟨Nat.mul_pos positive (Nat.pow_pos (by decide)), few,
      (by decide : (-1 : Int).natAbs < 23)⟩

theorem Denotes.toFloat_eq (few : decimal.digits < 2 ^ 60) :
    literal.toFloat = literal.numeral.inSteps :=
  congrArg Decimal.Numeral.inSteps
    (Decimal.Numeral.ofFirstDigits_eq (denotes.significand_lt few))

theorem Denotes.meaning?_eq
    (isFinite : (Decimal.Binary.ofFloat literal.toFloat).isFinite = true) :
    literal.meaning? = some (.double literal.toFloat) := by
  rw [Literal.meaning?, if_pos denotes.notInteger, if_pos isFinite]

end

section

variable {literal : Literal} {number : Float} {negative : Bool} {significand : Nat} {exponent : Int}
  (taken : Decimal.Binary.ofFloat number = .finite negative significand exponent)

include taken

theorem writtenDecimal_digits_lt : (writtenDecimal significand exponent).digits < 2 ^ 60 := by
  rcases Decimal.Binary.isDouble_of_ofFloat taken with ⟨isDouble, bounded⟩
  rw [writtenDecimal]
  split
  · norm_num
  · rename_i notZero
    have positive := Nat.pos_of_ne_zero notZero
    exact (Decimal.isShortest_shortest _ positive isDouble bounded).digits_lt positive isDouble

theorem Denotes.isFinite_toFloat
    (denotes : literal.Denotes negative (writtenDecimal significand exponent)) :
    (Decimal.Binary.ofFloat literal.toFloat).isFinite = true := by
  have few := writtenDecimal_digits_lt taken
  rcases Decimal.Binary.isDouble_of_ofFloat taken with ⟨isDouble, bounded⟩
  rw [denotes.toFloat_eq few]
  rcases Int.lt_or_le literal.numeral.exponent 0 with places | whole
  · exact Decimal.Numeral.isFinite_inSteps_of_neg (denotes.significand_lt few) places
  · rcases denotes.numeral with same | ⟨_, _, _, same⟩
    · rw [same] at whole ⊢
      rcases Nat.eq_zero_or_pos significand with rfl | positive
      · exact absurd whole (by decide : ¬(0 : Int) ≤ -1)
      · have written : writtenDecimal significand exponent =
            Decimal.shortest .toEven significand exponent := if_neg positive.ne'
        rw [written] at whole ⊢
        exact Decimal.isFinite_inSteps_shortest negative positive isDouble bounded whole
    · rw [same] at whole
      exact absurd whole (by decide : ¬(0 : Int) ≤ -1)

theorem exists_doubleText : ∃ literal : Literal, literal.IsWellFormed ∧
    literal.text = doubleText number ∧ ∃ again, literal.meaning? = some (.double again) := by
  rcases exists_denotes_doubleText taken with ⟨literal, denotes, text⟩
  exact ⟨literal, denotes.wellFormed, text, _,
    denotes.meaning?_eq (denotes.isFinite_toFloat taken)⟩

theorem Denotes.toFloat_eq_of_short
    (denotes : literal.Denotes negative (writtenDecimal significand exponent))
    (short : IsShort (writtenDecimal significand exponent)) : literal.toFloat = number := by
  rcases Decimal.Binary.isDouble_of_ofFloat taken with ⟨isDouble, bounded⟩
  rw [← denotes.negative_eq] at taken
  rw [denotes.toFloat_eq (writtenDecimal_digits_lt taken)]
  rcases Nat.eq_zero_or_pos significand with rfl | positive
  · obtain rfl := isDouble.full.resolve_right (by decide)
    have zero : literal.numeral = ⟨negative, 0, -1⟩ := by
      rcases denotes.numeral with same | ⟨_, places, _, _⟩
      · exact same
      · exact absurd places (by change (-1 : Int) ≠ _; omega)
    have reads : Decimal.IsReadAs literal.numeral.size 0 (-1074) := by
      rw [zero, Decimal.Numeral.size, Nat.cast_zero, zero_mul]
      exact Decimal.isReadAs_zero
    rw [← Decimal.Numeral.toFloat_eq_of_isReadAs taken reads, zero]
    cases negative <;> decide +kernel
  · have written : writtenDecimal significand exponent =
        Decimal.shortest .toEven significand exponent := if_neg positive.ne'
    have shortest := Decimal.isShortest_shortest .toEven positive isDouble bounded
    have few : 0 < (writtenDecimal significand exponent).digits :=
      written ▸ shortest.positive positive
    rcases denotes.near_of_short few short with ⟨numeralPositive, small, near⟩
    have reads : Decimal.IsReadAs literal.numeral.size significand exponent := by
      rw [denotes.size_eq, written]
      exact shortest.nearest.reads
    rw [Decimal.Numeral.inSteps_eq_toFloat numeralPositive small near]
    exact Decimal.Numeral.toFloat_eq_of_isReadAs taken reads

end

end Literal

end BroadcastScenes.Json
