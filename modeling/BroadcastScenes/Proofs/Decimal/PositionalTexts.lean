import BroadcastScenes.Decimal.Layout
import BroadcastScenes.Proofs.Decimal.Digits
import Mathlib.Algebra.Group.Nat.Defs

/-!
# Positional texts

A decimal that is no whole number is set with a point among its digits. Its digits before and behind
the point can be told from its value and from the number of its places alone, so that no other text
with a point is the text of the same decimal.
-/

namespace BroadcastScenes.Decimal

/-- What stands before a point and behind it: no zero in front that could be left out, and at least
one digit behind the point. -/
structure IsPointed (whole fraction : List Char) : Prop where
  whole : IsWholePart whole
  digits : ∀ c ∈ fraction, c.isDigit = true
  notEmpty : fraction ≠ []

def pointed (whole fraction : List Char) : Scientific where
  digits := Nat.ofDigitChars 10 (whole ++ fraction) 0
  exponent := -fraction.length

/-! ## One text for each decimal -/

theorem ofDigitChars_lt {text : List Char} (digits : ∀ c ∈ text, c.isDigit = true) :
    Nat.ofDigitChars 10 text 0 < 10 ^ text.length := by
  induction text with
  | nil => exact Nat.one_pos
  | cons first rest induction =>
      have lower := induction fun c member => digits c (List.mem_cons_of_mem _ member)
      have firstDigit := (digitChar_toNat_sub (digits first List.mem_cons_self)).1
      rw [Nat.ofDigitChars_cons, Nat.ofDigitChars_eq_ofDigitChars_zero, List.length_cons,
        Nat.pow_succ, Nat.mul_zero, Nat.zero_add]
      have upper := Nat.mul_le_mul_left (10 ^ rest.length) (Nat.le_of_lt_succ firstDigit)
      omega

theorem isWholePart_one_cons {text : List Char} (digits : ∀ c ∈ text, c.isDigit = true) :
    IsWholePart ('1' :: text) := by
  refine ⟨List.forall_mem_cons.mpr ⟨rfl, digits⟩, List.cons_ne_nil _ _, ?_⟩
  intro leading
  cases leading

theorem eq_of_ofDigitChars_eq {text other : List Char} (digits : ∀ c ∈ text, c.isDigit = true)
    (otherDigits : ∀ c ∈ other, c.isDigit = true) (length : text.length = other.length)
    (value : Nat.ofDigitChars 10 text 0 = Nat.ofDigitChars 10 other 0) : text = other := by
  -- A one in front keeps the zeros that follow it.
  have values : Nat.ofDigitChars 10 ('1' :: text) 0 = Nat.ofDigitChars 10 ('1' :: other) 0 := by
    rw [Nat.ofDigitChars_cons, Nat.ofDigitChars_cons, Nat.ofDigitChars_eq_ofDigitChars_zero,
      Nat.ofDigitChars_eq_ofDigitChars_zero (l := other), length, value]
  have same := toDigits_ofDigitChars (isWholePart_one_cons digits)
  rw [values, toDigits_ofDigitChars (isWholePart_one_cons otherDigits)] at same
  exact (List.cons.inj same).2.symm

/-- A decimal determines what stands before its point and behind it. -/
theorem eq_of_pointed_eq {whole fraction other otherFraction : List Char}
    (isPointed : IsPointed whole fraction) (isOtherPointed : IsPointed other otherFraction)
    (same : pointed whole fraction = pointed other otherFraction) :
    whole = other ∧ fraction = otherFraction := by
  have length : fraction.length = otherFraction.length := by
    have places := congrArg Scientific.exponent same
    simp only [pointed] at places
    omega
  have value : Nat.ofDigitChars 10 (whole ++ fraction) 0 =
      Nat.ofDigitChars 10 (other ++ otherFraction) 0 := congrArg Scientific.digits same
  rw [Nat.ofDigitChars_append, Nat.ofDigitChars_append, Nat.ofDigitChars_eq_ofDigitChars_zero,
    Nat.ofDigitChars_eq_ofDigitChars_zero (l := otherFraction), ← length] at value
  have less := ofDigitChars_lt isPointed.digits
  have otherLess := ofDigitChars_lt isOtherPointed.digits
  rw [← length] at otherLess
  have power : 0 < 10 ^ fraction.length := Nat.pow_pos (by decide)
  have wholes : Nat.ofDigitChars 10 whole 0 = Nat.ofDigitChars 10 other 0 := by
    have quotient := congrArg (· / 10 ^ fraction.length) value
    simpa [Nat.mul_add_div power, Nat.div_eq_of_lt less, Nat.div_eq_of_lt otherLess]
      using quotient
  constructor
  · rw [← toDigits_ofDigitChars isPointed.whole, wholes,
      toDigits_ofDigitChars isOtherPointed.whole]
  · apply eq_of_ofDigitChars_eq isPointed.digits isOtherPointed.digits length
    rw [wholes] at value
    exact Nat.add_left_cancel value

/-! ## How decimals are set -/

section

variable {decimal : Scientific} {leading : Int}
  (place : decimal.exponent + (Nat.toDigits 10 decimal.digits).length - 1 = leading)

include place

theorem positionalText_of_exponent_nonneg (whole : 0 ≤ decimal.exponent) (wholeMark : List Char) :
    positionalText (Nat.toDigits 10 decimal.digits) leading wholeMark =
      Nat.toDigits 10 decimal.digits ++ List.replicate decimal.exponent.toNat '0' ++
        wholeMark := by
  have length := Nat.length_toDigits_pos (b := 10) (n := decimal.digits)
  have zeros : leading.toNat + 1 - (Nat.toDigits 10 decimal.digits).length =
      decimal.exponent.toNat := by omega
  rw [positionalText, if_neg (by omega)]
  dsimp only
  rw [if_pos (by omega), zeros]

theorem exists_pointed_positionalText (positive : 0 < decimal.digits)
    (places : decimal.exponent < 0) (wholeMark : List Char) :
    ∃ whole fraction, IsPointed whole fraction ∧ pointed whole fraction = decimal ∧
      positionalText (Nat.toDigits 10 decimal.digits) leading wholeMark =
        whole ++ '.' :: fraction := by
  have digits : ∀ c ∈ Nat.toDigits 10 decimal.digits, c.isDigit = true :=
    fun c member => isDigit_of_mem_toDigits member
  rw [positionalText]
  split
  · refine ⟨['0'], List.replicate (-leading - 1).toNat '0' ++ Nat.toDigits 10 decimal.digits,
      ⟨isWholePart_zero, ?_, List.append_ne_nil_of_right_ne_nil _ Nat.toDigits_ne_nil⟩, ?_, ?_⟩
    · intro c member
      rcases List.mem_append.mp member with zero | digit
      · rw [List.eq_of_mem_replicate zero]
        rfl
      · exact digits c digit
    · have value : Nat.ofDigitChars 10 (['0'] ++ (List.replicate (-leading - 1).toNat '0' ++
          Nat.toDigits 10 decimal.digits)) 0 = decimal.digits := by
        rw [Nat.ofDigitChars_append, Nat.ofDigitChars_append, Nat.ofDigitChars_replicate_zero]
        change Nat.ofDigitChars 10 (Nat.toDigits 10 decimal.digits) (_ * 0) = _
        rw [Nat.mul_zero, Nat.ofDigitChars_ten_toDigits]
      have exponent : -((List.replicate (-leading - 1).toNat '0' ++
          Nat.toDigits 10 decimal.digits).length : Int) = decimal.exponent := by
        rw [List.length_append, List.length_replicate]
        omega
      rw [pointed, value, exponent]
    · simp
  · dsimp only
    rw [if_neg (by omega)]
    refine ⟨(Nat.toDigits 10 decimal.digits).take (leading.toNat + 1),
      (Nat.toDigits 10 decimal.digits).drop (leading.toNat + 1), ⟨⟨?_, ?_, ?_⟩, ?_, ?_⟩, ?_, rfl⟩
    · exact fun c member => digits c (List.mem_of_mem_take member)
    · intro none
      have length := congrArg List.length none
      rw [List.length_take, List.length_nil] at length
      omega
    · intro zero
      rw [List.head?_take, if_neg (Nat.succ_ne_zero _)] at zero
      exact absurd zero (head?_toDigits_ne positive)
    · exact fun c member => digits c (List.mem_of_mem_drop member)
    · intro none
      have length := congrArg List.length none
      rw [List.length_drop, List.length_nil] at length
      omega
    · have exponent : -(((Nat.toDigits 10 decimal.digits).drop (leading.toNat + 1)).length : Int) =
          decimal.exponent := by
        rw [List.length_drop]
        omega
      rw [pointed, List.take_append_drop, Nat.ofDigitChars_ten_toDigits, exponent]

end

end BroadcastScenes.Decimal
