import BroadcastScenes.Proofs.Decimal.WrittenIntegers

/-!
# Digits

A number is written with digits of which the first one is not zero, unless it is the only one. These
are the digits that its value gives back.
-/

namespace BroadcastScenes.Decimal

structure IsWholePart (text : List Char) : Prop where
  digits : ∀ c ∈ text, c.isDigit = true
  notEmpty : text ≠ []
  leading : text.head? = some '0' → text = ['0']

theorem isWholePart_zero : IsWholePart ['0'] := by
  refine ⟨?_, List.cons_ne_nil _ _, fun _ => rfl⟩
  intro c member
  obtain rfl := List.mem_singleton.mp member
  rfl

theorem isWholePart_toDigits (number : Nat) : IsWholePart (Nat.toDigits 10 number) := by
  refine ⟨fun c member => isDigit_of_mem_toDigits member, Nat.toDigits_ne_nil, ?_⟩
  induction number using Nat.strongRecOn with
  | ind number induction =>
      rw [Nat.toDigits_eq_if (by decide)]
      split
      · intro leading
        rw [List.head?_cons, Option.some_inj] at leading
        rw [leading]
      · rename_i large
        intro leading
        rw [List.head?_append_of_ne_nil _ Nat.toDigits_ne_nil] at leading
        have front := induction (number / 10) (by omega) leading
        have value := Nat.ofDigitChars_ten_toDigits (n := number / 10)
        rw [front] at value
        change 0 = number / 10 at value
        omega

theorem head?_toDigits_ne {number : Nat} (positive : 0 < number) :
    (Nat.toDigits 10 number).head? ≠ some '0' := by
  intro leading
  have value := Nat.ofDigitChars_ten_toDigits (n := number)
  rw [(isWholePart_toDigits number).leading leading] at value
  exact positive.ne value

theorem toNat_digitChar : ∀ digit < 10, (Nat.digitChar digit).toNat = digit + '0'.toNat := by decide

theorem digitChar_toNat_sub {c : Char} (isDigit : c.isDigit = true) :
    c.toNat - '0'.toNat < 10 ∧ Nat.digitChar (c.toNat - '0'.toNat) = c := by
  rcases Char.isDigit_iff_toNat.mp isDigit with ⟨lower, upper⟩
  have less : c.toNat - '0'.toNat < 10 := by
    have range : '9'.toNat = '0'.toNat + 9 := rfl
    omega
  refine ⟨less, Char.toNat_inj.mp ?_⟩
  rw [toNat_digitChar _ less]
  omega

theorem toDigits_ofDigitChars {text : List Char} (isWholePart : IsWholePart text) :
    Nat.toDigits 10 (Nat.ofDigitChars 10 text 0) = text := by
  induction text using List.reverseRecOn with
  | nil => exact absurd rfl isWholePart.notEmpty
  | append_singleton front last induction =>
      have lastDigit := digitChar_toNat_sub (isWholePart.digits last (by simp))
      rw [Nat.ofDigitChars_append, Nat.ofDigitChars_cons, Nat.ofDigitChars_nil]
      cases front with
      | nil =>
          rw [Nat.ofDigitChars_nil, Nat.mul_zero, Nat.zero_add,
            Nat.toDigits_of_lt_base lastDigit.1, lastDigit.2]
          rfl
      | cons first more =>
          have frontIsWhole : IsWholePart (first :: more) := by
            refine ⟨fun c member => isWholePart.digits c (List.mem_append_left _ member),
              List.cons_ne_nil _ _, ?_⟩
            intro leading
            have alone := isWholePart.leading (by simpa using leading)
            simp at alone
          have value := induction frontIsWhole
          have positive : 0 < Nat.ofDigitChars 10 (first :: more) 0 := by
            apply Nat.pos_of_ne_zero
            intro zero
            rw [zero, Nat.toDigits_zero] at value
            have alone := isWholePart.leading (by rw [← value]; rfl)
            rw [← value] at alone
            simp at alone
          rw [← Nat.toDigits_append_toDigits (by decide) positive lastDigit.1, value,
            Nat.toDigits_of_lt_base lastDigit.1, lastDigit.2]

end BroadcastScenes.Decimal
