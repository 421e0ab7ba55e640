import BroadcastScenes.Decimal.Leading
import BroadcastScenes.Proofs.Text.Trimming

/-!
# Written integers

An integer is written as its digits, behind a minus sign when it is negative. Reading that back
gives the same integer.
-/

namespace BroadcastScenes.Decimal

theorem isDigit_of_mem_toDigits {number : Nat} {c : Char} (member : c ∈ Nat.toDigits 10 number) :
    c.isDigit = true :=
  Nat.isDigit_of_mem_toDigits (by decide) (by decide) member

theorem isDigit_or_eq_minus_of_mem_integerText {number : Int} {c : Char}
    (member : c ∈ integerText number) : c.isDigit = true ∨ c = '-' := by
  rw [integerText] at member
  split at member
  · rcases List.mem_cons.mp member with equal | digit
    · exact .inr equal
    · exact .inl (isDigit_of_mem_toDigits digit)
  · exact .inl (isDigit_of_mem_toDigits member)

theorem integerText_ne_nil (number : Int) : integerText number ≠ [] := by
  rw [integerText]
  split
  · exact List.cons_ne_nil _ _
  · exact Nat.toDigits_ne_nil

theorem cutDigits_append {digits rest : List Char} (isDigits : ∀ c ∈ digits, c.isDigit = true)
    (ends : ∀ c, rest.head? = some c → c.isDigit = false) :
    cutDigits (digits ++ rest) = (digits, rest) := by
  have noDigits : rest.takeWhile Char.isDigit = [] ∧ rest.dropWhile Char.isDigit = rest := by
    cases rest with
    | nil => exact ⟨rfl, rfl⟩
    | cons first more =>
        have isNoDigit := ends first rfl
        rw [List.takeWhile_cons, List.dropWhile_cons, isNoDigit]
        exact ⟨rfl, rfl⟩
  rw [cutDigits, List.takeWhile_append_of_pos isDigits, List.dropWhile_append_of_pos isDigits,
    noDigits.1, noDigits.2, List.append_nil]

theorem cutDigits_toDigits (number : Nat) :
    cutDigits (Nat.toDigits 10 number) = (Nat.toDigits 10 number, []) := by
  have digits : ∀ c ∈ Nat.toDigits 10 number, c.isDigit = true :=
    fun c member => isDigit_of_mem_toDigits member
  rw [cutDigits, List.takeWhile_eq_self_iff.mpr digits, List.dropWhile_eq_nil_iff.mpr digits]

theorem cutSign_of_isDigit {first : Char} (digit : first.isDigit = true) (rest : List Char) :
    cutSign (first :: rest) = (false, first :: rest) := by
  unfold cutSign
  split
  · rename_i equal
    cases equal
    cases digit
  · rename_i equal
    cases equal
    cases digit
  · rfl

theorem cutSign_toDigits (number : Nat) :
    cutSign (Nat.toDigits 10 number) = (false, Nat.toDigits 10 number) := by
  have digits : ∀ c ∈ Nat.toDigits 10 number, c.isDigit = true :=
    fun c member => isDigit_of_mem_toDigits member
  cases text : Nat.toDigits 10 number with
  | nil => rfl
  | cons first rest =>
      rw [text] at digits
      exact cutSign_of_isDigit (digits first List.mem_cons_self) rest

theorem isBlank_eq_false_of_isDigit {c : Char} (digit : c.isDigit = true) :
    Text.isBlank c = false := by
  rcases Char.isDigit_iff_toNat.mp digit with ⟨lower, upper⟩
  have zero : '0'.toNat = 48 := rfl
  have nine : '9'.toNat = 57 := rfl
  apply Text.isBlank_eq_false_of_ascii <;> omega

theorem isBlank_eq_false_of_mem_integerText {number : Int} {c : Char}
    (member : c ∈ integerText number) : Text.isBlank c = false := by
  rcases isDigit_or_eq_minus_of_mem_integerText member with digit | rfl
  · exact isBlank_eq_false_of_isDigit digit
  · decide

theorem trimStart_integerText (number : Int) :
    Text.trimStart (integerText number) = integerText number := by
  cases text : integerText number with
  | nil => rfl
  | cons first rest =>
      have member : first ∈ integerText number := by
        rw [text]
        exact List.mem_cons_self
      exact Text.trimStart_append_cons (isBlank_eq_false_of_mem_integerText member) [] rest

theorem exactWord?_toInt (number : Int64) : exactWord? number.toInt = some number := by
  have lower := number.le_toInt
  have upper := number.toInt_lt
  have fits : fitsWord number.toInt = true := by
    rw [fitsWord, Bool.and_eq_true, decide_eq_true_iff, decide_eq_true_iff]
    unfold wordBound
    omega
  rw [exactWord?, if_pos fits, Int64.ofInt_toInt]

theorem toInt_ofDigits_toDigits (number : Int) :
    (Numeral.ofDigits (decide (number < 0)) (Nat.toDigits 10 number.natAbs) [] 0).toInt =
      number := by
  simp only [Numeral.ofDigits, Numeral.toInt, List.append_nil, Nat.ofDigitChars_ten_toDigits,
    decide_eq_true_eq]
  split <;> omega

theorem leadingInteger_integerText (number : Int64) :
    leadingInteger (integerText number.toInt) = number := by
  have cut : cutSign (integerText number.toInt) =
      (decide (number.toInt < 0), Nat.toDigits 10 number.toInt.natAbs) := by
    rw [integerText]
    split
    · rename_i negative
      simp [cutSign, negative]
    · rename_i notNegative
      simp [cutSign_toDigits, notNegative]
  rw [leadingInteger, trimStart_integerText, cut]
  simp only [cutDigits_toDigits, toInt_ofDigits_toDigits, exactWord?_toInt, Option.getD_some]

end BroadcastScenes.Decimal
