import BroadcastScenes.Json.Reader
import BroadcastScenes.Proofs.Decimal.Digits

/-!
# Number literals

A literal is written as its sign, its digits, and its power of ten with a sign of its own. Read from
there on, the text gives the same literal and leaves what follows, as long as that does not go on
with the number.
-/

namespace BroadcastScenes.Json

def EndsNumber (rest : List Char) : Prop :=
  ∀ c, rest.head? = some c → c.isDigit = false ∧ c ≠ '.' ∧ c ≠ 'e' ∧ c ≠ 'E'

theorem endsNumber_nil : EndsNumber [] := by
  intro c head
  cases head

theorem EndsNumber.ends {rest : List Char} (endsNumber : EndsNumber rest) :
    ∀ c, rest.head? = some c → c.isDigit = false := fun c head => (endsNumber c head).1

namespace Literal

def signText : Bool → List Char
  | true => ['-']
  | false => []

def fractionText : Option (List Char) → List Char
  | none => []
  | some digits => '.' :: digits

def exponentText : Option Int → List Char
  | none => []
  | some exponent => 'e' :: (if exponent < 0 then '-' else '+') :: Nat.toDigits 10 exponent.natAbs

def text (literal : Literal) : List Char :=
  signText literal.negative ++ literal.whole ++ fractionText literal.fraction ++
    exponentText literal.exponent

structure IsWellFormed (literal : Literal) : Prop where
  whole : Decimal.IsWholePart literal.whole
  fraction : ∀ digits, literal.fraction = some digits →
    digits ≠ [] ∧ ∀ c ∈ digits, c.isDigit = true

def numeral (literal : Literal) : Decimal.Numeral :=
  .ofDigits literal.negative literal.whole (literal.fraction.getD []) (literal.exponent.getD 0)

theorem takeExponent?_text (exponent : Option Int) {rest : List Char} (ends : EndsNumber rest) :
    takeExponent? (exponentText exponent ++ rest) = some (exponent, rest) := by
  cases exponent with
  | none =>
      cases rest with
      | nil => rfl
      | cons first more =>
          have bounds := ends first rfl
          rw [exponentText, List.nil_append, takeExponent?,
            if_neg (not_or.mpr ⟨bounds.2.2.1, bounds.2.2.2⟩)]
  | some exponent =>
      have digits := Decimal.cutDigits_append
        (Decimal.isWholePart_toDigits exponent.natAbs).digits ends.ends
      have sign : Decimal.cutSign
          ((if exponent < 0 then '-' else '+') :: (Nat.toDigits 10 exponent.natAbs ++ rest)) =
          (decide (exponent < 0), Nat.toDigits 10 exponent.natAbs ++ rest) := by
        split
        · rename_i isNegative
          rw [decide_eq_true isNegative]
          rfl
        · rename_i isNotNegative
          rw [decide_eq_false isNotNegative]
          rfl
      have value := Decimal.toInt_ofDigits_toDigits exponent
      rw [exponentText, List.cons_append, List.cons_append, takeExponent?,
        if_pos (.inl rfl), sign]
      dsimp only
      rw [digits]
      cases text : Nat.toDigits 10 exponent.natAbs with
      | nil => exact absurd text Nat.toDigits_ne_nil
      | cons first more =>
          rw [text] at value
          dsimp only
          rw [value]

theorem takeFraction?_text {fraction : Option (List Char)}
    (isDigits : ∀ digits, fraction = some digits →
      digits ≠ [] ∧ ∀ c ∈ digits, c.isDigit = true) {rest : List Char}
    (ends : ∀ c, rest.head? = some c → c.isDigit = false ∧ c ≠ '.') :
    takeFraction? (fractionText fraction ++ rest) = some (fraction, rest) := by
  cases fraction with
  | none =>
      rw [fractionText, List.nil_append]
      unfold takeFraction?
      split
      · exact absurd rfl (ends '.' rfl).2
      · rfl
  | some digits =>
      rcases isDigits digits rfl with ⟨notEmpty, areDigits⟩
      rw [fractionText, List.cons_append, takeFraction?,
        Decimal.cutDigits_append areDigits fun c head => (ends c head).1]
      cases digits with
      | nil => exact absurd rfl notEmpty
      | cons first more => rfl

theorem cutWhole_append {whole rest : List Char} (isWholePart : Decimal.IsWholePart whole)
    (ends : ∀ c, rest.head? = some c → c.isDigit = false) :
    cutWhole (whole ++ rest) = (whole, rest) := by
  unfold cutWhole
  split
  · rename_i more equal
    have leading : whole.head? = some '0' := by
      rw [← List.head?_append_of_ne_nil _ isWholePart.notEmpty, equal]
      rfl
    rw [isWholePart.leading leading] at equal ⊢
    obtain rfl : rest = more := (List.cons.inj equal).2
    rfl
  · exact Decimal.cutDigits_append isWholePart.digits ends

theorem cutMinus_append (negative : Bool) {whole : List Char}
    (isWholePart : Decimal.IsWholePart whole) (rest : List Char) :
    cutMinus (signText negative ++ (whole ++ rest)) = (negative, whole ++ rest) := by
  cases negative with
  | true => rfl
  | false =>
      cases whole with
      | nil => exact absurd rfl isWholePart.notEmpty
      | cons first more =>
          change cutMinus (first :: (more ++ rest)) = _
          unfold cutMinus
          split
          · rename_i equal
            have digit := isWholePart.digits first List.mem_cons_self
            rw [(List.cons.inj equal).1] at digit
            cases digit
          · rfl

theorem takeLiteral?_text {literal : Literal} (isWellFormed : literal.IsWellFormed)
    {rest : List Char} (ends : EndsNumber rest) :
    takeLiteral? (literal.text ++ rest) = some (literal, rest) := by
  have exponentEnds : ∀ c, (exponentText literal.exponent ++ rest).head? = some c →
      c.isDigit = false ∧ c ≠ '.' := by
    intro c head
    cases exponent : literal.exponent with
    | none =>
        rw [exponent] at head
        exact ⟨(ends c head).1, (ends c head).2.1⟩
    | some power =>
        rw [exponent] at head
        obtain rfl := Option.some.inj head
        decide
  have fractionEnds : ∀ c, (fractionText literal.fraction ++
      (exponentText literal.exponent ++ rest)).head? = some c → c.isDigit = false := by
    intro c head
    cases fraction : literal.fraction with
    | none =>
        rw [fraction] at head
        exact (exponentEnds c head).1
    | some digits =>
        rw [fraction] at head
        obtain rfl := Option.some.inj head
        rfl
  have split : literal.text ++ rest = signText literal.negative ++
      (literal.whole ++ (fractionText literal.fraction ++
        (exponentText literal.exponent ++ rest))) := by
    simp only [text, List.append_assoc]
  have someDigits : literal.whole.isEmpty = false :=
    List.isEmpty_eq_false_iff.mpr isWellFormed.whole.notEmpty
  rw [split, takeLiteral?, cutMinus_append _ isWellFormed.whole]
  dsimp only
  rw [cutWhole_append isWellFormed.whole fractionEnds]
  dsimp only
  rw [someDigits, takeFraction?_text isWellFormed.fraction exponentEnds]
  dsimp only [Bool.false_eq_true, if_false, Option.bind_eq_bind, Option.bind_some]
  rw [takeExponent?_text _ ends]
  rfl

theorem exists_integerText (number : Int64) :
    ∃ literal : Literal, literal.IsWellFormed ∧ literal.text = Decimal.integerText number.toInt ∧
      literal.meaning? = some (.integer number) := by
  refine ⟨⟨decide (number.toInt < 0), Nat.toDigits 10 number.toInt.natAbs, none, none⟩,
    ⟨Decimal.isWholePart_toDigits _, fun digits none => by cases none⟩, ?_, ?_⟩
  · rw [Decimal.integerText, text]
    by_cases isNegative : number.toInt < 0
    · simp [isNegative, signText, fractionText, exponentText]
    · simp [isNegative, signText, fractionText, exponentText]
  · have value := Decimal.toInt_ofDigits_toDigits number.toInt
    have hasNoSignedZero : (decide (number.toInt < 0) && number.toInt.natAbs == 0) = false := by
      by_cases isNegative : number.toInt < 0
      · have notZero : number.toInt.natAbs ≠ 0 := by omega
        rw [beq_false_of_ne notZero, Bool.and_false]
      · rw [decide_eq_false isNegative, Bool.false_and]
    rw [meaning?]
    simp only [Option.getD_none, Option.isSome_none, Bool.or_self, Bool.false_eq_true, if_false,
      value, Decimal.exactWord?_toInt]
    rw [if_neg]
    rw [Decimal.Numeral.ofDigits, List.append_nil, Nat.ofDigitChars_ten_toDigits,
      Bool.not_eq_true]
    exact hasNoSignedZero

end Literal

end BroadcastScenes.Json
