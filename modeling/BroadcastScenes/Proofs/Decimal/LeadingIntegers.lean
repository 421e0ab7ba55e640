import BroadcastScenes.Proofs.Decimal.Digits
import BroadcastScenes.Value.Scalar

/-!
# Integers at the start of a text

An integer may stand behind blanks, with a sign and with zeros in front of its digits, and anything
but a digit may follow. It is read if it fits into a word. A text counts as zero if its integer does
not fit, and if it begins with no integer at all.
-/

namespace BroadcastScenes.Decimal

/-! ## Texts that begin with an integer -/

inductive IsSign (number : Int) : List Char → Prop
  | none (notNegative : 0 ≤ number) : IsSign number []
  | plus (notNegative : 0 ≤ number) : IsSign number ['+']
  | minus (notPositive : number ≤ 0) : IsSign number ['-']

def paddedDigits (zeros number : Nat) : List Char :=
  List.replicate zeros '0' ++ Nat.toDigits 10 number

/-- Blanks, a sign, the digits of the integer with zeros in front of them, and then no further
digit. -/
inductive BeginsWith (number : Int) : List Char → Prop
  | intro {blanks sign rest : List Char} (blank : Text.allBlank blanks = true)
      (isSign : IsSign number sign) (zeros : Nat)
      (ends : ∀ c, rest.head? = some c → c.isDigit = false) :
      BeginsWith number (blanks ++ (sign ++ (paddedDigits zeros number.natAbs ++ rest)))

def IsOptionalSign (sign : List Char) : Prop := sign = [] ∨ sign = ['+'] ∨ sign = ['-']

inductive HasDigits : List Char → Prop
  | intro {blanks sign : List Char} {digit : Char} (blank : Text.allBlank blanks = true)
      (isSign : IsOptionalSign sign) (isDigit : digit.isDigit = true) (rest : List Char) :
      HasDigits (blanks ++ (sign ++ digit :: rest))

def IsOutOfRange (number : Int) : Prop :=
  number < Int64.minValue.toInt ∨ Int64.maxValue.toInt < number

def leadingNumber (text : List Char) : Int :=
  let (negative, unsigned) := cutSign (Text.trimStart text)
  (Numeral.ofDigits negative (cutDigits unsigned).1 [] 0).toInt

theorem leadingInteger_eq (text : List Char) :
    leadingInteger text = (exactWord? (leadingNumber text)).getD 0 := rfl

/-! ## Signs -/

variable {blanks sign digits rest text : List Char} {number : Int}

theorem IsSign.isOptionalSign (isSign : IsSign number sign) : IsOptionalSign sign := by
  cases isSign with
  | none => exact .inl rfl
  | plus => exact .inr (.inl rfl)
  | minus => exact .inr (.inr rfl)

theorem IsSign.signed_natAbs (isSign : IsSign number sign) :
    (if sign = ['-'] then -(number.natAbs : Int) else number.natAbs) = number := by
  cases isSign with
  | none notNegative => exact Int.natAbs_of_nonneg notNegative
  | plus notNegative => exact Int.natAbs_of_nonneg notNegative
  | minus notPositive => simp [Int.ofNat_natAbs_of_nonpos notPositive]

theorem IsOptionalSign.exists_isSign (isSign : IsOptionalSign sign) (magnitude : Nat) :
    ∃ number : Int, IsSign number sign ∧ number.natAbs = magnitude := by
  rcases isSign with rfl | rfl | rfl
  · exact ⟨magnitude, .none (by omega), rfl⟩
  · exact ⟨magnitude, .plus (by omega), rfl⟩
  · exact ⟨-magnitude, .minus (by omega), Int.natAbs_neg _⟩

theorem cutSign_trimStart {digit : Char} (blank : Text.allBlank blanks = true)
    (isSign : IsOptionalSign sign) (isDigit : digit.isDigit = true) (rest : List Char) :
    cutSign (Text.trimStart (blanks ++ (sign ++ digit :: rest))) =
      (decide (sign = ['-']), digit :: rest) := by
  have digitNotBlank := isBlank_eq_false_of_isDigit isDigit
  rw [Text.trimStart_append_of_allBlank blank]
  rcases isSign with rfl | rfl | rfl
  · rw [List.nil_append, ← List.nil_append (digit :: rest),
      Text.trimStart_append_cons digitNotBlank]
    exact cutSign_of_isDigit isDigit rest
  · exact congrArg cutSign (Text.trimStart_append_cons (c := '+') (by decide) [] _)
  · exact congrArg cutSign (Text.trimStart_append_cons (c := '-') (by decide) [] _)

theorem exists_sign_append_cutSign (text : List Char) :
    ∃ sign, IsOptionalSign sign ∧ text = sign ++ (cutSign text).2 := by
  unfold cutSign
  split
  · exact ⟨['-'], .inr (.inr rfl), rfl⟩
  · exact ⟨['+'], .inr (.inl rfl), rfl⟩
  · exact ⟨[], .inl rfl, rfl⟩

/-! ## Digits with zeros in front -/

theorem isDigit_of_mem_paddedDigits {zeros magnitude : Nat} {c : Char}
    (member : c ∈ paddedDigits zeros magnitude) : c.isDigit = true := by
  rcases List.mem_append.mp member with zero | digit
  · rw [List.eq_of_mem_replicate zero]
    rfl
  · exact isDigit_of_mem_toDigits digit

theorem paddedDigits_ne_nil (zeros magnitude : Nat) : paddedDigits zeros magnitude ≠ [] :=
  List.append_ne_nil_of_right_ne_nil _ Nat.toDigits_ne_nil

theorem ofDigitChars_paddedDigits (zeros magnitude : Nat) :
    Nat.ofDigitChars 10 (paddedDigits zeros magnitude) 0 = magnitude := by
  rw [paddedDigits, Nat.ofDigitChars_append, Nat.ofDigitChars_replicate_zero, Nat.mul_zero,
    Nat.ofDigitChars_ten_toDigits]

theorem exists_eq_paddedDigits (isDigits : ∀ c ∈ digits, c.isDigit = true) (filled : digits ≠ []) :
    ∃ zeros, digits = paddedDigits zeros (Nat.ofDigitChars 10 digits 0) := by
  induction digits with
  | nil => exact absurd rfl filled
  | cons first rest induction =>
      -- The zero of a zero is its only digit, and no zero that could be left out.
      by_cases more : first = '0' ∧ rest ≠ []
      · rcases more with ⟨rfl, restFilled⟩
        rcases induction (fun c member => isDigits c (List.mem_cons_of_mem _ member)) restFilled
          with ⟨zeros, split⟩
        refine ⟨zeros + 1, ?_⟩
        have value : Nat.ofDigitChars 10 ('0' :: rest) 0 = Nat.ofDigitChars 10 rest 0 := by
          rw [Nat.ofDigitChars_cons]
          rfl
        rw [value, paddedDigits, List.replicate_succ, List.cons_append, ← paddedDigits, ← split]
      · have isWholePart : IsWholePart (first :: rest) := by
          refine ⟨isDigits, List.cons_ne_nil _ _, ?_⟩
          intro leading
          obtain rfl : first = '0' := Option.some.inj leading
          rw [not_and_not_right.mp more rfl]
        exact ⟨0, (toDigits_ofDigitChars isWholePart).symm⟩

/-! ## The leading number -/

theorem leadingNumber_append (blank : Text.allBlank blanks = true) (isSign : IsOptionalSign sign)
    (isDigits : ∀ c ∈ digits, c.isDigit = true) (filled : digits ≠ [])
    (ends : ∀ c, rest.head? = some c → c.isDigit = false) :
    leadingNumber (blanks ++ (sign ++ (digits ++ rest))) =
      if sign = ['-'] then -(Nat.ofDigitChars 10 digits 0 : Int)
      else Nat.ofDigitChars 10 digits 0 := by
  have cut := cutDigits_append isDigits ends
  rcases List.exists_cons_of_ne_nil filled with ⟨digit, more, rfl⟩
  rw [List.cons_append] at cut
  rw [leadingNumber, List.cons_append,
    cutSign_trimStart blank isSign (isDigits digit List.mem_cons_self)]
  simp [cut, Numeral.ofDigits, Numeral.toInt]

/-- A text begins with one integer at most. -/
theorem BeginsWith.leadingNumber_eq (begins : BeginsWith number text) :
    leadingNumber text = number := by
  cases begins with
  | intro blank isSign zeros ends =>
      rw [leadingNumber_append blank isSign.isOptionalSign (fun _ => isDigit_of_mem_paddedDigits)
        (paddedDigits_ne_nil _ _) ends, ofDigitChars_paddedDigits]
      exact isSign.signed_natAbs

theorem BeginsWith.hasDigits (begins : BeginsWith number text) : HasDigits text := by
  cases begins with
  | @intro _ _ rest blank isSign zeros _ =>
      rcases List.exists_cons_of_ne_nil (paddedDigits_ne_nil zeros number.natAbs) with
        ⟨digit, more, split⟩
      have isDigit : digit.isDigit = true :=
        isDigit_of_mem_paddedDigits (split ▸ List.mem_cons_self)
      rw [split]
      exact .intro blank isSign.isOptionalSign isDigit (more ++ rest)

theorem HasDigits.exists_beginsWith (hasDigits : HasDigits text) :
    ∃ number, BeginsWith number text := by
  cases hasDigits with
  | @intro _ _ digit blank isSign isDigit rest =>
      have filled : (digit :: rest).takeWhile Char.isDigit ≠ [] := by
        rw [List.takeWhile_cons_of_pos isDigit]
        exact List.cons_ne_nil _ _
      have ends : ∀ c, ((digit :: rest).dropWhile Char.isDigit).head? = some c →
          c.isDigit = false := by
        intro c first
        have stops := List.head?_dropWhile_not Char.isDigit (digit :: rest)
        rw [first] at stops
        exact stops
      rcases exists_eq_paddedDigits (fun _ => List.mem_takeWhile_imp) filled with ⟨zeros, split⟩
      rcases isSign.exists_isSign
          (Nat.ofDigitChars 10 ((digit :: rest).takeWhile Char.isDigit) 0) with
        ⟨number, numberIsSign, magnitude⟩
      have begins := BeginsWith.intro blank numberIsSign zeros ends
      rw [magnitude, ← split, List.takeWhile_append_dropWhile] at begins
      exact ⟨number, begins⟩

theorem leadingNumber_of_not_hasDigits (lacks : ¬ HasDigits text) : leadingNumber text = 0 := by
  have noDigits : (cutDigits (cutSign (Text.trimStart text)).2).1 = [] := by
    rcases exists_sign_append_cutSign (Text.trimStart text) with ⟨sign, isSign, signed⟩
    cases unsigned : (cutSign (Text.trimStart text)).2 with
    | nil => rfl
    | cons first rest =>
        apply List.takeWhile_cons_of_neg
        intro isDigit
        have blank : Text.allBlank (text.takeWhile Text.isBlank) = true :=
          List.all_takeWhile
        have begins := HasDigits.intro blank isSign isDigit rest
        rw [← unsigned, ← signed, Text.trimStart, List.takeWhile_append_dropWhile] at begins
        exact lacks begins
  rw [leadingNumber]
  simp [noDigits, Numeral.ofDigits, Numeral.toInt]

/-! ## Words -/

theorem isOutOfRange_iff_not_fitsWord (number : Int) :
    IsOutOfRange number ↔ ¬ fitsWord number = true := by
  have lowest : Int64.minValue.toInt = -wordBound := rfl
  have highest : Int64.maxValue.toInt = wordBound - 1 := rfl
  rw [IsOutOfRange, fitsWord, Bool.and_eq_true, decide_eq_true_iff, decide_eq_true_iff]
  omega

theorem exactWord?_eq_none {number : Int} (outside : IsOutOfRange number) :
    exactWord? number = none :=
  if_neg ((isOutOfRange_iff_not_fitsWord number).mp outside)

theorem isOutOfRange_or_exists_word (number : Int) :
    IsOutOfRange number ∨ ∃ word : Int64, word.toInt = number := by
  by_cases fits : fitsWord number = true
  · have bounds := fits
    rw [fitsWord, Bool.and_eq_true, decide_eq_true_iff, decide_eq_true_iff] at bounds
    exact .inr ⟨Int64.ofInt number, Int64.toInt_ofInt_of_le bounds.1 bounds.2⟩
  · exact .inl ((isOutOfRange_iff_not_fitsWord number).mpr fits)

theorem not_isOutOfRange_toInt (word : Int64) : ¬ IsOutOfRange word.toInt := by
  intro outside
  have missing := exactWord?_eq_none outside
  rw [exactWord?_toInt] at missing
  cases missing

/-- The texts that begin with no word are those without digits and those whose digits denote an
integer out of range. -/
theorem forall_not_beginsWith_word_iff (text : List Char) :
    (∀ word : Int64, ¬ BeginsWith word.toInt text) ↔
      ¬ HasDigits text ∨ ∃ number, BeginsWith number text ∧ IsOutOfRange number := by
  constructor
  · intro noWord
    by_cases hasDigits : HasDigits text
    · rcases hasDigits.exists_beginsWith with ⟨number, begins⟩
      rcases isOutOfRange_or_exists_word number with outside | ⟨word, rfl⟩
      · exact .inr ⟨number, begins, outside⟩
      · exact absurd begins (noWord word)
    · exact .inl hasDigits
  · rintro (lacks | ⟨number, begins, outside⟩) word wordBegins
    · exact lacks wordBegins.hasDigits
    · have same := begins.leadingNumber_eq.symm.trans wordBegins.leadingNumber_eq
      exact not_isOutOfRange_toInt word (same ▸ outside)

theorem leadingInteger_of_beginsWith {word : Int64} (begins : BeginsWith word.toInt text) :
    leadingInteger text = word := by
  rw [leadingInteger_eq, begins.leadingNumber_eq, exactWord?_toInt, Option.getD_some]

theorem leadingInteger_eq_zero (noWord : ∀ word : Int64, ¬ BeginsWith word.toInt text) :
    leadingInteger text = 0 := by
  rw [leadingInteger_eq]
  rcases (forall_not_beginsWith_word_iff text).mp noWord with lacks | ⟨number, begins, outside⟩
  · rw [leadingNumber_of_not_hasDigits lacks]
    rfl
  · rw [begins.leadingNumber_eq, exactWord?_eq_none outside]
    rfl

/-- A text that begins with a word is read as that word, and every other text as zero. The others
are those that have no digits behind their blanks and their sign, and those whose digits denote an
integer out of range. An integer is therefore read back from its own text. -/
theorem leading_integers_are_read (text : List Char) :
    (∀ word : Int64, BeginsWith word.toInt text → leadingInteger text = word) ∧
      ((∀ word : Int64, ¬ BeginsWith word.toInt text) → leadingInteger text = 0) ∧
      ((∀ word : Int64, ¬ BeginsWith word.toInt text) ↔
        ¬ HasDigits text ∨ ∃ number, BeginsWith number text ∧ IsOutOfRange number) ∧
      ∀ word : Int64, (Value.string (Value.integer word).text).integer? = some word := by
  refine ⟨fun _ => leadingInteger_of_beginsWith, leadingInteger_eq_zero,
    forall_not_beginsWith_word_iff text, ?_⟩
  intro word
  rw [Value.text, Value.integer?, String.toList_ofList, leadingInteger_integerText]

theorem leading_integers_are_read_at_bounds :
    BeginsWith Int64.minValue.toInt "\u3000\t-009223372036854775808px".toList ∧
      leadingInteger "\u3000\t-009223372036854775808px".toList = Int64.minValue ∧
      BeginsWith 9223372036854775808 "+9223372036854775808".toList ∧
      (∀ word : Int64, ¬ BeginsWith word.toInt "+9223372036854775808".toList) ∧
      leadingInteger "+9223372036854775808".toList = 0 := by
  have lowest : BeginsWith Int64.minValue.toInt "\u3000\t-009223372036854775808px".toList :=
    @BeginsWith.intro _ ['\u3000', '\t'] ['-'] ['p', 'x'] (by decide) (.minus (by decide)) 2
      (by simp)
  have above : BeginsWith 9223372036854775808 "+9223372036854775808".toList :=
    @BeginsWith.intro _ [] ['+'] [] (by decide) (.plus (by decide)) 0 (by simp)
  rcases leading_integers_are_read "+9223372036854775808".toList with ⟨_, zero, noWord_iff, _⟩
  have noWord := noWord_iff.mpr (.inr ⟨_, above, .inr (by decide)⟩)
  exact ⟨lowest, (leading_integers_are_read _).1 _ lowest, above, noWord, zero noWord⟩

end BroadcastScenes.Decimal
