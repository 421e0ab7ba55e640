import BroadcastScenes.Proofs.Decimal.LeadingDoubles
import BroadcastScenes.Proofs.Decimal.PositionalTexts
import BroadcastScenes.Proofs.Decimal.ReadDecimals
import BroadcastScenes.Proofs.Decimal.ShortestDecimals

/-!
# Plain texts of doubles

In plain text a double is set positionally, and without a point if it is a whole number. A text with
a point is the plain text of a double exactly if it is the shortest decimal that is read as it.
-/

namespace BroadcastScenes.Decimal

theorem IsShortest.significand_pos {tie : Tie} {significand : Nat} {exponent : Int}
    {decimal : Scientific} (isShortest : IsShortest tie significand exponent decimal)
    (isDouble : IsDouble significand exponent) : 0 < significand := by
  rcases Nat.eq_zero_or_pos significand with rfl | positive
  · obtain rfl := isDouble.full.resolve_right (by decide)
    apply absurd isReadAs_zero
    have none := isShortest.noCoarser 0
    rwa [Nat.cast_zero, zero_mul] at none
  · exact positive

/-- The digits before the point and behind it are those of the shortest decimal that is read as the
double, which is neither zero nor infinite. -/
structure IsPlain (number : Float) (whole fraction : List Char) : Prop where
  isPointed : IsPointed whole fraction
  shortest : ∃ significand exponent,
    Binary.ofFloat number = .finite false significand exponent ∧
      IsShortest .away significand exponent (pointed whole fraction)

theorem plain_text (decimal : Scientific) :
    Layout.plain.text decimal = positionalText (Nat.toDigits 10 decimal.digits)
      (decimal.exponent + (Nat.toDigits 10 decimal.digits).length - 1) [] := by
  rw [Layout.text]
  exact if_pos rfl

theorem pointed_eq_of_plain_text {decimal : Scientific} (positive : 0 < decimal.digits)
    {whole fraction : List Char} (text : Layout.plain.text decimal = whole ++ '.' :: fraction) :
    IsPointed whole fraction ∧ pointed whole fraction = decimal := by
  rw [plain_text] at text
  rcases Int.lt_or_le decimal.exponent 0 with places | isWhole
  · rcases exists_pointed_positionalText rfl positive places [] with
      ⟨found, foundFraction, isPointed, equal, set⟩
    have noPoint : '.' ∉ found := fun member => by cases isPointed.whole.digits _ member
    have noOtherPoint : '.' ∉ foundFraction := fun member => by cases isPointed.digits _ member
    rw [set, List.append_cons_inj_of_notMem noPoint noOtherPoint] at text
    rcases text with ⟨rfl, _, rfl⟩
    exact ⟨isPointed, equal⟩
  · rw [positionalText_of_exponent_nonneg rfl isWhole, List.append_nil] at text
    have point : '.' ∈ Nat.toDigits 10 decimal.digits ++
        List.replicate decimal.exponent.toNat '0' := by
      rw [text]
      exact List.mem_append_right _ List.mem_cons_self
    rcases List.mem_append.mp point with digit | zero
    · cases isDigit_of_mem_toDigits digit
    · cases List.eq_of_mem_replicate zero

theorem plain_text_pointed {whole fraction : List Char} (isPointed : IsPointed whole fraction)
    (positive : 0 < (pointed whole fraction).digits) :
    Layout.plain.text (pointed whole fraction) = whole ++ '.' :: fraction := by
  have places : (pointed whole fraction).exponent < 0 := by
    have length := List.length_pos_of_ne_nil isPointed.notEmpty
    change -(fraction.length : Int) < 0
    omega
  rcases exists_pointed_positionalText rfl positive places [] with
    ⟨found, foundFraction, isFoundPointed, equal, set⟩
  rcases eq_of_pointed_eq isFoundPointed isPointed equal with ⟨rfl, rfl⟩
  rw [plain_text, set]

theorem write_plain_eq_iff {number : Float} {whole fraction : List Char}
    (digits : ∀ c ∈ whole, c.isDigit = true) :
    Layout.plain.write number = whole ++ '.' :: fraction ↔ IsPlain number whole fraction := by
  constructor
  · intro written
    have point : '.' ∈ Layout.plain.write number := by
      rw [written]
      exact List.mem_append_right _ List.mem_cons_self
    rw [Layout.write] at written point
    cases taken : Binary.ofFloat number with
    | notANumber =>
        rw [taken] at point
        cases (by decide : '.' ∉ ['N', 'a', 'N']) point
    | infinite negative =>
        rw [taken] at point
        cases negative
        · cases (by decide : '.' ∉ ['i', 'n', 'f']) point
        · cases (by decide : '.' ∉ ['-', 'i', 'n', 'f']) point
    | finite negative significand exponent =>
        rcases Binary.isDouble_of_ofFloat taken with ⟨isDouble, bounded⟩
        rw [taken] at written point
        dsimp only at written point
        cases negative with
        | true =>
            rw [if_pos rfl] at written
            cases whole with
            | nil => cases (List.cons.inj written).1
            | cons first rest =>
                obtain rfl := (List.cons.inj written).1
                cases digits _ List.mem_cons_self
        | false =>
            rw [if_neg Bool.false_ne_true] at written point
            split at written
            · rename_i zero
              rw [if_pos zero] at point
              cases (by decide : '.' ∉ ['0']) point
            · rename_i notZero
              have isShortest := isShortest_shortest .away (Nat.pos_of_ne_zero notZero) isDouble
                bounded
              rcases pointed_eq_of_plain_text
                (isShortest.positive (Nat.pos_of_ne_zero notZero)) written with
                ⟨isPointed, equal⟩
              exact ⟨isPointed, significand, exponent, taken, equal ▸ isShortest⟩
  · intro isPlain
    rcases isPlain with ⟨isPointed, significand, exponent, taken, isShortest⟩
    rcases Binary.isDouble_of_ofFloat taken with ⟨isDouble, bounded⟩
    have positive := isShortest.significand_pos isDouble
    have found := (isShortest_shortest .away positive isDouble bounded).unique isShortest
    rw [Layout.write, taken]
    dsimp only
    rw [if_neg Bool.false_ne_true, if_neg positive.ne']
    change Layout.plain.text (shortest .away significand exponent) = _
    rw [found]
    exact plain_text_pointed isPointed (isShortest.positive positive)

/-! ## Short decimals -/

theorem leadingDouble_pointed {whole fraction : List Char} (isPointed : IsPointed whole fraction) :
    leadingDouble (whole ++ '.' :: fraction) =
      (Numeral.ofDigits false whole fraction 0).toFloat := by
  have isDecimal : IsDecimal (whole ++ '.' :: fraction) :=
    .pointed isPointed.whole.digits isPointed.digits (.inl isPointed.whole.notEmpty)
  have isUnsigned : IsUnsigned (whole ++ '.' :: fraction) := by
    have unsigned := isDecimal.isUnsigned []
    rwa [List.append_nil] at unsigned
  have trimmed : Text.trimStart (whole ++ '.' :: fraction) = whole ++ '.' :: fraction := by
    rcases List.exists_cons_of_ne_nil isPointed.whole.notEmpty with ⟨first, more, rfl⟩
    have digit := isPointed.whole.digits first List.mem_cons_self
    exact Text.trimStart_append_cons (isBlank_eq_false_of_isDigit digit) [] _
  have isNumeral : Literal.unsigned? false (whole ++ '.' :: fraction) =
      some (.ofDigits false whole fraction 0) := by
    have read := unsigned?_pointed false isPointed.whole.digits isPointed.digits
      (.inl isPointed.whole.notEmpty) .none
    rwa [List.append_nil] at read
  have isRead : Literal.read? (whole ++ '.' :: fraction) =
      some (.decimal (.ofDigits false whole fraction 0)) := by
    have sign : cutSign (whole ++ '.' :: fraction) = (false, whole ++ '.' :: fraction) :=
      cutSign_append (.inl rfl) isUnsigned
    rw [Literal.read?, sign]
    dsimp only
    rw [isNumeral]
  exact leadingDouble_of_isNumeral trimmed isDecimal.isNumeral isRead

/-- Two multiples of a step that is wider than the interval around a double are not both read as
it. -/
theorem eq_of_isReadAs_of_lt {significand steps other : Nat} {exponent place : Int}
    (wide : (2 : ℚ) ^ exponent < 10 ^ place)
    (reads : IsReadAs (steps * 10 ^ place) significand exponent)
    (otherReads : IsReadAs (other * 10 ^ place) significand exponent) : steps = other := by
  wlog less : steps ≤ other generalizing steps other
  · exact (this otherReads reads (by omega)).symm
  have unit : (0 : ℚ) < 2 ^ (exponent - 2) := by positivity
  have width : ((Interval.around significand exponent).high : ℚ) ≤
      (Interval.around significand exponent).low + 4 := by
    have quarters : (Interval.around significand exponent).high ≤
        (Interval.around significand exponent).low + 4 := by
      simp only [Interval.around]
      split <;> omega
    exact_mod_cast quarters
  have power : (4 : ℚ) * 2 ^ (exponent - 2) = 2 ^ exponent := by
    rw [zpow_sub₀ two_ne_zero]
    ring
  by_contra different
  have apart : (steps : ℚ) + 1 ≤ other := by
    exact_mod_cast (by omega : steps + 1 ≤ other)
  have step : (0 : ℚ) < 10 ^ place := by positivity
  have far := mul_le_mul_of_nonneg_right apart step.le
  have wider := mul_le_mul_of_nonneg_right width unit.le
  rw [add_mul, power] at wider
  linarith [reads.low_le, otherReads.le_high]

/-- Fifteen digits take up less than the whole significand of a double. -/
theorem wide_of_isReadAs {significand steps : Nat} {exponent place : Int}
    (isDouble : IsDouble significand exponent) (small : steps < 10 ^ 15) (least : -15 ≤ place)
    (reads : IsReadAs (steps * 10 ^ place) significand exponent) :
    (2 : ℚ) ^ exponent < 10 ^ place := by
  have step : (0 : ℚ) < 10 ^ place := by positivity
  rcases isDouble.full with tiny | full
  · rw [tiny]
    calc (2 : ℚ) ^ (-1074 : Int)
        ≤ 2 ^ (-50 : Int) := zpow_le_zpow_right₀ one_le_two (by decide)
      _ < 10 ^ (-15 : Int) := by norm_num
      _ ≤ 10 ^ place := zpow_le_zpow_right₀ (by norm_num) least
  · have unit : (0 : ℚ) < 2 ^ (exponent - 2) := by positivity
    have low : (4 * 10 ^ 15 : ℚ) ≤ (Interval.around significand exponent).low := by
      have quarters : 4 * 10 ^ 15 ≤ (Interval.around significand exponent).low := by
        simp only [Interval.around]
        split <;> omega
      exact_mod_cast quarters
    have power : (4 : ℚ) * 2 ^ (exponent - 2) = 2 ^ exponent := by
      rw [zpow_sub₀ two_ne_zero]
      ring
    have lower := mul_le_mul_of_nonneg_right low unit.le
    have upper : (steps : ℚ) * 10 ^ place < 10 ^ 15 * 10 ^ place :=
      mul_lt_mul_of_pos_right (by exact_mod_cast small) step
    have both : (10 : ℚ) ^ 15 * 2 ^ exponent < 10 ^ 15 * 10 ^ place := by
      rw [← power]
      linarith [reads.low_le]
    exact lt_of_mul_lt_mul_left both (by positivity)

theorem ofDigitChars_mod_ten {whole fraction : List Char} (isPointed : IsPointed whole fraction)
    (lastCounts : fraction.getLast? ≠ some '0') :
    Nat.ofDigitChars 10 (whole ++ fraction) 0 % 10 ≠ 0 := by
  rcases List.eq_nil_or_concat fraction with empty | ⟨front, last, rfl⟩
  · exact absurd empty isPointed.notEmpty
  have digit := isPointed.digits last (by simp)
  rw [List.concat_eq_append, ← List.append_assoc, Nat.ofDigitChars_append, Nat.ofDigitChars_cons,
    Nat.ofDigitChars_nil, Nat.mul_add_mod, Nat.mod_eq_of_lt (digitChar_toNat_sub digit).1]
  intro zero
  have value := (digitChar_toNat_sub digit).2
  rw [zero] at value
  apply lastCounts
  rw [List.concat_eq_append, List.getLast?_append, ← value]
  rfl

/-- A decimal of at most fifteen digits is the plain text of the double that it is read as. -/
theorem isPlain_of_short {whole fraction : List Char} (isPointed : IsPointed whole fraction)
    (lastCounts : fraction.getLast? ≠ some '0') (short : (whole ++ fraction).length ≤ 15) :
    IsPlain (leadingDouble (whole ++ '.' :: fraction)) whole fraction := by
  let numeral : Numeral := .ofDigits false whole fraction 0
  have size : numeral.size = (pointed whole fraction).size := by
    change _ * (10 : ℚ) ^ (0 - (fraction.length : Int)) = _
    rw [zero_sub]
    rfl
  rcases numeral.isNearest_magnitude.exists_ofFloat numeral.size_nonneg with
    ⟨significand, exponent, isDouble, reads, taken⟩
  rw [size] at reads
  have places : fraction.length ≤ 15 := by
    rw [List.length_append] at short
    omega
  have small : (pointed whole fraction).digits < 10 ^ 15 := by
    have digits : ∀ c ∈ whole ++ fraction, c.isDigit = true :=
      List.forall_mem_append.mpr ⟨isPointed.whole.digits, isPointed.digits⟩
    exact (ofDigitChars_lt digits).trans_le (Nat.pow_le_pow_right (by decide) short)
  have wide := wide_of_isReadAs isDouble small (by change -15 ≤ -(fraction.length : Int); omega)
    reads
  have bounded : exponent ≤ 971 := by
    by_contra large
    have power : (2 : ℚ) ^ (0 : Int) ≤ 2 ^ exponent :=
      zpow_le_zpow_right₀ one_le_two (by omega)
    have one : (10 : ℚ) ^ (pointed whole fraction).exponent ≤ 10 ^ (0 : Int) :=
      zpow_le_zpow_right₀ (by norm_num) (by change -(fraction.length : Int) ≤ 0; omega)
    rw [zpow_zero] at power one
    linarith
  rw [if_pos bounded] at taken
  have double : leadingDouble (whole ++ '.' :: fraction) = numeral.magnitude :=
    leadingDouble_pointed isPointed
  refine ⟨isPointed, significand, exponent, double ▸ taken, ⟨reads, ?_⟩, ?_⟩
  · intro other otherReads different
    exact absurd (eq_of_isReadAs_of_lt wide otherReads reads) different
  · intro steps coarseReads
    have finer : (steps : ℚ) * 10 ^ ((pointed whole fraction).exponent + 1) =
        (10 * steps : Nat) * 10 ^ (pointed whole fraction).exponent := by
      rw [zpow_add_one₀ (by norm_num)]
      push_cast
      ring
    rw [finer] at coarseReads
    have tens := eq_of_isReadAs_of_lt wide coarseReads reads
    apply ofDigitChars_mod_ten isPointed lastCounts
    change (pointed whole fraction).digits % 10 = 0
    rw [← tens]
    exact Nat.mul_mod_right 10 steps

end BroadcastScenes.Decimal
