import BroadcastScenes.Decimal.Leading
import BroadcastScenes.Proofs.Decimal.NumberFronts

/-!
# Doubles at the start of a text

The bytes that are scanned for a double are those of the longest number that the text begins with.
They end between two characters, and what they encode is a literal. A text that has a digit where
its number would be is therefore never read as zero for want of a literal.
-/

namespace BroadcastScenes.Decimal

open Text (IsAscii bytes bytes_append bytes_cons_of_ascii exists_bytes_cons_of_not_ascii
  head?_bytes_eq_iff toNat_toUInt8_of_ascii)

/-! ## Characters of a number -/

variable {sign run exponent text : List Char}

theorem toNat_lt_of_isDigit {c : Char} (isDigit : c.isDigit = true) : c.toNat < 128 := by
  have nine : '9'.toNat < 128 := by decide
  exact Nat.lt_of_le_of_lt (Char.isDigit_iff_toNat.mp isDigit).2 nine

theorem IsOptionalSign.isAscii (isSign : IsOptionalSign sign) : IsAscii sign := by
  intro c member
  rcases isSign with rfl | rfl | rfl
  · cases member
  · rw [List.mem_singleton.mp member]
    decide
  · rw [List.mem_singleton.mp member]
    decide

theorem IsRun.isAscii (isRun : IsRun run) : IsAscii run := by
  intro c member
  rcases isRun.characters c member with isDigit | rfl
  · exact toNat_lt_of_isDigit isDigit
  · decide

theorem IsExponent.isAscii (isExponent : IsExponent exponent) : IsAscii exponent := by
  cases isExponent with
  | none => nofun
  | @marked mark _ _ isMark isSign isDigits _ =>
      have isDigitsAscii := fun c member => toNat_lt_of_isDigit (isDigits c member)
      refine List.forall_mem_cons.mpr
        ⟨?_, List.forall_mem_append.mpr ⟨isSign.isAscii, isDigitsAscii⟩⟩
      rcases isMark with rfl | rfl <;> decide

theorem isAscii_signFront (text : List Char) : IsAscii (signFront text) :=
  (isOptionalSign_signFront text).isAscii

theorem isAscii_signedRunFront (text : List Char) : IsAscii (signedRunFront text) :=
  List.forall_mem_append.mpr ⟨isAscii_signFront text, (isRun_runFront _).isAscii⟩

theorem isAscii_numeralFront (text : List Char) : IsAscii (numeralFront text) :=
  List.forall_mem_append.mpr
    ⟨isAscii_signedRunFront text, (isExponent_exponentFront _).isAscii⟩

/-! ## Scanning bytes -/

theorem isDigitByte_iff (byte : UInt8) :
    isDigitByte byte = true ↔ 48 ≤ byte.toNat ∧ byte.toNat ≤ 57 := by
  rw [isDigitByte, Bool.and_eq_true, decide_eq_true_iff, decide_eq_true_iff, UInt8.le_iff_toNat_le,
    UInt8.le_iff_toNat_le]
  rfl

/-- The first byte of a character tells whether it is a digit or a point, and with either of them
the character ends. -/
theorem exists_first_byte (c : Char) (rest : List Char) :
    ∃ first more, bytes (c :: rest) = first :: more ∧ isDigitByte first = c.isDigit ∧
      (first = '.'.toUInt8 ↔ c = '.') ∧ (c.isDigit = true ∨ c = '.' → more = bytes rest) := by
  have point := head?_bytes_eq_iff '.' (by decide) (c :: rest)
  have zero : '0'.toNat = 48 := rfl
  have nine : '9'.toNat = 57 := rfl
  rcases Nat.lt_or_ge c.toNat 128 with ascii | notAscii
  · have split := bytes_cons_of_ascii ascii rest
    rw [split, List.head?_cons, List.head?_cons, Option.some_inj, Option.some_inj] at point
    refine ⟨_, _, split, ?_, point, fun _ => rfl⟩
    rw [Bool.eq_iff_iff, isDigitByte_iff, toNat_toUInt8_of_ascii ascii, Char.isDigit_iff_toNat,
      zero, nine]
  · rcases exists_bytes_cons_of_not_ascii notAscii rest with ⟨first, more, split, large⟩
    rw [split, List.head?_cons, List.head?_cons, Option.some_inj, Option.some_inj] at point
    have noDigit : c.isDigit = false := by
      rw [← Bool.not_eq_true, Char.isDigit_iff_toNat]
      omega
    refine ⟨first, more, split, ?_, point, ?_⟩
    · rw [noDigit, ← Bool.not_eq_true, isDigitByte_iff]
      omega
    · rintro (isDigit | rfl)
      · rw [noDigit] at isDigit
        cases isDigit
      · exact absurd notAscii (by decide)

theorem run_bytes (scan : Scan) (text : List Char) :
    (scan.run (bytes text)).stop = scan.stop + (runFront scan.seenPoint text).length ∧
      (scan.run (bytes text)).seenDigit =
        (scan.seenDigit || (runFront scan.seenPoint text).any Char.isDigit) := by
  induction text generalizing scan with
  | nil => exact ⟨rfl, (Bool.or_false _).symm⟩
  | cons c rest induction =>
      rcases exists_first_byte c rest with ⟨first, more, split, digit, point, ends⟩
      rw [split, Scan.run, runFront, digit]
      by_cases isDigit : c.isDigit = true
      · rcases induction { scan with stop := scan.stop + 1, seenDigit := true } with
          ⟨stop, seenDigit⟩
        rw [if_pos isDigit, if_pos isDigit, ends (.inl isDigit), stop, seenDigit]
        exact ⟨by simp only [List.length_cons]; omega, by simp [isDigit]⟩
      · rw [if_neg isDigit, if_neg isDigit]
        by_cases isPoint : c = '.' ∧ scan.seenPoint = false
        · rcases induction { scan with stop := scan.stop + 1, seenPoint := true } with
            ⟨stop, seenDigit⟩
          rw [if_pos isPoint, if_pos ⟨point.mpr isPoint.1, isPoint.2⟩, ends (.inr isPoint.1), stop,
            seenDigit]
          exact ⟨by simp only [List.length_cons]; omega, by simp [isDigit]⟩
        · rw [if_neg isPoint, if_neg fun isByte => isPoint ⟨point.mp isByte.1, isByte.2⟩]
          exact ⟨rfl, (Bool.or_false _).symm⟩

theorem length_takeWhile_isDigitByte (text : List Char) :
    ((bytes text).takeWhile isDigitByte).length = (cutDigits text).1.length := by
  rw [cutDigits]
  induction text with
  | nil => rfl
  | cons c rest induction =>
      rcases exists_first_byte c rest with ⟨first, more, split, digit, _, ends⟩
      rw [split, List.takeWhile_cons, List.takeWhile_cons, digit]
      by_cases isDigit : c.isDigit = true
      · rw [if_pos isDigit, if_pos isDigit, ends (.inl isDigit), List.length_cons, induction,
          List.length_cons]
      · rw [if_neg isDigit, if_neg isDigit, List.length_nil, List.length_nil]

/-! ## The end of a number -/

theorem exponentStart_append (front behind : List UInt8) :
    exponentStart (front ++ behind) front.length = front.length + exponentStart behind 0 := by
  have sign : (front ++ behind)[front.length + 1]? = behind[0 + 1]? := by
    rw [List.getElem?_append_right (Nat.le_add_right _ _), Nat.add_sub_cancel_left]
  simp only [exponentStart, sign]
  split <;> rfl

/-- Bytes in front do not matter for the power of ten behind them. -/
theorem exponentEnd_append (front behind : List UInt8) :
    exponentEnd (front ++ behind) front.length = front.length + exponentEnd behind 0 := by
  have mark : (front ++ behind)[front.length]? = behind[0]? := by
    rw [List.getElem?_append_right (Nat.le_refl _), Nat.sub_self]
  simp only [exponentEnd, mark, exponentStart_append, ← List.drop_eq_drop_min,
    List.drop_length_add_append]
  split
  · split
    · rw [Nat.add_assoc]
    · rfl
  · rfl

theorem drop_signFront (text : List Char) :
    (bytes text).drop (signFront text).length = bytes (cutSign text).2 := by
  have length := (isAscii_signFront text).length_bytes
  have whole := congrArg bytes (signFront_append_cutSign text)
  rw [bytes_append] at whole
  rw [← whole]
  exact List.drop_left' length

theorem length_signFront (text : List Char) :
    (signFront text).length =
      if text.head? = some '+' ∨ text.head? = some '-' then 1 else 0 := by
  rw [signFront]
  split
  · rename_i signed
    cases text with
    | nil => simp at signed
    | cons c rest => rfl
  · rfl

theorem getElem?_bytes_zero_iff (mark other : Char) (markAscii : mark.toNat < 128)
    (otherAscii : other.toNat < 128) (text : List Char) :
    ((bytes text)[0]? = some mark.toUInt8 ∨ (bytes text)[0]? = some other.toUInt8) ↔
      text.head? = some mark ∨ text.head? = some other := by
  rw [← List.head?_eq_getElem?, head?_bytes_eq_iff mark markAscii,
    head?_bytes_eq_iff other otherAscii]

theorem exponentStart_bytes {mark : Char} (markAscii : mark.toNat < 128) (rest : List Char) :
    exponentStart (bytes (mark :: rest)) 0 = (signFront rest).length + 1 := by
  have signIff := getElem?_bytes_zero_iff '+' '-' (by decide) (by decide) rest
  simp only [exponentStart, bytes_cons_of_ascii markAscii, List.getElem?_cons_succ, signIff,
    length_signFront]
  split <;> rfl

theorem exponentEnd_bytes (text : List Char) :
    exponentEnd (bytes text) 0 = (exponentFront text).length := by
  cases text with
  | nil => rfl
  | cons mark rest =>
      have markIff := getElem?_bytes_zero_iff 'e' 'E' (by decide) (by decide) (mark :: rest)
      rw [List.head?_cons, Option.some_inj, Option.some_inj] at markIff
      rw [exponentEnd, exponentFront]
      by_cases isMark : mark = 'e' ∨ mark = 'E'
      · have markAscii : mark.toNat < 128 := by rcases isMark with rfl | rfl <;> decide
        have start := exponentStart_bytes markAscii rest
        have digits : (bytes (mark :: rest)).drop ((signFront rest).length + 1) =
            bytes (cutSign rest).2 := by
          rw [bytes_cons_of_ascii markAscii, List.drop_succ_cons, drop_signFront]
        rw [if_pos (markIff.mpr isMark), start]
        dsimp only
        rw [← List.drop_eq_drop_min, digits, length_takeWhile_isDigitByte]
        by_cases empty : (cutDigits (cutSign rest).2).1 = []
        · rw [empty, if_neg (by decide), if_neg fun parts => parts.2 rfl, List.length_nil]
        · rw [if_pos (List.length_pos_of_ne_nil empty), if_pos ⟨isMark, empty⟩, List.length_cons,
            List.length_append]
          omega
      · rw [if_neg fun found => isMark (markIff.mp found), if_neg fun parts => isMark parts.1,
          List.length_nil]

/-- A text has a number in front exactly if there is a digit in the run behind its sign. All bytes
of that number are passed. -/
theorem numberEnd?_eq (text : List Char) :
    numberEnd? text =
      if (runFront false (cutSign text).2).any Char.isDigit then some (numeralFront text).length
      else none := by
  have front := congrArg bytes (signedRunFront_append_behindRun text)
  rw [bytes_append] at front
  have length := (isAscii_signedRunFront text).length_bytes
  rcases run_bytes ⟨(signFront text).length, false, false⟩ (cutSign text).2 with ⟨stop, seenDigit⟩
  have runEnd : exponentEnd (bytes text) (signedRunFront text).length =
      (numeralFront text).length := by
    rw [← front, ← length, exponentEnd_append, exponentEnd_bytes, length, numeralFront,
      List.length_append]
  rw [numberEnd?, ← length_signFront, drop_signFront, stop, seenDigit, Bool.false_or,
    ← List.length_append, ← signedRunFront, runEnd]

theorem takeBytes?_numeralFront (text : List Char) :
    Text.takeBytes? (numeralFront text).length text = some (numeralFront text) :=
  Text.takeBytes?_eq_some_iff.mpr
    ⟨numeralFront_isPrefix text, (isAscii_numeralFront text).length_bytes⟩

/-! ## Numbers as literals -/

theorem IsRun.isDecimal (isRun : IsRun run) (hasDigit : ∃ c ∈ run, c.isDigit = true) :
    IsDecimal run := by
  by_cases pointed : '.' ∈ run
  · rcases List.eq_append_cons_of_mem pointed with ⟨whole, fraction, rfl, notWhole⟩
    have onePoint := isRun.onePoint
    rw [List.count_append, List.count_cons_self] at onePoint
    have notFraction : '.' ∉ fraction := by
      rw [← List.count_eq_zero]
      omega
    have isWhole : IsDigits whole := fun c member =>
      (isRun.characters c (List.mem_append_left _ member)).resolve_right
        fun equal => notWhole (equal ▸ member)
    have isFraction : IsDigits fraction := fun c member =>
      (isRun.characters c (List.mem_append_right _ (List.mem_cons_of_mem _ member))).resolve_right
        fun equal => notFraction (equal ▸ member)
    refine .pointed isWhole isFraction ?_
    rcases hasDigit with ⟨c, member, isDigit⟩
    rcases List.mem_append.mp member with inWhole | behind
    · exact .inl (List.ne_nil_of_mem inWhole)
    · rcases List.mem_cons.mp behind with point | inFraction
      · exact absurd point (ne_point_of_isDigit isDigit)
      · exact .inr (List.ne_nil_of_mem inFraction)
  · refine .whole ?_ ?_
    · exact fun c member =>
        (isRun.characters c member).resolve_right fun equal => pointed (equal ▸ member)
    · rcases hasDigit with ⟨c, member, _⟩
      exact List.ne_nil_of_mem member

theorem IsDigits.count_point {digits : List Char} (isDigits : IsDigits digits) :
    digits.count '.' = 0 :=
  List.count_eq_zero.mpr fun member => ne_point_of_isDigit (isDigits _ member) rfl

theorem IsDecimal.isRun (isDecimal : IsDecimal run) : IsRun run := by
  cases isDecimal with
  | whole isWhole _ =>
      refine ⟨fun c member => .inl (isWhole c member), ?_⟩
      rw [isWhole.count_point]
      exact Nat.zero_le 1
  | pointed isWhole isFraction _ =>
      refine ⟨?_, ?_⟩
      · intro c member
        rcases List.mem_append.mp member with inWhole | behind
        · exact .inl (isWhole c inWhole)
        · exact (List.mem_cons.mp behind).symm.imp_left (isFraction c)
      · rw [List.count_append, List.count_cons_self, isWhole.count_point, isFraction.count_point]

theorem IsDecimal.hasDigit (isDecimal : IsDecimal run) : ∃ c ∈ run, c.isDigit = true := by
  cases isDecimal with
  | whole isWhole filled =>
      rcases List.exists_mem_of_ne_nil _ filled with ⟨c, member⟩
      exact ⟨c, member, isWhole c member⟩
  | pointed isWhole isFraction filled =>
      rcases filled with filled | filled
      · rcases List.exists_mem_of_ne_nil _ filled with ⟨c, member⟩
        exact ⟨c, List.mem_append_left _ member, isWhole c member⟩
      · rcases List.exists_mem_of_ne_nil _ filled with ⟨c, member⟩
        exact ⟨c, List.mem_append_right _ (List.mem_cons_of_mem _ member), isFraction c member⟩

theorem IsDecimal.isNumeral (isDecimal : IsDecimal run) : IsNumeral run := by
  have isNumeral := IsNumeral.intro (.inl rfl) isDecimal.isRun isDecimal.hasDigit .none
  rwa [List.nil_append, List.append_nil] at isNumeral

theorem IsNumeral.isLiteral (isNumeral : IsNumeral text) : IsLiteral text := by
  cases isNumeral with
  | intro isSign isRun hasDigit isExponent =>
      exact .decimal isSign (isRun.isDecimal hasDigit) isExponent

theorem exists_read?_of_isNumeral (isNumeral : IsNumeral text) :
    ∃ literal, Literal.read? text = some literal :=
  Option.isSome_iff_exists.mp ((read?_isSome_iff text).mpr isNumeral.isLiteral)

/-! ## Doubles -/

/-- If there is a digit, what is scanned is read, and neither the cut nor the reading fails. -/
theorem leadingDouble_of_hasDigit {text : List Char} {literal : Literal}
    (hasDigit : (runFront false (cutSign (Text.trimStart text)).2).any Char.isDigit = true)
    (isRead : Literal.read? (numeralFront (Text.trimStart text)) = some literal) :
    leadingDouble text = literal.toFloat := by
  rw [leadingDouble, numberEnd?_eq, if_pos hasDigit]
  dsimp only
  rw [takeBytes?_numeralFront, Option.bind_some, isRead, Option.map_some, Option.getD_some]

theorem leadingDouble_of_isNumeral {literal : Literal} (trimmed : Text.trimStart text = text)
    (isNumeral : IsNumeral text) (isRead : Literal.read? text = some literal) :
    leadingDouble text = literal.toFloat := by
  have hasDigit := List.any_eq_true.mpr (hasDigit_runFront List.prefix_rfl isNumeral)
  have whole : numeralFront text = text :=
    (numeralFront_isPrefix text).eq_of_length_le
      (isPrefix_numeralFront List.prefix_rfl isNumeral).length_le
  apply leadingDouble_of_hasDigit
  · rwa [trimmed]
  · rwa [trimmed, whole]

/-- No double is zero because a literal could not be read. A text without a digit behind its sign is
zero at once. Of any other text the bytes that are passed are those of the longest number in front.
They end between two characters, and the number is a literal, whose double is the result. -/
theorem leading_doubles_are_literals (text : List Char) :
    (numberEnd? (Text.trimStart text) = none ∧
      (∃ front, IsLongestFront IsSignedRun (Text.trimStart text) front ∧
        ∀ c ∈ front, c.isDigit = false) ∧
      leadingDouble text = 0) ∨
    ∃ stop slice literal,
      numberEnd? (Text.trimStart text) = some stop ∧
      stop ≤ (bytes (Text.trimStart text)).length ∧
      String.Pos.Raw.IsValid (String.ofList (Text.trimStart text)) ⟨stop⟩ ∧
      Text.takeBytes? stop (Text.trimStart text) = some slice ∧
      IsLongestFront IsNumeral (Text.trimStart text) slice ∧
      IsLiteral slice ∧
      Literal.read? slice = some literal ∧
      leadingDouble text = literal.toFloat := by
  have scanned := numberEnd?_eq (Text.trimStart text)
  by_cases hasDigit :
      (runFront false (cutSign (Text.trimStart text)).2).any Char.isDigit = true
  · rw [if_pos hasDigit] at scanned
    have taken := takeBytes?_numeralFront (Text.trimStart text)
    have longest := isLongestFront_numeralFront (List.any_eq_true.mp hasDigit)
    rcases exists_read?_of_isNumeral longest.hasForm with ⟨literal, isRead⟩
    exact .inr ⟨_, _, literal, scanned, Text.le_length_of_takeBytes? taken,
      Text.isValid_of_takeBytes? taken, taken, longest, longest.hasForm.isLiteral, isRead,
      leadingDouble_of_hasDigit hasDigit isRead⟩
  · rw [if_neg hasDigit] at scanned
    refine .inl ⟨scanned, ⟨_, isLongestFront_signedRunFront _, ?_⟩, ?_⟩
    · rw [Bool.not_eq_true, List.any_eq_false] at hasDigit
      intro c member
      rcases List.mem_append.mp member with inSign | inRun
      · exact isDigit_eq_false_of_mem_sign (isOptionalSign_signFront _) inSign
      · exact Bool.eq_false_iff.mpr (hasDigit c inRun)
    · rw [leadingDouble, scanned]

end BroadcastScenes.Decimal
