import BroadcastScenes.Decimal.Literal
import BroadcastScenes.Proofs.Decimal.LeadingIntegers

/-!
# Literals that are read

Reading a literal succeeds exactly for the texts of a grammar: a sign or none, and behind it either
a decimal with a power of ten or without one, or a word.
-/

namespace BroadcastScenes.Decimal

/-! ## The grammar -/

def IsDigits (text : List Char) : Prop := ∀ c ∈ text, c.isDigit = true

inductive IsDecimal : List Char → Prop
  | whole {whole : List Char} (isWhole : IsDigits whole) (filled : whole ≠ []) : IsDecimal whole
  | pointed {whole fraction : List Char} (isWhole : IsDigits whole)
      (isFraction : IsDigits fraction) (filled : whole ≠ [] ∨ fraction ≠ []) :
      IsDecimal (whole ++ '.' :: fraction)

def IsMark (c : Char) : Prop := c = 'e' ∨ c = 'E'

inductive IsExponent : List Char → Prop
  | none : IsExponent []
  | marked {mark : Char} {sign digits : List Char} (isMark : IsMark mark)
      (isSign : IsOptionalSign sign) (isDigits : IsDigits digits) (filled : digits ≠ []) :
      IsExponent (mark :: (sign ++ digits))

def IsWord (word : List Char) : Prop :=
  word.map Char.toLower ∈ ["inf".toList, "infinity".toList, "nan".toList]

inductive IsLiteral : List Char → Prop
  | decimal {sign decimal exponent : List Char} (isSign : IsOptionalSign sign)
      (isDecimal : IsDecimal decimal) (isExponent : IsExponent exponent) :
      IsLiteral (sign ++ (decimal ++ exponent))
  | word {sign word : List Char} (isSign : IsOptionalSign sign) (isWord : IsWord word) :
      IsLiteral (sign ++ word)

/-! ## Signs -/

variable {sign whole fraction exponent text : List Char}

def IsUnsigned (text : List Char) : Prop := ∀ c, text.head? = some c → c ≠ '+' ∧ c ≠ '-'

theorem cutSign_append (isSign : IsOptionalSign sign) (isUnsigned : IsUnsigned text) :
    cutSign (sign ++ text) = (decide (sign = ['-']), text) := by
  rcases isSign with rfl | rfl | rfl
  · rw [List.nil_append]
    unfold cutSign
    split
    · exact absurd rfl (isUnsigned _ rfl).2
    · exact absurd rfl (isUnsigned _ rfl).1
    · rfl
  · rfl
  · rfl

theorem isUnsigned_cons_of_isDigit {c : Char} (isDigit : c.isDigit = true) (rest : List Char) :
    IsUnsigned (c :: rest) := by
  intro first isFirst
  obtain rfl := Option.some.inj isFirst
  constructor
  · rintro rfl
    cases isDigit
  · rintro rfl
    cases isDigit

theorem IsDigits.isUnsigned (isDigits : IsDigits text) : IsUnsigned text := by
  cases text with
  | nil => nofun
  | cons first rest => exact isUnsigned_cons_of_isDigit (isDigits first List.mem_cons_self) rest

theorem IsDecimal.isUnsigned (isDecimal : IsDecimal text) (rest : List Char) :
    IsUnsigned (text ++ rest) := by
  have digitFirst {digits behind : List Char} (isDigits : IsDigits digits) (filled : digits ≠ []) :
      IsUnsigned (digits ++ behind) := by
    rcases List.exists_cons_of_ne_nil filled with ⟨first, more, rfl⟩
    exact isUnsigned_cons_of_isDigit (isDigits first List.mem_cons_self) _
  cases isDecimal with
  | whole isWhole filled => exact digitFirst isWhole filled
  | @pointed whole fraction isWhole _ _ =>
      rw [List.append_assoc]
      cases whole with
      | nil =>
          intro first isFirst
          obtain rfl := Option.some.inj isFirst
          decide
      | cons first more => exact digitFirst isWhole (List.cons_ne_nil _ _)

theorem IsWord.isUnsigned {word : List Char} (isWord : IsWord word) : IsUnsigned word := by
  intro first isFirst
  cases word with
  | nil => cases isFirst
  | cons c rest =>
      obtain rfl := Option.some.inj isFirst
      constructor
      · rintro rfl
        simp [IsWord] at isWord
      · rintro rfl
        simp [IsWord] at isWord

/-! ## Digits -/

theorem cutDigits_of_isDigits (isDigits : IsDigits text) : cutDigits text = (text, []) := by
  have cut := cutDigits_append isDigits (fun c (head : [].head? = some c) => nomatch head)
  rwa [List.append_nil] at cut

theorem isDigits_cutDigits (text : List Char) : IsDigits (cutDigits text).1 :=
  fun _ => List.mem_takeWhile_imp

theorem cutDigits_append_cutDigits (text : List Char) :
    (cutDigits text).1 ++ (cutDigits text).2 = text :=
  List.takeWhile_append_dropWhile

/-! ## Powers of ten -/

theorem IsMark.isDigit_eq_false {mark : Char} (isMark : IsMark mark) : mark.isDigit = false := by
  rcases isMark with rfl | rfl <;> rfl

theorem IsMark.ne_point {mark : Char} (isMark : IsMark mark) : mark ≠ '.' := by
  rcases isMark with rfl | rfl <;> decide

theorem exponent?_isSome_iff (text : List Char) :
    (Literal.exponent? text).isSome = true ↔ IsExponent text := by
  constructor
  · intro found
    cases text with
    | nil => exact .none
    | cons mark rest =>
        rw [Literal.exponent?] at found
        dsimp only at found
        split at found
        · rename_i parts
          rcases parts with ⟨isMark, filled, ends⟩
          rcases exists_sign_append_cutSign rest with ⟨sign, isSign, signed⟩
          have whole := cutDigits_append_cutDigits (cutSign rest).2
          rw [ends, List.append_nil] at whole
          rw [signed, ← whole]
          exact .marked isMark isSign (isDigits_cutDigits _) filled
        · cases found
  · intro isExponent
    cases isExponent with
    | none => rfl
    | marked isMark isSign isDigits filled =>
        rw [Literal.exponent?, cutSign_append isSign isDigits.isUnsigned]
        dsimp only
        rw [cutDigits_of_isDigits isDigits]
        dsimp only
        rw [if_pos ⟨isMark, filled, rfl⟩]
        rfl

theorem IsExponent.isDigit_head_eq_false (isExponent : IsExponent exponent) :
    ∀ c, exponent.head? = some c → c.isDigit = false := by
  intro c first
  cases isExponent with
  | none => cases first
  | marked isMark _ _ _ =>
      obtain rfl := Option.some.inj first
      exact isMark.isDigit_eq_false

/-! ## Decimals -/

theorem cutFraction_cases (text : List Char) :
    (∃ rest, text = '.' :: rest ∧ cutFraction text = cutDigits rest) ∨
      cutFraction text = ([], text) := by
  unfold cutFraction
  split
  · exact .inl ⟨_, rfl, rfl⟩
  · exact .inr rfl

theorem cutFraction_of_isExponent (isExponent : IsExponent exponent) :
    cutFraction exponent = ([], exponent) := by
  unfold cutFraction
  split
  · cases isExponent with
    | marked isMark _ _ _ => exact absurd rfl isMark.ne_point
  · rfl

theorem unsigned?_whole (negative : Bool) (isWhole : IsDigits whole) (filled : whole ≠ [])
    (isExponent : IsExponent exponent) :
    Literal.unsigned? negative (whole ++ exponent) =
      (Literal.exponent? exponent).map (Numeral.ofDigits negative whole []) := by
  rw [Literal.unsigned?, cutDigits_append isWhole isExponent.isDigit_head_eq_false]
  dsimp only
  rw [cutFraction_of_isExponent isExponent]
  dsimp only
  rw [List.isEmpty_eq_false_iff.mpr filled]
  rfl

theorem unsigned?_pointed (negative : Bool) (isWhole : IsDigits whole)
    (isFraction : IsDigits fraction) (filled : whole ≠ [] ∨ fraction ≠ [])
    (isExponent : IsExponent exponent) :
    Literal.unsigned? negative (whole ++ '.' :: (fraction ++ exponent)) =
      (Literal.exponent? exponent).map (Numeral.ofDigits negative whole fraction) := by
  have wholeCut : cutDigits (whole ++ '.' :: (fraction ++ exponent)) =
      (whole, '.' :: (fraction ++ exponent)) :=
    cutDigits_append isWhole fun c first => by
      rw [← Option.some.inj first]
      rfl
  have fractionCut : cutFraction ('.' :: (fraction ++ exponent)) = (fraction, exponent) :=
    cutDigits_append isFraction isExponent.isDigit_head_eq_false
  have hasDigit : (whole.isEmpty && fraction.isEmpty) = false := by
    rw [Bool.and_eq_false_iff, List.isEmpty_eq_false_iff, List.isEmpty_eq_false_iff]
    exact filled
  rw [Literal.unsigned?, wholeCut]
  dsimp only
  rw [fractionCut]
  dsimp only
  rw [hasDigit]
  rfl

theorem unsigned?_isSome_iff (negative : Bool) (text : List Char) :
    (Literal.unsigned? negative text).isSome = true ↔
      ∃ decimal exponent, text = decimal ++ exponent ∧ IsDecimal decimal ∧ IsExponent exponent := by
  constructor
  · intro found
    have whole := cutDigits_append_cutDigits text
    have isWhole := isDigits_cutDigits text
    rw [Literal.unsigned?] at found
    dsimp only at found
    split at found
    · cases found
    · rename_i hasDigit
      rw [Option.isSome_map, exponent?_isSome_iff] at found
      rw [Bool.not_eq_true, Bool.and_eq_false_iff, List.isEmpty_eq_false_iff,
        List.isEmpty_eq_false_iff] at hasDigit
      rcases cutFraction_cases (cutDigits text).2 with ⟨rest, behind, cut⟩ | cut
      · rw [cut] at found hasDigit
        rw [behind] at whole
        refine ⟨_, _, ?_, .pointed isWhole (isDigits_cutDigits rest) hasDigit, found⟩
        rw [List.append_assoc, List.cons_append, cutDigits_append_cutDigits, whole]
      · rw [cut] at found hasDigit
        exact ⟨_, _, whole.symm, .whole isWhole (hasDigit.resolve_right fun filled => filled rfl),
          found⟩
  · rintro ⟨decimal, exponent, rfl, isDecimal, isExponent⟩
    have power := (exponent?_isSome_iff exponent).mpr isExponent
    cases isDecimal with
    | whole isWhole filled =>
        rwa [unsigned?_whole negative isWhole filled isExponent, Option.isSome_map]
    | pointed isWhole isFraction filled =>
        rwa [List.append_assoc, List.cons_append,
          unsigned?_pointed negative isWhole isFraction filled isExponent, Option.isSome_map]

/-! ## Whole literals -/

theorem isWord_iff (word : List Char) :
    IsWord word ↔ word.map Char.toLower ∈ Literal.infinityWords ∨
      word.map Char.toLower = Literal.notANumberWord := by
  simp [IsWord, Literal.infinityWords, Literal.notANumberWord, or_assoc]

theorem ofWord?_isSome_iff (negative : Bool) (word : List Char) :
    (Literal.ofWord? negative word).isSome = true ↔ IsWord word := by
  rw [isWord_iff, Literal.ofWord?]
  split
  · rename_i isInfinity
    exact iff_of_true rfl (.inl isInfinity)
  · rename_i notInfinity
    split
    · rename_i isNoNumber
      exact iff_of_true rfl (.inr isNoNumber)
    · rename_i notNoNumber
      exact iff_of_false Bool.false_ne_true fun isWord => isWord.elim notInfinity notNoNumber

theorem read?_isSome_iff (text : List Char) :
    (Literal.read? text).isSome = true ↔ IsLiteral text := by
  constructor
  · intro found
    rcases exists_sign_append_cutSign text with ⟨sign, isSign, signed⟩
    rw [signed]
    rw [Literal.read?] at found
    dsimp only at found
    split at found
    · rename_i numeral isNumeral
      rcases (unsigned?_isSome_iff _ _).mp (Option.isSome_of_eq_some isNumeral) with
        ⟨decimal, exponent, split, isDecimal, isExponent⟩
      rw [split]
      exact .decimal isSign isDecimal isExponent
    · exact .word isSign ((ofWord?_isSome_iff _ _).mp found)
  · intro isLiteral
    cases isLiteral with
    | @decimal sign _ _ isSign isDecimal isExponent =>
        have found := (unsigned?_isSome_iff (decide (sign = ['-'])) _).mpr
          ⟨_, _, rfl, isDecimal, isExponent⟩
        rcases Option.isSome_iff_exists.mp found with ⟨numeral, isNumeral⟩
        rw [Literal.read?, cutSign_append isSign (isDecimal.isUnsigned _)]
        dsimp only
        rw [isNumeral]
        rfl
    | word isSign isWord =>
        rw [Literal.read?, cutSign_append isSign isWord.isUnsigned]
        dsimp only
        split
        · rfl
        · exact (ofWord?_isSome_iff _ _).mpr isWord

end BroadcastScenes.Decimal
