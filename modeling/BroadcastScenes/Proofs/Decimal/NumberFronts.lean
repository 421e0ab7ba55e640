import BroadcastScenes.Proofs.Decimal.Literals

/-!
# The number in front of a text

Of all the numbers that a text can be said to begin with, one contains the others. It takes all the
digits that follow each other, with the first point among them, and a power of ten behind them that
has digits of its own.
-/

namespace BroadcastScenes.Decimal

/-! ## Forms of numbers -/

structure IsRun (text : List Char) : Prop where
  characters : ∀ c ∈ text, c.isDigit = true ∨ c = '.'
  onePoint : text.count '.' ≤ 1

inductive IsSignedRun : List Char → Prop
  | intro {sign run : List Char} (isSign : IsOptionalSign sign) (isRun : IsRun run) :
      IsSignedRun (sign ++ run)

inductive IsNumeral : List Char → Prop
  | intro {sign run exponent : List Char} (isSign : IsOptionalSign sign) (isRun : IsRun run)
      (hasDigit : ∃ c ∈ run, c.isDigit = true) (isExponent : IsExponent exponent) :
      IsNumeral (sign ++ (run ++ exponent))

/-- The longest of the texts of one form that this text begins with. -/
structure IsLongestFront (Form : List Char → Prop) (text front : List Char) : Prop where
  isFront : front <+: text
  hasForm : Form front
  longest : ∀ other, other <+: text → Form other → other.length ≤ front.length

/-! ## Fronts of a text -/

def signFront (text : List Char) : List Char :=
  if text.head? = some '+' ∨ text.head? = some '-' then text.take 1 else []

def runFront (seenPoint : Bool) : List Char → List Char
  | [] => []
  | c :: rest =>
      if c.isDigit then c :: runFront seenPoint rest
      else if c = '.' ∧ seenPoint = false then c :: runFront true rest
      else []

def exponentFront : List Char → List Char
  | [] => []
  | mark :: rest =>
      let digits := (cutDigits (cutSign rest).2).1
      if (mark = 'e' ∨ mark = 'E') ∧ digits ≠ [] then mark :: (signFront rest ++ digits) else []

def signedRunFront (text : List Char) : List Char :=
  signFront text ++ runFront false (cutSign text).2

def behindRun (text : List Char) : List Char :=
  (cutSign text).2.drop (runFront false (cutSign text).2).length

def numeralFront (text : List Char) : List Char :=
  signedRunFront text ++ exponentFront (behindRun text)

variable {sign run exponent text rest other : List Char} {seenPoint : Bool}

/-! ## Signs -/

theorem signFront_append_cutSign (text : List Char) :
    signFront text ++ (cutSign text).2 = text := by
  unfold cutSign
  split
  · rfl
  · rfl
  · rename_i notMinus notPlus
    rw [signFront, if_neg, List.nil_append]
    rintro (plus | minus)
    · rcases List.head?_eq_some_iff.mp plus with ⟨rest, rfl⟩
      exact notPlus rest rfl
    · rcases List.head?_eq_some_iff.mp minus with ⟨rest, rfl⟩
      exact notMinus rest rfl

theorem isOptionalSign_signFront (text : List Char) : IsOptionalSign (signFront text) := by
  rw [signFront]
  split
  · rename_i signed
    rcases signed with plus | minus
    · rcases List.head?_eq_some_iff.mp plus with ⟨rest, rfl⟩
      exact .inr (.inl rfl)
    · rcases List.head?_eq_some_iff.mp minus with ⟨rest, rfl⟩
      exact .inr (.inr rfl)
  · exact .inl rfl

theorem isDigit_eq_false_of_mem_sign (isSign : IsOptionalSign sign) {c : Char} (member : c ∈ sign) :
    c.isDigit = false := by
  rcases isSign with rfl | rfl | rfl
  · cases member
  · rw [List.mem_singleton.mp member]
    rfl
  · rw [List.mem_singleton.mp member]
    rfl

theorem signFront_append (isSign : IsOptionalSign sign) (isUnsigned : IsUnsigned text) :
    signFront (sign ++ text) = sign := by
  have whole := signFront_append_cutSign (sign ++ text)
  rw [cutSign_append isSign isUnsigned] at whole
  exact List.append_cancel_right whole

/-! ## Runs of digits -/

theorem IsRun.isUnsigned (isRun : IsRun run) (filled : run ≠ []) (rest : List Char) :
    IsUnsigned (run ++ rest) := by
  rcases List.exists_cons_of_ne_nil filled with ⟨first, more, rfl⟩
  rcases isRun.characters first List.mem_cons_self with isDigit | rfl
  · exact isUnsigned_cons_of_isDigit isDigit _
  · intro c isFirst
    obtain rfl := Option.some.inj isFirst
    decide

theorem runFront_isPrefix (seenPoint : Bool) (text : List Char) :
    runFront seenPoint text <+: text := by
  induction text generalizing seenPoint with
  | nil => exact List.prefix_rfl
  | cons c rest induction =>
      rw [runFront]
      split
      · exact (List.prefix_cons_inj c).mpr (induction _)
      · split
        · exact (List.prefix_cons_inj c).mpr (induction _)
        · exact List.nil_prefix

theorem characters_runFront (seenPoint : Bool) (text : List Char) :
    ∀ c ∈ runFront seenPoint text, c.isDigit = true ∨ c = '.' := by
  induction text generalizing seenPoint with
  | nil => nofun
  | cons c rest induction =>
      rw [runFront]
      split
      · rename_i isDigit
        exact List.forall_mem_cons.mpr ⟨.inl isDigit, induction _⟩
      · split
        · rename_i isPoint
          exact List.forall_mem_cons.mpr ⟨.inr isPoint.1, induction _⟩
        · nofun

theorem ne_point_of_isDigit {c : Char} (isDigit : c.isDigit = true) : c ≠ '.' := by
  rintro rfl
  cases isDigit

theorem count_point_runFront_le (seenPoint : Bool) (text : List Char) :
    (runFront seenPoint text).count '.' + seenPoint.toNat ≤ 1 := by
  induction text generalizing seenPoint with
  | nil => simpa [runFront] using Bool.toNat_le seenPoint
  | cons c rest induction =>
      rw [runFront]
      split
      · rename_i isDigit
        rw [List.count_cons_of_ne (ne_point_of_isDigit isDigit)]
        exact induction _
      · split
        · rename_i isPoint
          rcases isPoint with ⟨rfl, rfl⟩
          have later := induction true
          rw [List.count_cons_self]
          simpa using later
        · simpa using Bool.toNat_le seenPoint

theorem isRun_runFront (text : List Char) : IsRun (runFront false text) :=
  ⟨characters_runFront false text, count_point_runFront_le false text⟩

theorem runFront_append (seenPoint : Bool) (characters : ∀ c ∈ run, c.isDigit = true ∨ c = '.')
    (onePoint : run.count '.' + seenPoint.toNat ≤ 1) (rest : List Char) :
    ∃ later, runFront seenPoint (run ++ rest) = run ++ runFront later rest := by
  induction run generalizing seenPoint with
  | nil => exact ⟨seenPoint, rfl⟩
  | cons c more induction =>
      have moreCharacters := fun other member =>
        characters other (List.mem_cons_of_mem c member)
      rw [List.cons_append, runFront]
      rcases characters c List.mem_cons_self with isDigit | rfl
      · rw [List.count_cons_of_ne (ne_point_of_isDigit isDigit)] at onePoint
        rcases induction seenPoint moreCharacters onePoint with ⟨later, follows⟩
        exact ⟨later, by rw [if_pos isDigit, follows, List.cons_append]⟩
      · rw [List.count_cons_self] at onePoint
        have notSeen : seenPoint = false := by
          cases seenPoint with
          | false => rfl
          | true => simp at onePoint
        subst notSeen
        have noOther : more.count '.' + true.toNat ≤ 1 := by simpa using onePoint
        rcases induction true moreCharacters noOther with ⟨later, follows⟩
        exact ⟨later, by rw [if_neg (by decide), if_pos ⟨rfl, rfl⟩, follows, List.cons_append]⟩

theorem runFront_append_of_isExponent (isExponent : IsExponent exponent) (filled : exponent ≠ [])
    (rest : List Char) : runFront seenPoint (exponent ++ rest) = [] := by
  cases isExponent with
  | none => exact absurd rfl filled
  | marked isMark _ _ _ =>
      rw [List.cons_append, runFront, isMark.isDigit_eq_false, if_neg Bool.false_ne_true,
        if_neg fun isPoint => isMark.ne_point isPoint.1]

/-! ## Powers of ten -/

theorem isExponent_exponentFront (text : List Char) : IsExponent (exponentFront text) := by
  cases text with
  | nil => exact .none
  | cons mark rest =>
      rw [exponentFront]
      split
      · rename_i parts
        exact .marked parts.1 (isOptionalSign_signFront rest) (isDigits_cutDigits _) parts.2
      · exact .none

theorem exponentFront_isPrefix (text : List Char) : exponentFront text <+: text := by
  cases text with
  | nil => exact List.prefix_rfl
  | cons mark rest =>
      rw [exponentFront]
      split
      · have digits : (cutDigits (cutSign rest).2).1 <+: (cutSign rest).2 :=
          List.takeWhile_prefix _
        have behindSign := (List.prefix_append_right_inj (signFront rest)).mpr digits
        rw [signFront_append_cutSign] at behindSign
        exact (List.prefix_cons_inj mark).mpr behindSign
      · exact List.nil_prefix

theorem isPrefix_exponentFront_append (isExponent : IsExponent exponent) (rest : List Char) :
    exponent <+: exponentFront (exponent ++ rest) := by
  cases isExponent with
  | none => exact List.nil_prefix
  | @marked mark sign digits isMark isSign isDigits filled =>
      rcases List.exists_cons_of_ne_nil filled with ⟨first, more, rfl⟩
      have isUnsigned : IsUnsigned (first :: more ++ rest) :=
        isUnsigned_cons_of_isDigit (isDigits first List.mem_cons_self) _
      have followed : (cutDigits (first :: more ++ rest)).1 =
          first :: more ++ rest.takeWhile Char.isDigit := List.takeWhile_append_of_pos isDigits
      have found : (cutDigits (first :: more ++ rest)).1 ≠ [] := by
        rw [followed]
        exact List.cons_ne_nil _ _
      rw [List.cons_append, List.append_assoc, exponentFront, signFront_append isSign isUnsigned,
        cutSign_append isSign isUnsigned]
      dsimp only
      rw [if_pos ⟨isMark, found⟩, followed, ← List.append_assoc sign]
      exact (List.prefix_cons_inj mark).mpr (List.prefix_append _ _)

/-! ## Longest fronts -/

theorem signedRunFront_append_behindRun (text : List Char) :
    signedRunFront text ++ behindRun text = text := by
  have run := List.prefix_iff_eq_append.mp (runFront_isPrefix false (cutSign text).2)
  rw [signedRunFront, behindRun, List.append_assoc, run, signFront_append_cutSign]

theorem IsLongestFront.of_contains {Form : List Char → Prop} {front : List Char}
    (isFront : front <+: text) (hasForm : Form front)
    (contains : ∀ other, other <+: text → Form other → other <+: front) :
    IsLongestFront Form text front :=
  ⟨isFront, hasForm, fun other otherFront otherForm =>
    (contains other otherFront otherForm).length_le⟩

theorem isPrefix_signFront (isSign : IsOptionalSign sign) (isFront : sign <+: text) :
    sign <+: signFront text := by
  rcases isFront with ⟨rest, rfl⟩
  rcases isSign with rfl | rfl | rfl
  · exact List.nil_prefix
  · exact List.prefix_rfl
  · exact List.prefix_rfl

theorem signedRunFront_append (isSign : IsOptionalSign sign) (isRun : IsRun run)
    (filled : run ≠ []) (rest : List Char) :
    ∃ later, signedRunFront (sign ++ (run ++ rest)) = sign ++ (run ++ runFront later rest) := by
  have isUnsigned := isRun.isUnsigned filled rest
  rcases runFront_append false isRun.characters isRun.onePoint rest with
    ⟨later, follows⟩
  refine ⟨later, ?_⟩
  rw [signedRunFront, signFront_append isSign isUnsigned, cutSign_append isSign isUnsigned]
  exact congrArg (sign ++ ·) follows

theorem isPrefix_signedRunFront (isFront : other <+: text) (isSignedRun : IsSignedRun other) :
    other <+: signedRunFront text := by
  cases isSignedRun with
  | @intro sign run isSign isRun =>
      by_cases filled : run = []
      · rw [filled, List.append_nil] at isFront ⊢
        exact (isPrefix_signFront isSign isFront).trans (List.prefix_append _ _)
      · rcases isFront with ⟨rest, rfl⟩
        rcases signedRunFront_append isSign isRun filled rest with ⟨later, found⟩
        rw [List.append_assoc, found, ← List.append_assoc]
        exact List.prefix_append _ _

theorem isLongestFront_signedRunFront (text : List Char) :
    IsLongestFront IsSignedRun text (signedRunFront text) := by
  apply IsLongestFront.of_contains
  · exact ⟨_, signedRunFront_append_behindRun text⟩
  · exact .intro (isOptionalSign_signFront text) (isRun_runFront _)
  · exact fun _ => isPrefix_signedRunFront

theorem numeralFront_isPrefix (text : List Char) : numeralFront text <+: text := by
  have exponent := exponentFront_isPrefix (behindRun text)
  have behindRun := (List.prefix_append_right_inj (signedRunFront text)).mpr exponent
  rwa [signedRunFront_append_behindRun] at behindRun

/-- A power of ten cannot begin inside the digits, so a number with one ends where the longest
number ends, or in its last digits. -/
theorem isPrefix_numeralFront (isFront : other <+: text) (isNumeral : IsNumeral other) :
    other <+: numeralFront text := by
  cases isNumeral with
  | @intro sign run exponent isSign isRun hasDigit isExponent =>
      have filled : run ≠ [] := by
        rcases hasDigit with ⟨c, member, _⟩
        exact List.ne_nil_of_mem member
      rcases isFront with ⟨rest, rfl⟩
      rw [List.append_assoc, List.append_assoc]
      rcases signedRunFront_append isSign isRun filled (exponent ++ rest) with ⟨later, found⟩
      by_cases noExponent : exponent = []
      · rw [noExponent, List.append_nil, numeralFront, ← noExponent, found, ← List.append_assoc,
          List.append_assoc]
        exact List.prefix_append _ _
      · rw [runFront_append_of_isExponent isExponent noExponent, List.append_nil] at found
        have whole := signedRunFront_append_behindRun (sign ++ (run ++ (exponent ++ rest)))
        rw [found, List.append_assoc] at whole
        have behind := List.append_cancel_left (List.append_cancel_left whole)
        rw [numeralFront, found, behind, ← List.append_assoc sign]
        apply (List.prefix_append_right_inj (sign ++ run)).mpr
        exact isPrefix_exponentFront_append isExponent rest

theorem hasDigit_runFront (isFront : other <+: text) (isNumeral : IsNumeral other) :
    ∃ c ∈ runFront false (cutSign text).2, c.isDigit = true := by
  cases isNumeral with
  | @intro sign run exponent isSign isRun hasDigit isExponent =>
      rcases hasDigit with ⟨c, member, isDigit⟩
      rcases isFront with ⟨rest, rfl⟩
      have isUnsigned := isRun.isUnsigned (List.ne_nil_of_mem member) (exponent ++ rest)
      rcases runFront_append false isRun.characters isRun.onePoint
        (exponent ++ rest) with ⟨later, follows⟩
      refine ⟨c, ?_, isDigit⟩
      rw [List.append_assoc, List.append_assoc, cutSign_append isSign isUnsigned, follows]
      exact List.mem_append_left _ member

theorem isLongestFront_numeralFront {text : List Char}
    (hasDigit : ∃ c ∈ runFront false (cutSign text).2, c.isDigit = true) :
    IsLongestFront IsNumeral text (numeralFront text) := by
  apply IsLongestFront.of_contains
  · exact numeralFront_isPrefix text
  · rw [numeralFront, signedRunFront, List.append_assoc]
    exact .intro (isOptionalSign_signFront text) (isRun_runFront _) hasDigit
      (isExponent_exponentFront _)
  · exact fun _ => isPrefix_numeralFront

end BroadcastScenes.Decimal
