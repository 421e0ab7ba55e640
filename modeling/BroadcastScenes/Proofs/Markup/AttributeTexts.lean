import BroadcastScenes.Proofs.Decimal.PlainTexts
import BroadcastScenes.Proofs.Decimal.WrittenIntegers
import BroadcastScenes.Proofs.Markup.WrittenLines
import BroadcastScenes.Value.Fields

/-!
# Attribute values as texts

An attribute value that looks like a number is kept as that number. Asked for its text, it gives the
usual text of the number: zeros that say nothing are gone, and so are digits that a double cannot
hold. Every other value gives the text that it was written with.
-/

namespace BroadcastScenes.Markup

open Decimal (IsWholePart IsPlain)

/-! ## Kinds of values -/

structure IsNumber (written : List Char) : Prop where
  digits : ∀ c ∈ written, c.isDigit = true
  notEmpty : written ≠ []

structure IsPointedNumber (written whole fraction : List Char) : Prop where
  split : written = whole ++ '.' :: fraction
  isNumber : IsNumber (whole ++ fraction)

theorem isDigit_ne_point {c : Char} (digit : c.isDigit = true) : c ≠ '.' := by
  intro equal
  rw [equal] at digit
  cases digit

theorem count_point_eq_zero {written : List Char} (digits : ∀ c ∈ written, c.isDigit = true) :
    written.count '.' = 0 :=
  List.count_eq_zero.mpr fun member => isDigit_ne_point (digits _ member) rfl

theorem scalar_of_isNumber {written : List Char} (isNumber : IsNumber written) :
    scalar written = ((Decimal.exactWord? (Nat.ofDigitChars 10 written 0)).map .integer).getD
      (.string (String.ofList written)) := by
  have marks : (written.isEmpty || written.any fun c => !c.isDigit && c != '.') = false := by
    rw [Bool.or_eq_false_iff, List.isEmpty_eq_false_iff, List.any_eq_false]
    refine ⟨isNumber.notEmpty, ?_⟩
    intro c member
    rw [isNumber.digits c member]
    exact Bool.false_ne_true
  have value : (Decimal.Numeral.ofDigits false written [] 0).toInt =
      Nat.ofDigitChars 10 written 0 := by
    rw [Decimal.Numeral.ofDigits, List.append_nil]
    rfl
  rw [scalar, marks, if_neg Bool.false_ne_true, if_pos (count_point_eq_zero isNumber.digits),
    value]
  cases Decimal.exactWord? (Nat.ofDigitChars 10 written 0) with
  | none => rfl
  | some number => rfl

theorem scalar_of_isPointedNumber {written whole fraction : List Char}
    (isPointed : IsPointedNumber written whole fraction) :
    scalar written = .double (Decimal.leadingDouble written) := by
  rcases isPointed with ⟨rfl, isNumber⟩
  have digits := List.forall_mem_append.mp isNumber.digits
  have marks : ((whole ++ '.' :: fraction).isEmpty ||
      (whole ++ '.' :: fraction).any fun c => !c.isDigit && c != '.') = false := by
    rw [Bool.or_eq_false_iff, List.isEmpty_eq_false_iff, List.any_eq_false]
    refine ⟨by simp, ?_⟩
    intro c member
    rcases List.mem_append.mp member with front | pointOrBehind
    · simp [digits.1 c front]
    · rcases List.mem_cons.mp pointOrBehind with rfl | behind
      · decide
      · simp [digits.2 c behind]
  have points : (whole ++ '.' :: fraction).count '.' = 1 := by
    rw [List.count_append, List.count_cons_self, count_point_eq_zero digits.1,
      count_point_eq_zero digits.2]
  have length : 1 < (whole ++ '.' :: fraction).length := by
    have some := List.length_pos_of_ne_nil isNumber.notEmpty
    rw [List.length_append] at some ⊢
    rw [List.length_cons]
    omega
  rw [scalar, marks, if_neg Bool.false_ne_true, points, if_neg Nat.one_ne_zero,
    if_pos ⟨rfl, length⟩]

theorem scalar_of_isText {written : List Char} (notNumber : ¬IsNumber written)
    (notPointed : ∀ whole fraction, ¬IsPointedNumber written whole fraction) :
    scalar written = .string (String.ofList written) := by
  rw [scalar]
  split
  · rfl
  · rename_i marks
    rw [Bool.not_eq_true, Bool.or_eq_false_iff, List.isEmpty_eq_false_iff,
      List.any_eq_false] at marks
    have digitOrPoint : ∀ c ∈ written, c ≠ '.' → c.isDigit = true := by
      intro c member notPoint
      have notMark := marks.2 c member
      simpa [notPoint] using notMark
    split
    · rename_i none
      refine absurd ⟨?_, marks.1⟩ notNumber
      intro c member
      apply digitOrPoint c member
      intro point
      exact List.count_eq_zero.mp none (point ▸ member)
    · split
      · rename_i notNone one
        have member : '.' ∈ written := List.count_pos_iff.mp (Nat.pos_of_ne_zero notNone)
        rcases List.append_of_mem member with ⟨whole, fraction, rfl⟩
        have others : '.' ∉ whole ++ fraction := by
          apply List.count_eq_zero.mp
          have points := one.1
          rw [List.count_append, List.count_cons_self] at points
          rw [List.count_append]
          omega
        refine absurd ⟨rfl, ?_, ?_⟩ (notPointed whole fraction)
        · intro c inside
          apply digitOrPoint c
          · rcases List.mem_append.mp inside with front | behind
            · exact List.mem_append_left _ front
            · exact List.mem_append_right _ (List.mem_cons_of_mem _ behind)
          · intro point
            exact others (point ▸ inside)
        · intro empty
          rw [List.append_eq_nil_iff] at empty
          have length := one.2
          rw [empty.1, empty.2] at length
          exact absurd length (by decide)
      · rfl

/-! ## Texts that are kept -/

/-- A number is written as numbers usually are, or is too large to be kept as one. A decimal is the
shortest one that is read as the same double. -/
structure KeepsText (written : List Char) : Prop where
  number : IsNumber written →
    IsWholePart written ∨ Decimal.wordBound ≤ Nat.ofDigitChars 10 written 0
  decimal : ∀ whole fraction, IsPointedNumber written whole fraction →
    IsPlain (Decimal.leadingDouble written) whole fraction

theorem not_isNumber_of_isPointedNumber {written whole fraction : List Char}
    (isPointed : IsPointedNumber written whole fraction) : ¬IsNumber written := by
  intro isNumber
  have point : '.' ∈ written := by
    rw [isPointed.split]
    exact List.mem_append_right _ List.mem_cons_self
  exact isDigit_ne_point (isNumber.digits _ point) rfl

theorem IsPointedNumber.unique {written whole fraction other otherFraction : List Char}
    (isPointed : IsPointedNumber written whole fraction)
    (isOtherPointed : IsPointedNumber written other otherFraction) :
    whole = other ∧ fraction = otherFraction := by
  have digits := List.forall_mem_append.mp isPointed.isNumber.digits
  have same := isPointed.split.symm.trans isOtherPointed.split
  have inWhole : '.' ∉ whole := fun member => isDigit_ne_point (digits.1 _ member) rfl
  have inFraction : '.' ∉ fraction := fun member => isDigit_ne_point (digits.2 _ member) rfl
  rw [List.append_cons_inj_of_notMem inWhole inFraction] at same
  exact ⟨same.1, same.2.2⟩

theorem text_scalar_of_isNumber_iff {written : List Char} (isNumber : IsNumber written) :
    (scalar written).text = String.ofList written ↔
      IsWholePart written ∨ Decimal.wordBound ≤ Nat.ofDigitChars 10 written 0 := by
  rw [scalar_of_isNumber isNumber, Decimal.exactWord?]
  by_cases fits : Decimal.fitsWord (Nat.ofDigitChars 10 written 0)
  · have bounds : -Decimal.wordBound ≤ (Nat.ofDigitChars 10 written 0 : Int) ∧
        (Nat.ofDigitChars 10 written 0 : Int) < Decimal.wordBound := by
      simpa [Decimal.fitsWord] using fits
    have value : (Int64.ofInt (Nat.ofDigitChars 10 written 0)).toInt =
        Nat.ofDigitChars 10 written 0 := by
      apply Int64.toInt_ofInt_of_le
      · exact bounds.1
      · exact bounds.2
    rw [if_pos fits, Option.map_some, Option.getD_some, Value.text, value, String.ofList_inj,
      Decimal.integerText, if_neg (by omega), Int.natAbs_natCast,
      or_iff_left (not_le.mpr bounds.2)]
    constructor
    · intro same
      rw [← same]
      exact Decimal.isWholePart_toDigits _
    · exact Decimal.toDigits_ofDigitChars
  · have large : Decimal.wordBound ≤ (Nat.ofDigitChars 10 written 0 : Int) := by
      by_contra small
      apply fits
      simp only [Decimal.fitsWord, Bool.and_eq_true, decide_eq_true_eq]
      exact ⟨by rw [Decimal.wordBound]; omega, not_le.mp small⟩
    rw [if_neg fits]
    exact ⟨fun _ => .inr large, fun _ => rfl⟩

/-- The text of a value is the one that it was written with for exactly these texts. -/
theorem text_scalar_eq_iff (written : List Char) :
    (scalar written).text = String.ofList written ↔ KeepsText written := by
  by_cases isNumber : IsNumber written
  · rw [text_scalar_of_isNumber_iff isNumber]
    refine ⟨?_, fun keeps => keeps.number isNumber⟩
    intro kept
    refine ⟨fun _ => kept, ?_⟩
    intro whole fraction isPointed
    exact absurd isNumber (not_isNumber_of_isPointedNumber isPointed)
  by_cases isPointed : ∃ whole fraction, IsPointedNumber written whole fraction
  · rcases isPointed with ⟨whole, fraction, isPointed⟩
    have digits := List.forall_mem_append.mp isPointed.isNumber.digits
    have plain : (scalar written).text = String.ofList written ↔
        IsPlain (Decimal.leadingDouble written) whole fraction := by
      rw [scalar_of_isPointedNumber isPointed, Value.text, String.ofList_inj,
        ← Decimal.write_plain_eq_iff digits.1, ← isPointed.split]
    rw [plain]
    refine ⟨?_, fun keeps => keeps.decimal whole fraction isPointed⟩
    intro isPlain
    refine ⟨fun isOther => absurd isOther isNumber, ?_⟩
    intro other otherFraction isOtherPointed
    rcases isPointed.unique isOtherPointed with ⟨rfl, rfl⟩
    exact isPlain
  · have isText : ∀ whole fraction, ¬IsPointedNumber written whole fraction :=
      fun whole fraction pointed => isPointed ⟨whole, fraction, pointed⟩
    rw [scalar_of_isText isNumber isText]
    refine ⟨fun _ => ⟨fun isOther => absurd isOther isNumber, ?_⟩, fun _ => rfl⟩
    intro whole fraction pointed
    exact absurd pointed (isText whole fraction)

/-- A decimal of at most fifteen digits only has to be without superfluous zeros. -/
theorem keepsText_of_short {whole fraction : List Char}
    (isPointed : Decimal.IsPointed whole fraction) (lastCounts : fraction.getLast? ≠ some '0')
    (short : (whole ++ fraction).length ≤ 15) : KeepsText (whole ++ '.' :: fraction) := by
  have isPointedNumber : IsPointedNumber (whole ++ '.' :: fraction) whole fraction := by
    refine ⟨rfl, List.forall_mem_append.mpr ⟨isPointed.whole.digits, isPointed.digits⟩, ?_⟩
    exact List.append_ne_nil_of_right_ne_nil _ isPointed.notEmpty
  refine ⟨fun isNumber => absurd isNumber (not_isNumber_of_isPointedNumber isPointedNumber), ?_⟩
  intro other otherFraction isOtherPointed
  rcases isPointedNumber.unique isOtherPointed with ⟨rfl, rfl⟩
  exact Decimal.isPlain_of_short isPointed lastCounts short

/-! ## Values of a tag -/

theorem find?_entries (front : List Attribute) {pair : Attribute} {back : List Attribute}
    (last : pair.key ∉ back.map Attribute.key) :
    Entries.find? pair.key
        (Entries.ofList ((front ++ pair :: back).map Attribute.entry)) =
      some (scalar pair.raw.text.toList) := by
  have absent : pair.key ∉ Entries.keys (back.map Attribute.entry).reverse := by
    rw [Entries.keys, List.map_reverse, List.mem_reverse, List.map_map]
    exact last
  rw [Entries.ofList, Entries.find?_insertAll, List.map_append, List.map_cons,
    List.reverse_append, List.reverse_cons, List.append_assoc,
    Entries.find?_append_of_not_mem absent]
  change (if pair.key = pair.key then some (scalar pair.raw.text.toList) else _).or _ = _
  rw [if_pos rfl, Option.some_or]

/-- A tag line gives each attribute the text of its value as a number or as a text. That is the
text which the line has for it, unless this looks like a number and is not the usual text of the
number that it is kept as. -/
theorem attribute_texts_are_read_back {kind : TagKind} {attributes : List Attribute}
    {line : List Char} (isTagLine : IsTagLine kind attributes line) (number : Nat) :
    ∃ opening, opening? ⟨number, line⟩ = .ok (some opening) ∧
      ∀ front pair back, attributes = front ++ pair :: back →
        pair.key ∉ back.map Attribute.key →
          opening.attributes.textAt pair.key = (scalar pair.raw.text.toList).text ∧
          (opening.attributes.textAt pair.key = pair.raw.text ↔
            KeepsText pair.raw.text.toList) := by
  cases isTagLine with
  | intro isIndent writes endsKind atEnd opens =>
      refine ⟨_, opening?_append isIndent writes endsKind atEnd opens number, ?_⟩
      intro front pair back equal last
      subst equal
      have text : Members.textAt (Entries.ofList ((front ++ pair :: back).map Attribute.entry))
          pair.key = (scalar pair.raw.text.toList).text := by
        rw [Members.textAt, find?_entries front last]
        rfl
      refine ⟨text, ?_⟩
      rw [text, ← text_scalar_eq_iff, String.ofList_toList]

def placementAttributes : List Attribute :=
  [⟨.mk "id", .mk "0.1"⟩, ⟨.mk "srcid", .mk "1.50"⟩, ⟨.ofName, .mk "007"⟩,
    ⟨.ofName, .mk "Cam 007"⟩]

def placementLine : List Char :=
  "\t<placement id=\"0.1\"  srcid=\"1.50\" name=\"007\" name=\"Cam 007\"/>".toList

theorem attribute_texts_are_read_back_placement :
    IsTagLine (.mk "placement") placementAttributes placementLine ∧
      ∃ opening, opening? ⟨1, placementLine⟩ = .ok (some opening) ∧
        opening.attributes.textAt "id" = "0.1" ∧ opening.attributes.textAt "srcid" = "1.5" ∧
        opening.attributes.textAt "name" = "Cam 007" ∧
        KeepsText "0.1".toList ∧ ¬KeepsText "1.50".toList := by
  have isTagLine : IsTagLine (.mk "placement") placementAttributes placementLine := by
    have space : Text.allBlank [' '] = true := by decide
    have spaces : Text.allBlank [' ', ' '] = true := by decide
    have writes : WritesAttributes placementAttributes
        " id=\"0.1\"  srcid=\"1.50\" name=\"007\" name=\"Cam 007\"".toList :=
      .cons space <| .cons spaces <| .cons space <| .cons space .nil
    have tab : Text.IsIndent ['\t'] := by decide
    have endsKind : ∀ c ∈ (" id=".toList).head?, isKindChar c = false := by
      intro c head
      rw [← Option.some.inj head]
      rfl
    exact .intro tab writes endsKind (by decide) (by decide)
  have keeps : KeepsText "0.1".toList := by
    have isPointed : Decimal.IsPointed ['0'] ['1'] :=
      ⟨Decimal.isWholePart_zero, List.forall_mem_singleton.mpr rfl, by decide⟩
    exact keepsText_of_short isPointed (by decide) (by decide)
  rcases attribute_texts_are_read_back isTagLine 1 with ⟨opening, opened, texts⟩
  have id : opening.attributes.textAt "id" = "0.1" :=
    (texts [] _ _ rfl (by decide)).2.mpr keeps
  have srcid : opening.attributes.textAt "srcid" = (scalar "1.50".toList).text ∧
      (opening.attributes.textAt "srcid" = "1.50" ↔ KeepsText "1.50".toList) :=
    texts [⟨.mk "id", .mk "0.1"⟩] _ _ rfl (by decide)
  have name : opening.attributes.textAt "name" = (scalar "Cam 007".toList).text :=
    (texts [⟨.mk "id", .mk "0.1"⟩, ⟨.mk "srcid", .mk "1.50"⟩, ⟨.mk "name", .mk "007"⟩] _ [] rfl
      (by decide)).1
  have srcidText : (scalar "1.50".toList).text = "1.5" := by decide +kernel
  have nameText : (scalar "Cam 007".toList).text = "Cam 007" := by decide +kernel
  refine ⟨isTagLine, opening, opened, id, srcid.1.trans srcidText, name.trans nameText, keeps, ?_⟩
  intro kept
  have same := srcid.2.mpr kept
  rw [srcid.1, srcidText] at same
  exact absurd same (by decide)

/-- Zeros that say nothing are not kept, whether they stand in front of a number or behind one. -/
theorem superfluous_zeros_are_not_kept :
    ∃ opening, opening? ⟨1, "<placement name=\"007\" id=\"1.50\"/>".toList⟩ = .ok (some opening) ∧
      opening.attributes.textAt "name" ≠ "007" ∧ opening.attributes.textAt "id" ≠ "1.50" := by
  have texts : (opening? ⟨1, "<placement name=\"007\" id=\"1.50\"/>".toList⟩).map (fun found =>
      found.map fun opening =>
        (opening.attributes.textAt "name", opening.attributes.textAt "id")) =
      .ok (some ("7", "1.5")) := by
    decide +kernel
  cases opened : opening? ⟨1, "<placement name=\"007\" id=\"1.50\"/>".toList⟩ with
  | error error =>
      rw [opened] at texts
      cases texts
  | ok found =>
      rw [opened] at texts
      rcases Option.map_eq_some_iff.mp (Except.ok.inj texts) with ⟨opening, rfl, both⟩
      rcases Prod.mk.inj both with ⟨name, id⟩
      refine ⟨opening, rfl, ?_, ?_⟩
      · rw [name]
        decide
      · rw [id]
        decide

end BroadcastScenes.Markup
