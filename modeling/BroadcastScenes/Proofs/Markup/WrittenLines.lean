import BroadcastScenes.Proofs.DistinctKeys
import BroadcastScenes.Proofs.Markup.Writing
import BroadcastScenes.Proofs.Text.Cuts

/-!
# Reading written lines

Each line that writes a part of a tag is read for what it is: brackets, slashes and equals signs in
values do not end them, and the attributes are over where the ending of the line begins.
-/

namespace BroadcastScenes.Markup

/-! ## Attributes -/

def Attribute.inFrontOf (pair : Attribute) (rest : List Char) : List Char :=
  pair.name.text.toList ++ '=' :: '"' :: (pair.raw.text.toList ++ '"' :: rest)

inductive WritesAttributes : List Attribute → List Char → Prop
  | nil : WritesAttributes [] []
  | cons {pair : Attribute} {rest : List Attribute} {blanks text : List Char}
      (areBlank : Text.allBlank blanks = true) (behind : WritesAttributes rest text) :
      WritesAttributes (pair :: rest) (blanks ++ pair.inFrontOf text)

theorem inFrontOf_append (pair : Attribute) (text rest : List Char) :
    pair.inFrontOf text ++ rest = pair.inFrontOf (text ++ rest) := by
  simp [Attribute.inFrontOf]

theorem writesAttributes_flatMap (attributes : List Attribute) :
    WritesAttributes attributes (attributes.flatMap Attribute.written) := by
  induction attributes with
  | nil => exact .nil
  | cons pair rest induction =>
      have space : Text.allBlank [' '] = true := by decide
      have split : (pair :: rest).flatMap Attribute.written =
          [' '] ++ pair.inFrontOf (rest.flatMap Attribute.written) := by
        simp [Attribute.written, Attribute.inFrontOf]
      rw [split]
      exact .cons space induction

section

variable {blanks : List Char} (areBlank : Text.allBlank blanks = true) (pair : Attribute)
  (rest : List Char)

include areBlank

theorem trimStart_inFrontOf :
    Text.trimStart (blanks ++ pair.inFrontOf rest) = pair.inFrontOf rest := by
  have equals : Text.isBlank '=' = false := by decide
  rw [Text.trimStart_append_of_allBlank areBlank, Attribute.inFrontOf,
    Text.trimStart_append_cons equals, Text.trimStart_of_trim_eq pair.name.trimmed]

theorem endsAttributes_inFrontOf :
    endsAttributes (Text.trimStart (blanks ++ pair.inFrontOf rest)) = false := by
  have noBracket : ∀ after, ¬ ['>'] <+: pair.name.text.toList ++ '=' :: after := fun _ begins =>
    pair.name.notBracket (Text.isPrefix_of_isPrefix_append_cons (by decide) begins)
  have noSlash : ∀ after, ¬ ['/', '>'] <+: pair.name.text.toList ++ '=' :: after :=
    fun _ begins =>
      pair.name.notSlash (Text.isPrefix_of_isPrefix_append_cons (by decide) begins)
  rw [trimStart_inFrontOf areBlank, Attribute.inFrontOf, endsAttributes, Bool.eq_false_iff, Ne,
    Bool.or_eq_true, Bool.or_eq_true, List.isPrefixOf_iff_prefix, List.isPrefixOf_iff_prefix]
  rintro ((empty | bracket) | slash)
  · simp at empty
  · exact noBracket _ bracket
  · exact noSlash _ slash

theorem takeAttribute?_inFrontOf :
    ∃ shorter, takeAttribute? (Text.trimStart (blanks ++ pair.inFrontOf rest)) =
      some ⟨pair.entry, rest, shorter⟩ := by
  rw [trimStart_inFrontOf areBlank, Attribute.inFrontOf]
  rcases Text.takeTo?_append pair.name.noEquals
    ('"' :: (pair.raw.text.toList ++ '"' :: rest)) with ⟨_, name⟩
  rcases Text.takeTo?_append pair.raw.noQuote rest with ⟨_, raw⟩
  refine ⟨by simp; omega, ?_⟩
  simp [takeAttribute?, name, raw, Attribute.entry, Attribute.key, pair.name.trimmed]

end

theorem readAttributes?_of_take {attributes : Members} {text : List Char}
    (goesOn : endsAttributes (Text.trimStart text) = false)
    {next : Taken (String × Value) (Text.trimStart text)}
    (taken : takeAttribute? (Text.trimStart text) = some next) :
    readAttributes? attributes text =
      readAttributes? (attributes.insert next.value.1 next.value.2) next.rest := by
  rw [readAttributes?, if_neg (by simp [goesOn]), taken]
  rfl

theorem readAttributes?_writes {ending : List Char}
    (atEnd : endsAttributes (Text.trimStart ending) = true) {attributes : List Attribute}
    {written : List Char} (writes : WritesAttributes attributes written) (sofar : Members) :
    readAttributes? sofar (written ++ ending) =
      some (Entries.insertAll (attributes.map Attribute.entry) sofar, Text.trimStart ending) := by
  induction writes generalizing sofar with
  | nil =>
      rw [List.nil_append, readAttributes?, if_pos atEnd]
      rfl
  | @cons pair rest blanks text areBlank _ induction =>
      rcases takeAttribute?_inFrontOf areBlank pair (text ++ ending) with ⟨_, taken⟩
      rw [List.append_assoc, inFrontOf_append,
        readAttributes?_of_take (endsAttributes_inFrontOf areBlank pair _) taken, induction]
      rfl

/-! ## Lines -/

structure IsEnding (ending : List Char) : Prop where
  filled : ∃ c rest, ending = c :: rest ∧ isKindChar c = false
  atEnd : endsAttributes (Text.trimStart ending) = true

theorem isEnding_bracket : IsEnding ['>'] := ⟨⟨_, _, rfl, by decide⟩, by decide⟩

theorem isEnding_ending (heading : Heading) (spelling : Spelling) :
    IsEnding (heading.ending spelling) := by
  cases spelling with
  | slash => exact ⟨⟨_, _, rfl, by decide⟩, rfl⟩
  | spacedSlash => exact ⟨⟨_, _, rfl, by decide⟩, rfl⟩
  | closed text isOneLine =>
      refine ⟨⟨_, _, rfl, by decide⟩, ?_⟩
      have bracket : Text.isBlank '>' = false := by decide
      simp [Heading.ending, Text.trimStart, bracket, endsAttributes]

theorem exists_behind_kind (attributes : List Attribute) {ending : List Char}
    (isEnding : IsEnding ending) :
    ∃ c rest, attributes.flatMap Attribute.written ++ ending = c :: rest ∧
      isKindChar c = false := by
  cases attributes with
  | nil => exact isEnding.filled
  | cons pair rest => exact ⟨_, _, rfl, by decide⟩

theorem isKindChar_of_mem {kind : TagKind} {c : Char} (member : c ∈ kind.text.toList) :
    isKindChar c = true := by
  simp only [isKindChar, Bool.and_eq_true, bne_iff_ne]
  refine ⟨⟨?_, ?_⟩, ?_⟩ <;> rintro rfl
  · exact kind.noSpace member
  · exact kind.noBracket member
  · exact kind.noSlash member

inductive IsTagLine (kind : TagKind) (attributes : List Attribute) : List Char → Prop
  | intro {indent written ending : List Char} (isIndent : Text.IsIndent indent)
      (writes : WritesAttributes attributes written)
      (endsKind : ∀ c ∈ (written ++ ending).head?, isKindChar c = false)
      (atEnd : endsAttributes (Text.trimStart ending) = true)
      (opens : ¬ ['<', '/'] <+: '<' :: (kind.text.toList ++ (written ++ ending))) :
      IsTagLine kind attributes (indent ++ '<' :: (kind.text.toList ++ (written ++ ending)))

theorem takeWhile_kind (kind : TagKind) {rest : List Char}
    (endsKind : ∀ c ∈ rest.head?, isKindChar c = false) :
    (kind.text.toList ++ rest).takeWhile isKindChar = kind.text.toList ∧
      (kind.text.toList ++ rest).dropWhile isKindChar = rest := by
  rw [List.takeWhile_append_of_pos fun _ => isKindChar_of_mem,
    List.dropWhile_append_of_pos fun _ => isKindChar_of_mem]
  cases rest with
  | nil => simp
  | cons c more => simp [endsKind c rfl]

theorem opening?_append {kind : TagKind} {attributes : List Attribute}
    {indent written ending : List Char} (isIndent : Text.IsIndent indent)
    (writes : WritesAttributes attributes written)
    (endsKind : ∀ c ∈ (written ++ ending).head?, isKindChar c = false)
    (atEnd : endsAttributes (Text.trimStart ending) = true)
    (opens : ¬ ['<', '/'] <+: '<' :: (kind.text.toList ++ (written ++ ending))) (number : Nat) :
    opening? ⟨number, indent ++ '<' :: (kind.text.toList ++ (written ++ ending))⟩ =
      .ok (some ⟨kind.text, Entries.ofList (attributes.map Attribute.entry),
        closesItself (Text.trimStart ending)⟩) := by
  rcases takeWhile_kind kind endsKind with ⟨kindTaken, kindDropped⟩
  have attributesRead := readAttributes?_writes atEnd writes []
  have kept : Text.dropIndent ('<' :: (kind.text.toList ++ (written ++ ending))) =
      '<' :: (kind.text.toList ++ (written ++ ending)) := rfl
  rw [opening?, Text.dropIndent_append isIndent, kept]
  split
  · rename_i tail same
    rw [same] at opens
    exact absurd ⟨tail, rfl⟩ opens
  · rename_i body _ same
    cases same
    simp [kindTaken, kindDropped, attributesRead, Entries.ofList]
  · rename_i other
    exact absurd rfl (other _)

theorem opening?_line (heading : Heading) {ending : List Char} (isEnding : IsEnding ending)
    (opens : ¬ ['<', '/'] <+: heading.line ending) {indent : List Char}
    (isIndent : Text.IsIndent indent) (number : Nat) :
    opening? ⟨number, indent ++ heading.line ending⟩ =
      .ok (some ⟨heading.kind.text, heading.attributes.map Attribute.entry,
        closesItself (Text.trimStart ending)⟩) := by
  have endsKind : ∀ c ∈ (heading.attributes.flatMap Attribute.written ++ ending).head?,
      isKindChar c = false := by
    rcases exists_behind_kind heading.attributes isEnding with ⟨c, rest, behind, notKind⟩
    rw [behind]
    intro first equal
    rwa [← Option.some.inj equal]
  have distinct : (Entries.keys (heading.attributes.map Attribute.entry)).Nodup := by
    rw [Entries.keys, List.map_map]
    exact heading.nodup
  have opened := opening?_append isIndent (writesAttributes_flatMap heading.attributes) endsKind
    isEnding.atEnd opens number
  rw [Entries.ofList_of_nodup distinct] at opened
  exact opened

theorem not_isPrefix_line (heading : Heading) {ending : List Char}
    (notSlash : ending.head? ≠ some '/') : ¬ ['<', '/'] <+: heading.line ending := by
  rintro ⟨tail, equal⟩
  have behind : '/' :: tail = heading.kind.text.toList ++
      (heading.attributes.flatMap Attribute.written ++ ending) := (List.cons.inj equal).2
  cases kind : heading.kind.text.toList with
  | cons c more =>
      rw [kind] at behind
      cases behind
      exact heading.kind.noSlash (by simp [kind])
  | nil =>
      cases attributes : heading.attributes with
      | nil =>
          rw [kind, attributes] at behind
          exact notSlash (by simp [← show '/' :: tail = ending from behind])
      | cons pair rest =>
          rw [kind, attributes] at behind
          exact absurd (List.cons.inj behind).1 (by decide)

theorem opening?_openingLine (heading : Heading) {indent : List Char}
    (isIndent : Text.IsIndent indent) (number : Nat) :
    opening? ⟨number, indent ++ heading.openingLine⟩ =
      .ok (some ⟨heading.kind.text, heading.attributes.map Attribute.entry, false⟩) := by
  have opens : ¬ ['<', '/'] <+: heading.line ['>'] := not_isPrefix_line heading (by decide)
  exact opening?_line heading isEnding_bracket opens isIndent number

theorem closesItself_ending (heading : Heading) (spelling : Spelling) :
    closesItself (Text.trimStart (heading.ending spelling)) = true := by
  cases spelling with
  | slash => rfl
  | spacedSlash => rfl
  | closed text isOneLine =>
      have bracket : Text.isBlank '>' = false := by decide
      have closes := Text.occursIn_append ['<', '/'] ('>' :: text.toList)
        (heading.kind.text.toList ++ ['>'])
      simpa [closesItself, Heading.ending, Text.trimStart, bracket, Heading.closingLine]
        using .inr closes

theorem opening?_onlyLine (heading : Heading) {spelling : Spelling}
    (opens : heading.OpensWith spelling) {indent : List Char}
    (isIndent : Text.IsIndent indent) (number : Nat) :
    opening? ⟨number, indent ++ heading.onlyLine spelling⟩ =
      .ok (some ⟨heading.kind.text, heading.attributes.map Attribute.entry, true⟩) := by
  rw [Heading.onlyLine, opening?_line heading (isEnding_ending heading spelling) opens isIndent,
    closesItself_ending]

theorem opening?_closingLine (heading : Heading) {indent : List Char}
    (isIndent : Text.IsIndent indent) (number : Nat) :
    opening? ⟨number, indent ++ heading.closingLine⟩ = .ok none := by
  rw [opening?, Text.dropIndent_append isIndent]
  rfl

end BroadcastScenes.Markup
