import BroadcastScenes.Proofs.Json.RoundTrip
import BroadcastScenes.Text.Slashes

/-!
# Strings with slashes for backslashes

When the backslashes of a JSON text are taken for separators of paths and become slashes, escapes
become plain text. Strings without escapes are not touched. A string with an escape is read as
something else, and behind an escaped quote there is no reading at all: the quote ends its string
too early, and what stands behind it continues no object.
-/

namespace BroadcastScenes.Json

def toSlash (c : Char) : Char := if c = '\\' then '/' else c

theorem forwardSlashes_eq (text : String) :
    Text.forwardSlashes text = String.ofList (text.toList.map toSlash) := rfl

/-- What becomes of the written form of a character: a doubled backslash becomes one slash, and each
other backslash becomes one as well. -/
def slashed (c : Char) : List Char :=
  if c = '\\' then ['/'] else (escapedText c).map toSlash

def IsVerbatim (c : Char) : Prop := escapedText c = [c]

instance (c : Char) : Decidable (IsVerbatim c) := inferInstanceAs (Decidable (_ = _))

theorem isVerbatim_iff (c : Char) : IsVerbatim c ↔ c ≠ '"' ∧ c ≠ '\\' ∧ 0x20 ≤ c.toNat := by
  have isEscape := isEscape_escapedText c
  rw [IsVerbatim]
  constructor
  · intro same
    rw [same] at isEscape
    cases isEscape with
    | plain notQuote notBackslash visible => exact ⟨notQuote, notBackslash, visible⟩
  · rintro ⟨notQuote, notBackslash, visible⟩
    have notControl : ∀ control : Char, control.toNat < 0x20 → c ≠ control := by
      rintro control small rfl
      omega
    rw [escapedText, if_neg notQuote, if_neg notBackslash, if_neg (notControl '\n' (by decide)),
      if_neg (notControl '\r' (by decide)), if_neg (notControl '\t' (by decide)),
      if_neg (notControl '\x08' (by decide)), if_neg (notControl '\x0C' (by decide)),
      if_neg (not_lt.mpr visible)]

theorem flatMap_escapedText {text : List Char} (verbatim : ∀ c ∈ text, IsVerbatim c) :
    text.flatMap escapedText = text := by
  induction text with
  | nil => rfl
  | cons head tail induction =>
      rw [List.flatMap_cons, verbatim head List.mem_cons_self,
        induction fun c member => verbatim c (List.mem_cons_of_mem _ member)]
      rfl

/-! ## One character -/

inductive IsSlashed (c : Char) : List Char → Prop
  | same (verbatim : IsVerbatim c) : IsSlashed c [c]
  | quote (isQuote : c = '"') : IsSlashed c ['/', '"']
  | changed {tail : List Char} (notVerbatim : ¬ IsVerbatim c) (notQuote : c ≠ '"')
      (verbatim : ∀ other ∈ tail, IsVerbatim other) : IsSlashed c ('/' :: tail)

theorem isVerbatim_digitChar : ∀ digit < 16, IsVerbatim (Nat.digitChar digit) := by
  decide

theorem map_toSlash_of_not_mem {text : List Char} (absent : '\\' ∉ text) :
    text.map toSlash = text := by
  have same : ∀ c ∈ text, toSlash c = id c := fun c member =>
    if_neg fun equal : c = '\\' => absent (equal ▸ member)
  rw [List.map_congr_left same, List.map_id]

theorem backslash_not_mem_of_isVerbatim {text : List Char}
    (verbatim : ∀ c ∈ text, IsVerbatim c) : '\\' ∉ text :=
  fun member => absurd (verbatim '\\' member) (by decide)

theorem IsSlashed.escape {c : Char} {tail : List Char} (notVerbatim : ¬ IsVerbatim c)
    (notQuote : c ≠ '"') (verbatim : ∀ other ∈ tail, IsVerbatim other) :
    IsSlashed c (('\\' :: tail).map toSlash) := by
  rw [List.map_cons, map_toSlash_of_not_mem (backslash_not_mem_of_isVerbatim verbatim)]
  exact .changed notVerbatim notQuote verbatim

theorem IsSlashed.marked {c mark : Char} (notVerbatim : ¬ IsVerbatim c) (notQuote : c ≠ '"')
    (verbatim : IsVerbatim mark) : IsSlashed c (['\\', mark].map toSlash) :=
  .escape notVerbatim notQuote (List.forall_mem_singleton.mpr verbatim)

theorem isSlashed_slashed (c : Char) : IsSlashed c (slashed c) := by
  unfold slashed
  split_ifs with backslash
  · subst backslash
    exact .changed (by decide) (by decide) (List.forall_mem_nil _)
  · unfold escapedText
    split_ifs with quote lineFeed carriageReturn tab backspace formFeed control
    · exact .quote quote
    · subst lineFeed
      exact .marked (by decide) (by decide) (by decide)
    · subst carriageReturn
      exact .marked (by decide) (by decide) (by decide)
    · subst tab
      exact .marked (by decide) (by decide) (by decide)
    · subst backspace
      exact .marked (by decide) (by decide) (by decide)
    · subst formFeed
      exact .marked (by decide) (by decide) (by decide)
    · refine .escape ?_ quote ?_
      · rw [isVerbatim_iff]
        exact fun plain => absurd control (not_lt.mpr plain.2.2)
      · have high := isVerbatim_digitChar (c.toNat / 16) (by omega)
        have low := isVerbatim_digitChar (c.toNat % 16) (by omega)
        simp only [List.forall_mem_cons]
        exact ⟨by decide, by decide, by decide, high, low, List.forall_mem_nil _⟩
    · have plain : IsVerbatim c := (isVerbatim_iff c).mpr ⟨quote, backslash, not_lt.mp control⟩
      rw [map_toSlash_of_not_mem (by simpa using Ne.symm backslash)]
      exact .same plain

theorem flatMap_slashed_eq_iff {text : List Char} :
    text.flatMap slashed = text ↔ ∀ c ∈ text, IsVerbatim c := by
  induction text with
  | nil => simp
  | cons c rest induction =>
      have isSlashed := isSlashed_slashed c
      rw [List.flatMap_cons, List.forall_mem_cons]
      generalize slashed c = result at isSlashed
      cases isSlashed with
      | same verbatim =>
          rw [List.singleton_append, List.cons_inj_right, induction]
          exact ⟨fun others => ⟨verbatim, others⟩, And.right⟩
      | quote isQuote =>
          subst isQuote
          exact ⟨fun equal => absurd (List.cons.inj equal).1 (by decide),
            fun verbatim => absurd verbatim.1 (by decide)⟩
      | changed notVerbatim _ _ =>
          refine ⟨fun equal => ?_, fun verbatim => absurd verbatim.1 notVerbatim⟩
          have isSlash : '/' = c := (List.cons.inj equal).1
          exact absurd (isSlash ▸ (by decide : IsVerbatim '/')) notVerbatim

/-! ## Both passes -/

theorem collapsePairs_append_of_not_mem {front : List Char} (absent : '\\' ∉ front)
    (rest : List Char) :
    Text.collapsePairs (front ++ rest) = front ++ Text.collapsePairs rest := by
  induction front with
  | nil => rfl
  | cons head tail induction =>
      have different : head ≠ '\\' := fun equal => absent (by simp [equal])
      rw [List.cons_append, Text.collapsePairs,
        induction fun member => absent (List.mem_cons_of_mem _ member), List.cons_append]
      intro behind isBackslash
      exact absurd isBackslash different

theorem collapsePairs_escape {mark : Char} {front : List Char} (absent : '\\' ∉ mark :: front)
    (rest : List Char) :
    Text.collapsePairs ('\\' :: mark :: front ++ rest) =
      '\\' :: mark :: front ++ Text.collapsePairs rest := by
  have single : Text.collapsePairs ('\\' :: (mark :: front ++ rest)) =
      '\\' :: Text.collapsePairs (mark :: front ++ rest) := by
    rw [Text.collapsePairs]
    intro behind _ equal
    exact absurd ((List.cons.inj equal).1 ▸ List.mem_cons_self) absent
  rw [List.cons_append, single, collapsePairs_append_of_not_mem absent]
  rfl

/-- Pairs of backslashes are written for backslashes only, and no pair spans two characters. -/
theorem collapsePairs_escapedText_append (c : Char) (rest : List Char) :
    Text.collapsePairs (escapedText c ++ rest) =
      (if c = '\\' then ['/'] else escapedText c) ++ Text.collapsePairs rest := by
  by_cases backslash : c = '\\'
  · subst backslash
    rfl
  · have isEscape := isEscape_escapedText c
    rw [if_neg backslash]
    generalize escapedText c = escape at isEscape ⊢
    cases isEscape with
    | @marked mark meant _ =>
        have notBackslash : mark ≠ '\\' := by
          rintro rfl
          exact backslash (Option.some.inj meant).symm
        exact collapsePairs_escape (by simpa using notBackslash.symm) rest
    | numbered control =>
        have notBackslash : ∀ digit < 16, '\\' ≠ Nat.digitChar digit := fun digit small equal =>
          ((isVerbatim_iff _).mp (isVerbatim_digitChar digit small)).2.1 equal.symm
        refine collapsePairs_escape ?_ rest
        simp [notBackslash (c.toNat / 16) (by omega), notBackslash (c.toNat % 16) (by omega)]
    | plain _ notBackslash _ =>
        exact collapsePairs_append_of_not_mem (by simpa using notBackslash.symm) rest

theorem collapsePairs_flatMap_append (text rest : List Char) :
    Text.collapsePairs (text.flatMap escapedText ++ rest) =
      (text.flatMap fun c => if c = '\\' then ['/'] else escapedText c) ++
        Text.collapsePairs rest := by
  induction text with
  | nil => rfl
  | cons head tail induction =>
      rw [List.flatMap_cons, List.append_assoc, collapsePairs_escapedText_append, induction,
        List.flatMap_cons, List.append_assoc]

theorem forwardSlashes_collapseSlashes {front back : List Char} (frontAbsent : '\\' ∉ front)
    (backAbsent : '\\' ∉ back) (text : List Char) :
    Text.forwardSlashes (Text.collapseSlashes
        (String.ofList (front ++ (text.flatMap escapedText ++ back)))) =
      String.ofList (front ++ (text.flatMap slashed ++ back)) := by
  have backSame : Text.collapsePairs back = back := by
    simpa [Text.collapsePairs] using collapsePairs_append_of_not_mem backAbsent []
  have each : (text.flatMap fun c => if c = '\\' then ['/'] else escapedText c).map toSlash =
      text.flatMap slashed := by
    rw [List.map_flatMap]
    apply List.flatMap_congr
    intro c _
    rw [slashed]
    split <;> rfl
  rw [Text.collapseSlashes, String.toList_ofList, collapsePairs_append_of_not_mem frontAbsent,
    collapsePairs_flatMap_append, backSame, forwardSlashes_eq, String.toList_ofList,
    List.map_append, List.map_append, map_toSlash_of_not_mem frontAbsent,
    map_toSlash_of_not_mem backAbsent, each]

/-! ## Reading strings without escapes -/

theorem isVerbatim_of_mem_slashed {c other : Char} (notQuote : c ≠ '"')
    (member : other ∈ slashed c) : IsVerbatim other := by
  have isSlashed := isSlashed_slashed c
  generalize slashed c = result at isSlashed member
  cases isSlashed with
  | same verbatim => exact List.mem_singleton.mp member ▸ verbatim
  | quote isQuote => exact absurd isQuote notQuote
  | changed _ _ verbatim =>
      rcases List.mem_cons.mp member with rfl | inTail
      · decide
      · exact verbatim other inTail

theorem isVerbatim_of_mem_flatMap_slashed {text : List Char} (noQuote : '"' ∉ text) :
    ∀ c ∈ text.flatMap slashed, IsVerbatim c := by
  intro c member
  rcases List.mem_flatMap.mp member with ⟨other, otherMember, inSlashed⟩
  exact isVerbatim_of_mem_slashed (fun equal => noQuote (equal ▸ otherMember)) inSlashed

theorem takes_verbatim {text : List Char} (verbatim : ∀ c ∈ text, IsVerbatim c)
    (rest : List Char) :
    Takes (takeValue? ('"' :: (text ++ '"' :: rest))) (.string (some (String.ofList text)))
      rest := by
  have takes := takes_string (String.ofList text) rest
  rw [String.toList_ofList, flatMap_escapedText verbatim] at takes
  exact takes_scalar (by decide) (by decide) (takes.map Written.string (Nat.le_succ _))

/-! ## Reading behind an escaped quote -/

def LeavesQuote {input : List Char} (step : Option (Taken α input)) : Prop :=
  ∀ taken, step = some taken → '"' ∈ taken.rest

theorem leavesQuote_of_eq_none {input : List Char} {step : Option (Taken α input)}
    (nothing : step = none) : LeavesQuote step := by
  intro taken found
  rw [nothing] at found
  cases found

theorem skipBlanks_cons_of_isBlank {c : Char} (blank : isBlank c = true) (rest : List Char) :
    skipBlanks (c :: rest) = skipBlanks rest := by
  rw [skipBlanks, List.dropWhile_cons_of_pos blank, ← skipBlanks]

theorem takeKey?_eq_none {c : Char} (notQuote : c ≠ '"') (rest : List Char) :
    takeKey? (c :: rest) = none := by
  rw [takeKey?]
  intro behind equal
  exact absurd (List.cons.inj equal).1 notQuote

theorem takeMoreMembers?_eq_none {c : Char} (notEnd : c ≠ '\x7d') (notComma : c ≠ ',')
    (rest : List Char) : takeMoreMembers? (c :: rest) = none := by
  rw [takeMoreMembers?]
  · intro behind equal
    exact absurd (List.cons.inj equal).1 notEnd
  · intro behind equal
    exact absurd (List.cons.inj equal).1 notComma

def behindQuote (text : List Char) : List Char := text.flatMap slashed ++ ['"', '\x7d']

theorem behindQuote_cons (c : Char) (rest : List Char) :
    behindQuote (c :: rest) = slashed c ++ behindQuote rest := by
  rw [behindQuote, List.flatMap_cons, List.append_assoc, ← behindQuote]

theorem quote_mem_behindQuote (text : List Char) : '"' ∈ behindQuote text :=
  List.mem_append_right _ List.mem_cons_self

/-- Only what is written as itself can be a part of JSON outside of strings. -/
theorem behindQuote_cases (text : List Char) :
    skipBlanks (behindQuote text) = ['"', '\x7d'] ∨
    (∃ rest, skipBlanks (behindQuote text) = '/' :: rest) ∨
    (∃ c rest, skipBlanks (behindQuote text) = c :: behindQuote rest ∧ c ≠ '"') := by
  induction text with
  | nil => exact .inl rfl
  | cons c rest induction =>
      rw [behindQuote_cons]
      have isSlashed := isSlashed_slashed c
      generalize slashed c = result at isSlashed ⊢
      cases isSlashed with
      | same verbatim =>
          cases blank : isBlank c with
          | true =>
              rw [List.singleton_append, skipBlanks_cons_of_isBlank blank]
              exact induction
          | false =>
              refine .inr (.inr ⟨c, rest, ?_, ((isVerbatim_iff c).mp verbatim).1⟩)
              exact skipBlanks_cons blank _
      | quote _ => exact .inr (.inl ⟨_, skipBlanks_cons rfl _⟩)
      | changed _ _ _ => exact .inr (.inl ⟨_, skipBlanks_cons rfl _⟩)

/-- The only quote that no slash precedes is the last one, and no key ends behind it. -/
theorem takeKey?_behindQuote (text : List Char) :
    takeKey? (skipBlanks (behindQuote text)) = none := by
  rcases behindQuote_cases text with start | ⟨rest, start⟩ | ⟨c, rest, start, notQuote⟩
  · rw [start]
    rfl
  · rw [start]
    exact takeKey?_eq_none (by decide) rest
  · rw [start]
    exact takeKey?_eq_none notQuote _

theorem leavesQuote_moreMembers (text : List Char) :
    LeavesQuote (takeMoreMembers? (skipBlanks (behindQuote text))) := by
  rcases behindQuote_cases text with start | ⟨rest, start⟩ | ⟨c, rest, start, notQuote⟩
  · rw [start]
    exact leavesQuote_of_eq_none (takeMoreMembers?_eq_none (by decide) (by decide) _)
  · rw [start]
    exact leavesQuote_of_eq_none (takeMoreMembers?_eq_none (by decide) (by decide) _)
  · rw [start]
    by_cases isEnd : c = '\x7d'
    · subst isEnd
      intro taken found
      rw [takeMoreMembers?] at found
      cases found
      exact quote_mem_behindQuote rest
    · by_cases isComma : c = ','
      · subst isComma
        apply leavesQuote_of_eq_none
        rw [takeMoreMembers?, takeMembers?, takeKey?_behindQuote]
        rfl
      · exact leavesQuote_of_eq_none (takeMoreMembers?_eq_none isEnd isComma _)

theorem leavesQuote_members {text afterKey afterFirst : List Char} {key : String}
    {first : Written} (takesKey : Takes (takeKey? text) (some key) afterKey)
    (takes : Takes (takeValue? (skipBlanks afterKey)) first afterFirst)
    (leaves : LeavesQuote (takeMoreMembers? (skipBlanks afterFirst))) :
    LeavesQuote (takeMembers? text) := by
  rcases takesKey with ⟨shorterKey, takenKey⟩
  rcases takes with ⟨shorter, taken⟩
  intro members found
  rw [takeMembers?, takenKey] at found
  simp only [Option.bind_eq_bind, Option.bind_some, taken] at found
  rcases Option.bind_eq_some_iff.mp found with ⟨more, moreTaken, equal⟩
  cases equal
  exact leaves more moreTaken

theorem leavesQuote_object {text : List Char} (noBlanks : skipBlanks text = text)
    (notEmpty : ∀ rest, text ≠ '\x7d' :: rest) (leaves : LeavesQuote (takeMembers? text)) :
    LeavesQuote (takeValue? ('\x7b' :: text)) := by
  intro object found
  rw [takeValue?] at found
  rcases Option.map_eq_some_iff.mp found with ⟨members, taken, rfl⟩
  have inside : LeavesQuote (takeObject? (skipBlanks text)) := by
    rw [noBlanks, takeObject?]
    · exact leaves
    · exact fun rest => notEmpty rest
  exact inside members taken

theorem read?_eq_none_of_leavesQuote {text : List Char} (noBlanks : skipBlanks text = text)
    (leaves : LeavesQuote (takeValue? text)) : read? (String.ofList text) = none := by
  have nothing : written? (String.ofList text) = none := by
    rw [written?, String.toList_ofList, noBlanks]
    cases found : takeValue? text with
    | none => rfl
    | some taken =>
        have notBlank : skipBlanks taken.rest ≠ [] := by
          rw [skipBlanks, Ne, List.dropWhile_eq_nil_iff]
          exact fun blanks => absurd (blanks '"' (leaves taken found)) (by decide)
        simp [notBlank]
  rw [read?, nothing]
  rfl

/-! ## Objects with one string -/

def slashedObject (key : String) (text : List Char) : List Char :=
  '\x7b' :: (quoted key ++ ':' :: '"' :: behindQuote text)

/-- Behind an escaped quote the object cannot go on, and without one the string is read with its
slashes. -/
theorem read?_slashedObject (key : String) (text : List Char) :
    read? (String.ofList (slashedObject key text)) =
      if '"' ∈ text then none
      else some (.object [(key, .string (String.ofList (text.flatMap slashed)))]) := by
  split
  · rename_i member
    rcases List.eq_append_cons_of_mem member with ⟨before, after, rfl, absent⟩
    have verbatim : ∀ c ∈ before.flatMap slashed ++ ['/'], IsVerbatim c :=
      List.forall_mem_append.mpr ⟨isVerbatim_of_mem_flatMap_slashed absent,
        List.forall_mem_singleton.mpr (by decide)⟩
    have string := takes_verbatim verbatim (behindQuote after)
    have behind : behindQuote (before ++ '"' :: after) =
        before.flatMap slashed ++ ['/'] ++ '"' :: behindQuote after := by
      have quote : slashed '"' = ['/', '"'] := by decide
      simp [behindQuote, quote]
    rw [← behind, ← skipBlanks_cons rfl] at string
    apply read?_eq_none_of_leavesQuote (skipBlanks_cons rfl _)
    apply leavesQuote_object (skipBlanks_cons rfl _)
    · intro rest equal
      exact absurd (List.cons.inj equal).1 (by decide)
    · exact leavesQuote_members (takes_key key _) string (leavesQuote_moreMembers after)
  · rename_i noQuote
    have verbatim := isVerbatim_of_mem_flatMap_slashed noQuote
    let value := Json.object [(key, .string (String.ofList (text.flatMap slashed)))]
    have isWritable : value.IsWritable :=
      .object (List.nodup_singleton _) (List.forall_mem_singleton.mpr (.string _))
    have written : slashedObject key text = value.compactText := by
      simp [value, slashedObject, compactText, compactMembers, scalarText, behindQuote, quoted,
        flatMap_escapedText verbatim]
    have reading := read?_compact isWritable
    rw [compact, ← written] at reading
    exact reading

end BroadcastScenes.Json
