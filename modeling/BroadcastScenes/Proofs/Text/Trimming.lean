import BroadcastScenes.Text.Blank
import BroadcastScenes.Text.Cut
import Mathlib.Data.List.DropRight

/-!
# Trimming

Trimming stops at a character that is not blank, so what it does at one end of a text has nothing
to do with the other end. Blanks put around a text do not change what trimming leaves of it.
-/

namespace BroadcastScenes.Text

theorem trimStart_append_cons {c : Char} (notBlank : isBlank c = false)
    (before after : List Char) :
    trimStart (before ++ c :: after) = trimStart before ++ c :: after := by
  induction before with
  | nil => simp [trimStart, notBlank]
  | cons head tail induction =>
      by_cases blank : isBlank head = true
      · simpa [trimStart, blank] using induction
      · simp [trimStart, blank]

theorem trimEnd_append_cons {c : Char} (notBlank : isBlank c = false)
    (before after : List Char) :
    trimEnd (before ++ c :: after) = before ++ c :: trimEnd after := by
  have reversed := trimStart_append_cons notBlank after.reverse before.reverse
  rw [trimStart] at reversed
  simp [trimEnd, trimStart, reversed]

@[simp] theorem trimEnd_append_singleton {c : Char} (notBlank : isBlank c = false)
    (text : List Char) : trimEnd (text ++ [c]) = text ++ [c] :=
  trimEnd_append_cons notBlank text []

theorem exists_not_blank {text : List Char} (some_mark : allBlank text = false) :
    ∃ before c after, text = before ++ c :: after ∧ isBlank c = false := by
  rw [allBlank, List.all_eq_false] at some_mark
  rcases some_mark with ⟨c, member, notBlank⟩
  rcases List.append_of_mem member with ⟨before, after, split⟩
  exact ⟨before, c, after, split, Bool.eq_false_iff.mpr notBlank⟩

theorem trimStart_eq_nil_iff {text : List Char} : trimStart text = [] ↔ allBlank text = true := by
  rw [trimStart, List.dropWhile_eq_nil_iff, allBlank, List.all_eq_true]

theorem trim_eq_trimStart_trimEnd (text : List Char) : trim text = trimStart (trimEnd text) := by
  cases blank : allBlank text with
  | true =>
      rw [trim, trimStart_eq_nil_iff.mpr blank, trimEnd_eq_nil_iff.mpr blank]
      rfl
  | false =>
      rcases exists_not_blank blank with ⟨before, c, after, rfl, notBlank⟩
      rw [trim, trimStart_append_cons notBlank, trimEnd_append_cons notBlank,
        trimEnd_append_cons notBlank, trimStart_append_cons notBlank]

theorem trim_append_singleton {c : Char} (notBlank : isBlank c = false) (text : List Char) :
    trim (text ++ [c]) = trimStart text ++ [c] := by
  rw [trim_eq_trimStart_trimEnd, trimEnd_append_singleton notBlank,
    trimStart_append_cons notBlank]

@[simp] theorem trimStart_trimStart (text : List Char) :
    trimStart (trimStart text) = trimStart text :=
  List.dropWhile_idempotent isBlank text

@[simp] theorem trim_trimStart (text : List Char) : trim (trimStart text) = trim text := by
  rw [trim, trimStart_trimStart, ← trim]

theorem trimStart_of_trim_eq {text : List Char} (trimmed : trim text = text) :
    trimStart text = text := by
  rw [← trimmed, trim_eq_trimStart_trimEnd, trimStart_trimStart]

/-! ## Blanks around a text -/

theorem isBlank_eq_false_of_ascii {c : Char} (above : 0x20 < c.toNat) (below : c.toNat < 0x7F) :
    isBlank c = false := by
  simp only [isBlank, blankRuns, CodeRuns.covers, List.any_cons, List.any_nil, Bool.or_false,
    Bool.or_eq_false_iff, Bool.and_eq_false_iff, decide_eq_false_iff_not]
  omega

theorem isBlank_openingBrace : isBlank '\x7b' = false := by decide

theorem isBlank_colon : isBlank ':' = false := by decide

theorem trimStart_append_of_allBlank {blanks : List Char} (blank : allBlank blanks = true)
    (text : List Char) : trimStart (blanks ++ text) = trimStart text :=
  List.dropWhile_append_of_pos (List.all_eq_true.mp blank)

theorem trimEnd_append_of_allBlank {blanks : List Char} (blank : allBlank blanks = true)
    (text : List Char) : trimEnd (text ++ blanks) = trimEnd text := by
  have blankReversed : allBlank blanks.reverse = true := by simpa [allBlank] using blank
  have reversed := trimStart_append_of_allBlank blankReversed text.reverse
  rw [trimEnd, List.reverse_append]
  exact congrArg List.reverse reversed

theorem allBlank_append_left {blanks : List Char} (blank : allBlank blanks = true)
    (text : List Char) : allBlank (blanks ++ text) = allBlank text := by
  rw [allBlank, List.all_append, ← allBlank, blank, Bool.true_and, ← allBlank]

theorem getLast?_trimEnd_append {blanks : List Char} (blank : allBlank blanks = true)
    (text : List Char) : (trimEnd (blanks ++ text)).getLast? = (trimEnd text).getLast? := by
  cases textBlank : allBlank text with
  | true =>
      have bothBlank : allBlank (blanks ++ text) = true := by
        rw [allBlank_append_left blank, textBlank]
      rw [trimEnd_eq_nil_iff.mpr textBlank, trimEnd_eq_nil_iff.mpr bothBlank]
  | false =>
      rcases exists_not_blank textBlank with ⟨before, c, after, rfl, notBlank⟩
      rw [← List.append_assoc, trimEnd_append_cons notBlank, trimEnd_append_cons notBlank]
      simp only [List.getLast?_append, List.getLast?_cons, Option.some_or]

theorem trim_append_left {blanks : List Char} (blank : allBlank blanks = true)
    (text : List Char) : trim (blanks ++ text) = trim text := by
  rw [trim, trimStart_append_of_allBlank blank, ← trim]

theorem trim_append_right {blanks : List Char} (blank : allBlank blanks = true)
    (text : List Char) : trim (text ++ blanks) = trim text := by
  rw [trim_eq_trimStart_trimEnd, trimEnd_append_of_allBlank blank, ← trim_eq_trimStart_trimEnd]

theorem mem_of_mem_trim {c : Char} {text : List Char} (member : c ∈ trim text) : c ∈ text := by
  have inStart : c ∈ trimStart text := by
    rw [trim, trimEnd, List.mem_reverse] at member
    exact List.mem_reverse.mp ((List.dropWhile_sublist _).subset member)
  exact (List.dropWhile_sublist _).subset inStart

/-! ## Layout in front of a line -/

def IsIndent (indent : List Char) : Prop := ∀ c ∈ indent, c = ' ' ∨ c = '\t'

instance (indent : List Char) : Decidable (IsIndent indent) :=
  List.decidableBAll (fun c => c = ' ' ∨ c = '\t') indent

theorem isIndent_nil : IsIndent [] := nofun

theorem IsIndent.allBlank {indent : List Char} (isIndent : IsIndent indent) :
    allBlank indent = true := by
  apply List.all_eq_true.mpr
  intro c member
  rcases isIndent c member with rfl | rfl <;> decide

theorem dropIndent_append {indent : List Char} (isIndent : IsIndent indent)
    (line : List Char) : dropIndent (indent ++ line) = dropIndent line := by
  apply List.dropWhile_append_of_pos
  intro c member
  rcases isIndent c member with rfl | rfl <;> rfl

theorem exists_eq_append_dropIndent (line : List Char) :
    ∃ indent, IsIndent indent ∧ line = indent ++ dropIndent line := by
  refine ⟨line.takeWhile fun c => c == ' ' || c == '\t', ?_, ?_⟩
  · intro c member
    simpa using List.mem_takeWhile_imp member
  · exact List.takeWhile_append_dropWhile.symm

@[simp] theorem trim_dropIndent (line : List Char) : trim (dropIndent line) = trim line := by
  rcases exists_eq_append_dropIndent line with ⟨indent, isIndent, split⟩
  conv => rhs; rw [split]
  exact (trim_append_left isIndent.allBlank _).symm

theorem mem_dropIndent_iff {c : Char} (notIndent : c ≠ ' ' ∧ c ≠ '\t') {line : List Char} :
    c ∈ dropIndent line ↔ c ∈ line := by
  rcases exists_eq_append_dropIndent line with ⟨indent, isIndent, split⟩
  constructor
  · intro member
    rw [split]
    exact List.mem_append_right _ member
  · intro member
    rw [split] at member
    rcases List.mem_append.mp member with inIndent | inRest
    · rcases isIndent c inIndent with space | tab
      · exact absurd space notIndent.1
      · exact absurd tab notIndent.2
    · exact inRest

/-! ## One final character -/

theorem mem_of_mem_dropFinal {c mark : Char} {text : List Char}
    (member : c ∈ dropFinal mark text) : c ∈ text := by
  rw [dropFinal] at member
  split at member
  · exact (List.dropLast_sublist text).subset member
  · exact member

@[simp] theorem dropFinal_append_singleton (mark : Char) (text : List Char) :
    dropFinal mark (text ++ [mark]) = text := by
  simp [dropFinal]

theorem dropFinal_of_getLast?_ne {mark : Char} {text : List Char}
    (different : text.getLast? ≠ some mark) : dropFinal mark text = text :=
  if_neg different

theorem getLast?_trimStart_eq_iff {mark : Char} (notBlank : isBlank mark = false)
    (text : List Char) : (trimStart text).getLast? = some mark ↔ text.getLast? = some mark := by
  rw [List.getLast?_eq_some_iff, List.getLast?_eq_some_iff]
  constructor
  · rintro ⟨shorter, equal⟩
    have whole : text.takeWhile isBlank ++ trimStart text = text :=
      List.takeWhile_append_dropWhile
    rw [equal, ← List.append_assoc] at whole
    exact ⟨_, whole.symm⟩
  · rintro ⟨shorter, rfl⟩
    exact ⟨_, trimStart_append_cons notBlank shorter []⟩

theorem dropFinal_trimStart {mark : Char} (notBlank : isBlank mark = false)
    (text : List Char) : dropFinal mark (trimStart text) = trimStart (dropFinal mark text) := by
  by_cases last : text.getLast? = some mark
  · rcases List.getLast?_eq_some_iff.mp last with ⟨shorter, rfl⟩
    rw [trimStart_append_cons notBlank, dropFinal_append_singleton, dropFinal_append_singleton]
  · rw [dropFinal_of_getLast?_ne last, dropFinal_of_getLast?_ne]
    rwa [Ne, getLast?_trimStart_eq_iff notBlank]

end BroadcastScenes.Text
