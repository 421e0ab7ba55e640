import BroadcastScenes.Text.Cut
import Mathlib.Data.List.Basic

/-!
# Cuts

A text that is put together around a mark is cut at that mark, if the mark does not occur before.
A run of characters without the mark begins the text only if it begins what stands before.
-/

namespace BroadcastScenes.Text

theorem cutAt?_append {mark : Char} {before : List Char} (absent : mark ∉ before)
    (after : List Char) : cutAt? mark (before ++ mark :: after) = some (before, after) := by
  induction before with
  | nil => simp [cutAt?]
  | cons head tail induction =>
      have different : head ≠ mark := fun equal => absent (by simp [equal])
      have tailAbsent : mark ∉ tail := fun member => absent (List.mem_cons_of_mem _ member)
      simp [cutAt?, different, induction tailAbsent]

theorem cutAt?_eq_none_iff {mark : Char} {text : List Char} :
    cutAt? mark text = none ↔ mark ∉ text := by
  constructor
  · intro uncut member
    rcases List.eq_append_cons_of_mem member with ⟨before, after, rfl, notBefore⟩
    rw [cutAt?_append notBefore] at uncut
    cases uncut
  · intro absent
    cases cut : cutAt? mark text with
    | none => rfl
    | some pair =>
        rw [(cutAt?_eq_some cut).1] at absent
        exact absurd (by simp) absent

theorem takeTo?_append {mark : Char} {before : List Char} (absent : mark ∉ before)
    (after : List Char) :
    ∃ shorter, takeTo? mark (before ++ mark :: after) = some ⟨before, after, shorter⟩ := by
  have whole := cutAt?_append absent after
  unfold takeTo?
  split
  · rename_i left right cut
    cases Option.some.inj (cut.symm.trans whole)
    exact ⟨length_after_lt_of_cutAt? whole, rfl⟩
  · rename_i cut
    rw [whole] at cut
    cases cut

theorem occursIn_append (mark before after : List Char) :
    occursIn mark (before ++ (mark ++ after)) = true := by
  induction before with
  | nil =>
      have begins : mark.isPrefixOf? (mark ++ after) = some after :=
        List.isPrefixOf?_eq_some_iff_append_eq.mpr rfl
      cases whole : mark ++ after with
      | nil => simp_all [occursIn, cutAtRun?]
      | cons head tail =>
          rw [whole] at begins
          simp [occursIn, cutAtRun?, begins]
  | cons head tail induction =>
      rw [List.cons_append, occursIn, cutAtRun?]
      split
      · rfl
      · simpa [occursIn] using induction

theorem isPrefix_of_isPrefix_append_cons {run before after : List Char} {mark : Char}
    (absent : mark ∉ run) (begins : run <+: before ++ mark :: after) : run <+: before := by
  have markBehind : before ++ [mark] <+: before ++ mark :: after := by simp
  rcases Nat.lt_or_ge before.length run.length with longer | within
  · have covered := List.prefix_of_prefix_length_le markBehind begins (by simp; omega)
    exact absurd (covered.subset (by simp)) absent
  · exact List.prefix_of_prefix_length_le begins (List.prefix_append before _) within

end BroadcastScenes.Text
