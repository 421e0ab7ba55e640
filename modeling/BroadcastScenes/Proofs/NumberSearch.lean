import BroadcastScenes.Proofs.AssignedNames
import Mathlib.Data.Finset.Card
import Mathlib.Order.Bounds.Defs

/-!
# The search for a free number

The number behind a name that is taken is found by trying one number after the other, with no bound
on how far the search goes. It ends because there are only finitely many taken names, and it makes
no more attempts than there are of them.
-/

namespace BroadcastScenes

/-- A search that is about to try this number ends after so many attempts, with this name. -/
inductive SearchEnds (isTaken : String → Prop) (name : String) : Nat → Nat → String → Prop
  | free {number : Nat} (isFree : ¬ isTaken (numbered name number)) :
      SearchEnds isTaken name number 1 (numbered name number)
  | next {number attempts : Nat} {found : String} (taken : isTaken (numbered name number))
      (ends : SearchEnds isTaken name (number + 1) attempts found) :
      SearchEnds isTaken name number (attempts + 1) found

variable {isTaken : String → Prop} {name : String}

theorem SearchEnds.exists_free {start attempts : Nat} {found : String}
    (ends : SearchEnds isTaken name start attempts found) :
    ∃ number, start + attempts = number + 1 ∧ found = numbered name number ∧
      ¬ isTaken (numbered name number) ∧
      ∀ earlier, start ≤ earlier → earlier < number → isTaken (numbered name earlier) := by
  induction ends with
  | @free number isFree => exact ⟨number, rfl, rfl, isFree, by omega⟩
  | @next first attempts found taken _ induction =>
      rcases induction with ⟨number, count, same, isFree, before⟩
      refine ⟨number, by omega, same, isFree, ?_⟩
      intro earlier notBefore below
      rcases Nat.eq_or_lt_of_le notBefore with rfl | later
      · exact taken
      · exact before earlier later below

theorem searchEnds_of_free {number : Nat} (isFree : ¬ isTaken (numbered name number)) :
    ∀ {start attempts : Nat}, start + attempts = number + 1 → 0 < attempts →
      (∀ earlier, start ≤ earlier → earlier < number → isTaken (numbered name earlier)) →
      SearchEnds isTaken name start attempts (numbered name number) := by
  intro start attempts count positive before
  induction attempts generalizing start with
  | zero => cases positive
  | succ more induction =>
      rcases Nat.eq_zero_or_pos more with rfl | ahead
      · obtain rfl : start = number := by omega
        exact .free isFree
      · apply SearchEnds.next (before start le_rfl (by omega))
        apply induction (by omega) ahead
        intro earlier notBefore below
        exact before earlier (by omega) below

/-- The search from zero ends in one way only: with the least free number, after one attempt for
each number up to it. -/
theorem searchEnds_iff {number : Nat}
    (isLeast : IsLeast {free | ¬ isTaken (numbered name free)} number) (attempts : Nat)
    (found : String) :
    SearchEnds isTaken name 0 attempts found ↔
      attempts = number + 1 ∧ found = numbered name number := by
  have before : ∀ earlier, earlier < number → isTaken (numbered name earlier) := by
    intro earlier below
    by_contra isFree
    exact absurd (isLeast.2 isFree) (by omega)
  constructor
  · intro ends
    rcases ends.exists_free with ⟨last, count, rfl, isFree, taken⟩
    obtain rfl : last = number := by
      apply Nat.le_antisymm _ (isLeast.2 isFree)
      by_contra later
      exact isLeast.1 (taken number (Nat.zero_le _) (by omega))
    exact ⟨by omega, rfl⟩
  · rintro ⟨rfl, rfl⟩
    exact searchEnds_of_free isLeast.1 (by omega) (by omega) fun earlier _ => before earlier

theorem exists_isLeast_freeName {taken : List String} (member : name ∈ taken) :
    ∃ number, number < taken.toFinset.card ∧ freeName taken name = numbered name number ∧
      IsLeast {free | numbered name free ∉ taken} number := by
  have same : SameNames taken taken.dedup := fun other => List.mem_dedup.symm
  rcases freeName_of_mem ((same name).mp member) with ⟨number, below, equal, isFree, least⟩
  rw [← same] at isFree
  refine ⟨number, ?_, (same.freeName_eq name).trans equal, isFree, ?_⟩
  · rwa [List.card_toFinset]
  · intro other otherFree
    by_contra smaller
    exact otherFree ((same _).mpr (least other (by omega)))

/-- A name that is free stays as it is. One that is taken gets the least number that makes it free,
which is below the count of the taken names, so that the search for it ends in time. No name that is
given out was taken before, however many are given out one after the other. -/
theorem free_names_have_least_numbers (taken : List String) (name : String) :
    (name ∉ taken → freeName taken name = name) ∧
      (name ∈ taken → ∃ number, number < taken.toFinset.card ∧
        freeName taken name = numbered name number ∧
        IsLeast {free | numbered name free ∉ taken} number ∧
        (∀ attempts found, SearchEnds (· ∈ taken) name 0 attempts found ↔
          attempts = number + 1 ∧ found = freeName taken name)) ∧
      freeName taken name ∉ taken ∧
      ∀ wanted, AreNew taken ((Roster.mk taken).assignAll wanted).1 := by
  refine ⟨freeName_of_not_mem, ?_, freeName_not_mem taken name, ?_⟩
  · intro member
    rcases exists_isLeast_freeName member with ⟨number, below, equal, isLeast⟩
    refine ⟨number, below, equal, isLeast, ?_⟩
    rw [equal]
    exact searchEnds_iff isLeast
  · intro wanted
    exact ((Roster.hasAdded_nil taken).assignAll wanted).toAreNew

def numberedNames : List String := ["Cam", "Cam 0", "Mic", "Cam 2", "Cam 0"]

theorem free_names_have_least_numbers_cam :
    "Mix" ∉ numberedNames ∧ freeName numberedNames "Mix" = "Mix" ∧
      "Cam" ∈ numberedNames ∧ freeName numberedNames "Cam" = "Cam 1" ∧
      SearchEnds (· ∈ numberedNames) "Cam" 0 2 "Cam 1" ∧
      ((Roster.mk numberedNames).assignAll ["Cam", "Cam", "Mic"]).1 =
        ["Cam 1", "Cam 3", "Mic 0"] ∧
      AreNew numberedNames ["Cam 1", "Cam 3", "Mic 0"] := by
  have free : "Mix" ∉ numberedNames := by decide
  have present : "Cam" ∈ numberedNames := by decide
  have first : freeName numberedNames "Cam" = "Cam 1" := by decide +kernel
  have assigned : ((Roster.mk numberedNames).assignAll ["Cam", "Cam", "Mic"]).1 =
      ["Cam 1", "Cam 3", "Mic 0"] := by decide +kernel
  rcases (free_names_have_least_numbers numberedNames "Cam").2 with ⟨withNumber, _, new⟩
  rcases withNumber present with ⟨number, _, equal, _, ends⟩
  have isOne : numbered "Cam" number = numbered "Cam" 1 :=
    equal.symm.trans (first.trans (by decide +kernel))
  obtain rfl := numbered_injective "Cam" isOne
  exact ⟨free, (free_names_have_least_numbers numberedNames "Mix").1 free, present, first,
    (ends 2 "Cam 1").mpr ⟨rfl, first.symm⟩, assigned, assigned ▸ new ["Cam", "Cam", "Mic"]⟩

end BroadcastScenes
