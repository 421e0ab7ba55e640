import BroadcastScenes.Naming
import Mathlib.Data.List.Nodup
import Mathlib.Data.List.Perm.Subperm

/-!
# Free names

A name that is taken gets the least number that makes it free, and there always is one below the
count of the taken names. What is found is therefore never taken.
-/

namespace BroadcastScenes

theorem toList_numbered (name : String) (number : Nat) :
    (numbered name number).toList = name.toList ++ ' ' :: Nat.toDigits 10 number := by
  simp [numbered]

theorem numbered_injective (name : String) : Function.Injective (numbered name) := by
  intro left right equal
  have lists := congrArg String.toList equal
  rw [toList_numbered, toList_numbered] at lists
  have digits : Nat.toDigits 10 left = Nat.toDigits 10 right :=
    (List.cons.inj (List.append_cancel_left lists)).2
  have numbers := congrArg (fun characters => Nat.ofDigitChars 10 characters 0) digits
  simpa using numbers

theorem numbered_ne_self (name : String) (number : Nat) : numbered name number ≠ name := by
  intro equal
  have lengths := congrArg (fun text => text.toList.length) equal
  simp only [toList_numbered, List.length_append, List.length_cons] at lengths
  omega

/-- The taken name itself has no number, so the numbers below the count of taken names cannot all
be taken. -/
theorem exists_numbered_not_mem {taken : List String} {name : String} (member : name ∈ taken) :
    ∃ number, number < taken.length ∧ numbered name number ∉ taken := by
  by_contra allTaken
  have present : ∀ number, number < taken.length → numbered name number ∈ taken := by
    intro number bound
    by_contra free
    exact allTaken ⟨number, bound, free⟩
  -- The name and its numbered forms are one more than the taken names, and all different.
  let candidates := name :: (List.range taken.length).map (numbered name)
  have nodup : candidates.Nodup := by
    apply List.nodup_cons.mpr
    constructor
    · intro numberedMember
      rcases List.mem_map.mp numberedMember with ⟨number, _, equal⟩
      exact numbered_ne_self name number equal
    · exact List.nodup_range.map (numbered_injective name)
  have within : candidates ⊆ taken := by
    intro candidate candidateMember
    rcases List.mem_cons.mp candidateMember with equal | numberedMember
    · exact equal ▸ member
    · rcases List.mem_map.mp numberedMember with ⟨number, inRange, rfl⟩
      exact present number (List.mem_range.mp inRange)
  have bound := (nodup.subperm within).length_le
  simp only [candidates, List.length_cons, List.length_map, List.length_range] at bound
  omega

theorem freeName_of_not_mem {taken : List String} {name : String} (free : name ∉ taken) :
    freeName taken name = name := by
  simp [freeName, free]

/-- A name that is taken gets a number below the count of taken names, and the least one that is
free. -/
theorem freeName_of_mem {taken : List String} {name : String} (member : name ∈ taken) :
    ∃ number, number < taken.length ∧ freeName taken name = numbered name number ∧
      numbered name number ∉ taken ∧
      ∀ smaller, smaller < number → numbered name smaller ∈ taken := by
  cases found : (List.range taken.length).find?
      fun number => !taken.contains (numbered name number) with
  | none =>
      rcases exists_numbered_not_mem member with ⟨number, bound, free⟩
      have refused := List.find?_eq_none.mp found number (List.mem_range.mpr bound)
      simp [free] at refused
  | some number =>
      have parts := List.find?_range_eq_some.mp found
      refine ⟨number, List.mem_range.mp parts.2.1, ?_, by simpa using parts.1, ?_⟩
      · rw [freeName, if_pos (List.contains_iff_mem.mpr member), found]
      · intro smaller below
        simpa using parts.2.2 smaller below

theorem freeName_not_mem (taken : List String) (name : String) : freeName taken name ∉ taken := by
  by_cases member : name ∈ taken
  · rcases freeName_of_mem member with ⟨number, _, equal, free, _⟩
    rw [equal]
    exact free
  · rw [freeName_of_not_mem member]
    exact member

def SameNames (left right : List String) : Prop := ∀ name, name ∈ left ↔ name ∈ right

/-- Whether a name is free hangs on which names are taken, and on nothing else about them. -/
theorem SameNames.freeName_eq {left right : List String} (same : SameNames left right)
    (name : String) : freeName left name = freeName right name := by
  by_cases member : name ∈ left
  · rcases freeName_of_mem member with ⟨first, _, leftEqual, leftFree, leftLeast⟩
    rcases freeName_of_mem ((same name).mp member) with
      ⟨second, _, rightEqual, rightFree, rightLeast⟩
    have numbers : first = second := by
      rcases Nat.lt_trichotomy first second with below | equal | above
      · exact absurd ((same _).mpr (rightLeast first below)) leftFree
      · exact equal
      · exact absurd ((same _).mp (leftLeast second above)) rightFree
    rw [leftEqual, rightEqual, numbers]
  · rw [freeName_of_not_mem member, freeName_of_not_mem (mt (same name).mpr member)]

end BroadcastScenes
