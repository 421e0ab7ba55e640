import BroadcastScenes.Proofs.FreeNames

/-!
# Assigned names

While a file is imported, a roster takes one name after the other. The names that it has taken since
the start are pairwise different, and none of them was in use before.
-/

namespace BroadcastScenes

structure AreNew (inUse names : List String) : Prop where
  nodup : names.Nodup
  fresh : ∀ name ∈ names, name ∉ inUse

namespace AreNew

theorem nodup_append {inUse names : List String} (new : AreNew inUse names)
    (distinct : inUse.Nodup) : (inUse ++ names).Nodup := by
  apply List.nodup_append.mpr
  refine ⟨distinct, new.nodup, ?_⟩
  intro old oldMember name nameMember equal
  exact new.fresh name nameMember (equal ▸ oldMember)

end AreNew

namespace Roster

structure HasAdded (roster : Roster) (inUse names : List String) : Prop
    extends AreNew inUse names where
  mem_taken_iff : ∀ name, name ∈ roster.taken ↔ name ∈ inUse ∨ name ∈ names

@[simp] theorem assign_fst (roster : Roster) (name : String) :
    (roster.assign name).1 = freeName roster.taken name := rfl

@[simp] theorem assign_snd (roster : Roster) (name : String) :
    (roster.assign name).2 = ⟨freeName roster.taken name :: roster.taken⟩ := rfl

theorem hasAdded_nil (inUse : List String) : (Roster.mk inUse).HasAdded inUse [] where
  nodup := List.nodup_nil
  fresh := by simp
  mem_taken_iff := by simp

theorem HasAdded.perm {roster : Roster} {inUse names reordered : List String}
    (added : roster.HasAdded inUse names) (same : names.Perm reordered) :
    roster.HasAdded inUse reordered where
  nodup := same.nodup_iff.mp added.nodup
  fresh := fun name member => added.fresh name (same.mem_iff.mpr member)
  mem_taken_iff := by
    intro name
    rw [added.mem_taken_iff, same.mem_iff]

theorem HasAdded.assign {roster : Roster} {inUse names : List String}
    (added : roster.HasAdded inUse names) (wanted : String) :
    (roster.assign wanted).2.HasAdded inUse (names ++ [(roster.assign wanted).1]) := by
  have free : freeName roster.taken wanted ∉ roster.taken := freeName_not_mem _ _
  rw [added.mem_taken_iff, not_or] at free
  constructor
  · constructor
    · apply List.nodup_append.mpr
      refine ⟨added.nodup, List.nodup_singleton _, ?_⟩
      intro earlier member assigned assignedMember equal
      rw [List.mem_singleton.mp assignedMember, assign_fst] at equal
      exact free.2 (equal ▸ member)
    · intro name member
      rcases List.mem_append.mp member with earlier | assigned
      · exact added.fresh name earlier
      · rw [List.mem_singleton.mp assigned]
        exact free.1
  · intro name
    simp only [assign_snd, assign_fst, List.mem_cons, added.mem_taken_iff,
      List.mem_append, List.not_mem_nil, or_false]
    tauto

@[simp] theorem assignAll_cons (roster : Roster) (name : String) (rest : List String) :
    roster.assignAll (name :: rest) =
      ((roster.assign name).1 :: ((roster.assign name).2.assignAll rest).1,
        ((roster.assign name).2.assignAll rest).2) := rfl

@[simp] theorem length_assignAll (roster : Roster) (wanted : List String) :
    (roster.assignAll wanted).1.length = wanted.length := by
  induction wanted generalizing roster with
  | nil => rfl
  | cons head tail induction => simp [induction]

theorem assignAll_append (roster : Roster) (front back : List String) :
    roster.assignAll (front ++ back) =
      ((roster.assignAll front).1 ++ ((roster.assignAll front).2.assignAll back).1,
        ((roster.assignAll front).2.assignAll back).2) := by
  induction front generalizing roster with
  | nil => rfl
  | cons name rest induction => rw [List.cons_append, assignAll_cons, induction]; rfl

theorem HasAdded.assignAll {roster : Roster} {inUse names : List String}
    (added : roster.HasAdded inUse names) (wanted : List String) :
    (roster.assignAll wanted).2.HasAdded inUse (names ++ (roster.assignAll wanted).1) := by
  induction wanted generalizing roster names with
  | nil => simpa [Roster.assignAll] using added
  | cons head tail induction =>
      have rest := induction (added.assign head)
      rw [List.append_assoc, List.singleton_append] at rest
      exact rest

/-! ## Rosters with the same names -/

theorem assign_of_sameNames (left right : Roster) (same : SameNames left.taken right.taken)
    (wanted : String) :
    (left.assign wanted).1 = (right.assign wanted).1 ∧
      SameNames (left.assign wanted).2.taken (right.assign wanted).2.taken := by
  have assigned : freeName left.taken wanted = freeName right.taken wanted :=
    same.freeName_eq wanted
  refine ⟨assigned, ?_⟩
  intro name
  rw [assign_snd, assign_snd, List.mem_cons, List.mem_cons, assigned, same name]

theorem assignAll_of_sameNames (left right : Roster) (same : SameNames left.taken right.taken)
    (wanted : List String) :
    (left.assignAll wanted).1 = (right.assignAll wanted).1 ∧
      SameNames (left.assignAll wanted).2.taken (right.assignAll wanted).2.taken := by
  induction wanted generalizing left right with
  | nil => exact ⟨rfl, same⟩
  | cons name rest induction =>
      have step := assign_of_sameNames left right same name
      have others := induction _ _ step.2
      rw [assignAll_cons, assignAll_cons, step.1, others.1]
      exact ⟨rfl, others.2⟩

end Roster

end BroadcastScenes
