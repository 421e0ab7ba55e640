import BroadcastScenes.Naming
import Mathlib.Data.List.Basic

/-!
# Name tables

The first name that an identifier is given is the one that it keeps, and the empty identifier has
none. Looking up a table that was filled from a list is therefore looking up that list.
-/

namespace BroadcastScenes.NameTable

@[simp] theorem name?_empty (id : String) : ({} : NameTable).name? id = none := rfl

theorem name?_enter (table : NameTable) (id name wanted : String) :
    (table.enter id name).name? wanted =
      (table.name? wanted).or (if wanted = id ∧ id ≠ "" then some name else none) := by
  by_cases known : id = "" ∨ (table.name? id).isSome
  · rw [enter, if_pos known]
    by_cases same : wanted = id ∧ id ≠ ""
    · rcases known with empty | isKnown
      · exact absurd empty same.2
      · rcases Option.isSome_iff_exists.mp isKnown with ⟨first, found⟩
        rw [same.1, found]
        rfl
    · rw [if_neg same, Option.or_none]
  · rw [enter, if_neg known]
    have notEmpty : id ≠ "" := fun empty => known (.inl empty)
    simp only [name?, List.lookup_append, List.lookup_cons, List.lookup_nil]
    by_cases same : wanted = id
    · simp [same, notEmpty]
    · simp [same, beq_eq_false_iff_ne.mpr same]

theorem name?_enterAll (table : NameTable) (entries : List (String × String)) (wanted : String) :
    (table.enterAll entries).name? wanted =
      (table.name? wanted).or (if wanted = "" then none else entries.lookup wanted) := by
  induction entries generalizing table with
  | nil => simp [enterAll]
  | cons head tail induction =>
      rcases head with ⟨id, name⟩
      have rest := induction (table.enter id name)
      rw [enterAll, List.foldl_cons, ← enterAll, rest, name?_enter, Option.or_assoc]
      congr 1
      by_cases same : wanted = id
      · by_cases empty : id = "" <;> simp [same, empty]
      · simp [same, List.lookup_cons, beq_eq_false_iff_ne.mpr same]

theorem eq_or_eq_of_name?_enter {table : NameTable} {id name wanted found : String}
    (lookup : (table.enter id name).name? wanted = some found) :
    table.name? wanted = some found ∨ found = name := by
  rw [name?_enter] at lookup
  rcases Option.or_eq_some_iff.mp lookup with earlier | ⟨_, added⟩
  · exact .inl earlier
  · split at added
    · exact .inr (Option.some.inj added).symm
    · cases added

theorem mem_of_name?_enterAll {ids names : List String} {wanted found : String}
    (lookup : (enterAll {} (ids.zip names)).name? wanted = some found) : found ∈ names := by
  rw [name?_enterAll, name?_empty, Option.none_or] at lookup
  split at lookup
  · cases lookup
  · rcases List.lookup_eq_some_iff.mp lookup with ⟨before, after, equal, _⟩
    have member : (wanted, found) ∈ ids.zip names := by simp [equal]
    exact (List.of_mem_zip member).2

theorem lookup_zip {ids names : List String} (lengths : ids.length = names.length)
    (wanted : String) : (ids.zip names).lookup wanted = names[ids.idxOf wanted]? := by
  induction ids generalizing names with
  | nil =>
      rw [List.length_nil, eq_comm, List.length_eq_zero_iff] at lengths
      rw [lengths]
      rfl
  | cons id rest induction =>
      rcases names with _ | ⟨name, others⟩
      · cases lengths
      · by_cases same : id = wanted
        · simp [same]
        · have further := induction (Nat.succ.inj lengths)
          simp [List.lookup_cons, List.idxOf_cons_ne _ same, beq_eq_false_iff_ne.mpr (Ne.symm same),
            further]

/-- An identifier has the name that stands where the identifier stands first. -/
theorem name?_enterAll_zip {ids names : List String} (lengths : ids.length = names.length)
    {wanted : String} (named : wanted ≠ "") :
    (enterAll {} (ids.zip names)).name? wanted = names[ids.idxOf wanted]? := by
  rw [name?_enterAll, name?_empty, Option.none_or, if_neg named, lookup_zip lengths]

theorem name?_enterAll_unnamed (entries : List (String × String)) :
    (enterAll {} entries).name? "" = none := by
  rw [name?_enterAll, if_pos rfl]
  rfl

theorem eq_of_name?_enterAll_zip {ids names : List String} (lengths : ids.length = names.length)
    (nodup : names.Nodup) {first second name : String}
    (firstFound : (enterAll {} (ids.zip names)).name? first = some name)
    (secondFound : (enterAll {} (ids.zip names)).name? second = some name) : first = second := by
  have firstNamed : first ≠ "" := by
    rintro rfl
    rw [name?_enterAll_unnamed] at firstFound
    cases firstFound
  have secondNamed : second ≠ "" := by
    rintro rfl
    rw [name?_enterAll_unnamed] at secondFound
    cases secondFound
  rw [name?_enterAll_zip lengths firstNamed] at firstFound
  rw [name?_enterAll_zip lengths secondNamed] at secondFound
  have within := (List.getElem?_eq_some_iff.mp firstFound).1
  have places := (List.getElem?_inj within nodup).mp (firstFound.trans secondFound.symm)
  exact (List.idxOf_inj (List.idxOf_lt_length_iff.mp (lengths ▸ within))).mp places

end BroadcastScenes.NameTable
