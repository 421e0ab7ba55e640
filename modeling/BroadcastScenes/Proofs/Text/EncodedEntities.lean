import BroadcastScenes.Text.Entities
import Mathlib.Data.List.Basic
import Mathlib.Data.List.Infix

/-!
# Encoded texts

A text is encoded when each character that has an entity is spelled as that entity. The entities are
decoded one kind after the other, so what is left at each time is the text with fewer of its
characters spelled as entities. No step mistakes anything for its entity: every ampersand of the
text is spelled as an entity until the last step.
-/

namespace BroadcastScenes.Text

def spelling (entities : List (String × Char)) (c : Char) : List Char :=
  match entities.find? fun entry => entry.2 == c with
  | some (entity, _) => entity.toList
  | none => [c]

def encodeEntities (text : String) : String :=
  String.ofList (text.toList.flatMap (spelling entities))

example : encodeEntities "<a b=\"c&d\"/>" = "&lt;a b=&quot;c&amp;d&quot;/&gt;" := by decide

/-! ## Replacing marks -/

def IsEntity (mark : List Char) : Prop := mark.head? = some '&' ∧ '&' ∉ mark.tail

instance (mark : List Char) : Decidable (IsEntity mark) := inferInstanceAs (Decidable (_ ∧ _))

variable {mark : List Char}

theorem IsEntity.exists_eq (isEntity : IsEntity mark) :
    ∃ body, mark = '&' :: body ∧ '&' ∉ body := by
  cases mark with
  | nil => cases isEntity.1
  | cons head body => exact ⟨body, by rw [Option.some.inj isEntity.1], isEntity.2⟩

theorem replaceAll_cons_of_not_isPrefix {c : Char} {text : List Char}
    (elsewhere : ¬ mark <+: c :: text) (replacement : List Char) :
    replaceAll mark replacement (c :: text) = c :: replaceAll mark replacement text := by
  rw [replaceAll, if_neg]
  rw [Bool.and_eq_true, List.isPrefixOf_iff_prefix]
  exact fun begins => elsewhere begins.2

theorem replaceAll_append_of_not_mem (isEntity : IsEntity mark) {front : List Char}
    (absent : '&' ∉ front) (replacement text : List Char) :
    replaceAll mark replacement (front ++ text) = front ++ replaceAll mark replacement text := by
  rcases isEntity.exists_eq with ⟨body, rfl, _⟩
  induction front with
  | nil => rfl
  | cons head tail induction =>
      have different : ¬ '&' :: body <+: head :: (tail ++ text) := fun begins =>
        absent ((List.cons_prefix_cons.mp begins).1 ▸ List.mem_cons_self)
      rw [List.cons_append, replaceAll_cons_of_not_isPrefix different,
        induction fun member => absent (List.mem_cons_of_mem _ member), List.cons_append]

theorem replaceAll_mark_append (isEntity : IsEntity mark) (replacement text : List Char) :
    replaceAll mark replacement (mark ++ text) =
      replacement ++ replaceAll mark replacement text := by
  rcases isEntity.exists_eq with ⟨body, rfl, _⟩
  rw [List.cons_append, replaceAll, if_pos]
  · simp
  · simp [List.isPrefixOf_iff_prefix]

theorem replaceAll_entity_append {other : List Char} (isEntity : IsEntity mark)
    (otherIsEntity : IsEntity other) (notWithin : ¬ mark <+: other)
    (notAround : ¬ other <+: mark) (replacement text : List Char) :
    replaceAll mark replacement (other ++ text) = other ++ replaceAll mark replacement text := by
  have elsewhere : ¬ mark <+: other ++ text := by
    intro begins
    rcases List.prefix_or_prefix_of_prefix begins (List.prefix_append other text) with
      within | around
    · exact notWithin within
    · exact notAround around
  rcases otherIsEntity.exists_eq with ⟨body, rfl, absent⟩
  rw [List.cons_append] at elsewhere ⊢
  rw [replaceAll_cons_of_not_isPrefix elsewhere, replaceAll_append_of_not_mem isEntity absent,
    List.cons_append]

/-! ## Decoding -/

structure AreApart (first second : String × Char) : Prop where
  notWithin : ¬ first.1.toList <+: second.1.toList
  notAround : ¬ second.1.toList <+: first.1.toList
  characters : first.2 ≠ second.2

instance (first second : String × Char) : Decidable (AreApart first second) :=
  decidable_of_iff
    ((¬ first.1.toList <+: second.1.toList ∧ ¬ second.1.toList <+: first.1.toList) ∧
      first.2 ≠ second.2)
    ⟨fun apart => ⟨apart.1.1, apart.1.2, apart.2⟩,
      fun apart => ⟨⟨apart.notWithin, apart.notAround⟩, apart.characters⟩⟩

/-- A table that can be decoded entry by entry: the ampersand, with which all entities start, is
the last to be decoded. -/
structure IsTable (table : List (String × Char)) : Prop where
  entities : ∀ entry ∈ table, IsEntity entry.1.toList
  apart : table.Pairwise AreApart
  ampersandLast : ∀ entry ∈ table.getLast?, entry.2 = '&'

theorem isTable_entities : IsTable entities where
  entities := by decide
  apart := by decide
  ampersandLast := by decide

theorem spelling_cons_self (entity : String) (c : Char) (table : List (String × Char)) :
    spelling ((entity, c) :: table) c = entity.toList := by
  simp [spelling]

theorem spelling_cons_of_ne {c other : Char} (different : other ≠ c) (entity : String)
    (table : List (String × Char)) :
    spelling ((entity, c) :: table) other = spelling table other := by
  simp [spelling, different.symm]

theorem spelling_cases (table : List (String × Char)) (c : Char) :
    (∃ entry ∈ table, entry.2 = c ∧ spelling table c = entry.1.toList) ∨
      ((∀ entry ∈ table, entry.2 ≠ c) ∧ spelling table c = [c]) := by
  unfold spelling
  cases found : table.find? fun entry => entry.2 == c with
  | some entry =>
      have isSpelled : (entry.2 == c) = true :=
        List.find?_some (p := fun entry : String × Char => entry.2 == c) found
      exact .inl ⟨entry, List.mem_of_find?_eq_some found, beq_iff_eq.mp isSpelled, rfl⟩
  | none => exact .inr ⟨by simpa using found, rfl⟩

namespace IsTable

variable {entity : String} {c : Char} {table : List (String × Char)}

theorem tail (isTable : IsTable ((entity, c) :: table)) : IsTable table where
  entities := fun entry member => isTable.entities entry (List.mem_cons_of_mem _ member)
  apart := isTable.apart.of_cons
  ampersandLast := by
    cases table with
    | nil => simp
    | cons head rest => exact isTable.ampersandLast

theorem exists_ampersand (isTable : IsTable ((entity, c) :: table)) :
    ∃ entry ∈ (entity, c) :: table, entry.2 = '&' := by
  have last := List.getLast?_eq_some_getLast (List.cons_ne_nil (entity, c) table)
  exact ⟨_, List.getLast_mem _, isTable.ampersandLast _ last⟩

theorem replaceAll_spelling_append (isTable : IsTable ((entity, c) :: table)) (other : Char)
    (text : List Char) :
    replaceAll entity.toList [c] (spelling ((entity, c) :: table) other ++ text) =
      spelling table other ++ replaceAll entity.toList [c] text := by
  have isEntity : IsEntity entity.toList := isTable.entities _ List.mem_cons_self
  have apart := List.pairwise_cons.mp isTable.apart
  by_cases same : other = c
  · have spelled : spelling table other = [c] := by
      rcases spelling_cases table other with ⟨entry, member, equal, _⟩ | ⟨_, spelled⟩
      · exact absurd (same.symm.trans equal.symm) (apart.1 entry member).characters
      · rw [spelled, same]
    rw [spelled, same, spelling_cons_self, replaceAll_mark_append isEntity]
  · rw [spelling_cons_of_ne same]
    rcases spelling_cases table other with ⟨entry, member, _, spelled⟩ | ⟨absent, spelled⟩
    · have entryApart := apart.1 entry member
      rw [spelled]
      exact replaceAll_entity_append isEntity
        (isTable.entities entry (List.mem_cons_of_mem _ member)) entryApart.notWithin
        entryApart.notAround _ _
    · -- The ampersand has an entity in every table that is left to decode.
      have notAmpersand : other ≠ '&' := by
        rintro rfl
        rcases isTable.exists_ampersand with ⟨entry, member, ampersand⟩
        rcases List.mem_cons.mp member with rfl | later
        · exact same ampersand.symm
        · exact absent entry later ampersand
      rw [spelled]
      exact replaceAll_append_of_not_mem isEntity (by simpa using notAmpersand.symm) _ _

theorem replaceAll_flatMap_spelling (isTable : IsTable ((entity, c) :: table))
    (text : List Char) :
    replaceAll entity.toList [c] (text.flatMap (spelling ((entity, c) :: table))) =
      text.flatMap (spelling table) := by
  induction text with
  | nil => simp [replaceAll]
  | cons head tail induction =>
      rw [List.flatMap_cons, isTable.replaceAll_spelling_append, induction, List.flatMap_cons]

/-- Decoding the entries of a table one by one undoes writing with the whole table. -/
theorem foldl_replaceAll (isTable : IsTable table) (text : List Char) :
    table.foldl (fun decoded (entity, c) => replaceAll entity.toList [c] decoded)
      (text.flatMap (spelling table)) = text := by
  induction table with
  | nil =>
      have unchanged : text.flatMap (spelling []) = text := List.flatMap_singleton' text
      exact unchanged
  | cons entry rest induction =>
      rcases entry with ⟨entity, c⟩
      rw [List.foldl_cons]
      dsimp only
      rw [isTable.replaceAll_flatMap_spelling]
      exact induction isTable.tail

end IsTable

theorem decodeEntities_encodeEntities (text : String) :
    decodeEntities (encodeEntities text) = text := by
  rw [decodeEntities, encodeEntities, String.toList_ofList, isTable_entities.foldl_replaceAll,
    String.ofList_toList]

/-! ## Characters of an encoded text -/

theorem mem_encodeEntities {text : String} {c : Char} (member : c ∈ (encodeEntities text).toList) :
    (∃ entry ∈ entities, c ∈ entry.1.toList) ∨
      (c ∈ text.toList ∧ ∀ entry ∈ entities, entry.2 ≠ c) := by
  rw [encodeEntities, String.toList_ofList, List.mem_flatMap] at member
  rcases member with ⟨other, otherMember, inSpelling⟩
  rcases spelling_cases entities other with ⟨entry, entryMember, _, spelled⟩ | ⟨absent, spelled⟩
  · exact .inl ⟨entry, entryMember, spelled ▸ inSpelling⟩
  · rw [spelled, List.mem_singleton] at inSpelling
    exact .inr (inSpelling ▸ ⟨otherMember, absent⟩)

theorem mem_encodeEntities_of_mem {text : String} {c other : Char} (member : c ∈ text.toList)
    (inSpelling : other ∈ spelling entities c) : other ∈ (encodeEntities text).toList := by
  rw [encodeEntities, String.toList_ofList]
  exact List.mem_flatMap.mpr ⟨c, member, inSpelling⟩

theorem quote_not_mem_encodeEntities (text : String) : '"' ∉ (encodeEntities text).toList := by
  intro member
  rcases mem_encodeEntities member with inEntity | ⟨_, hasNone⟩
  · revert inEntity
    decide
  · exact hasNone ("&quot;", '"') (by decide) rfl

end BroadcastScenes.Text
