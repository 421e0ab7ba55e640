import BroadcastScenes.Proofs.Text.EncodedEntities

/-!
# Decoding in one pass

Entities are decoded one kind after the other, each time over the whole text. This gives what one
pass from the left gives that looks for all of them at once. The characters that are written for the
first kinds begin no entity and stand in none, so that no entity comes about that was not there
before, and the ampersand is written only when nothing else is left to decode.
-/

namespace BroadcastScenes.Text

/-- One pass over a text. Where an entity begins, its character is written and the pass goes on
behind the entity. Every other character is written as it is. What has been written is not looked at
again. -/
def decodeOnce (table : List (String × Char)) (text : List Char) : List Char :=
  match text with
  | [] => []
  | c :: rest =>
      match table.find? fun entry => entry.1.toList.isPrefixOf (c :: rest) with
      | some (entity, decoded) => decoded :: decodeOnce table (rest.drop (entity.toList.length - 1))
      | none => c :: decodeOnce table rest
termination_by text.length

example : decodeOnce entities "&amp;lt;b&gt;&quot".toList = "&lt;b>&quot".toList := by
  decide +kernel

def decodeInTurn (table : List (String × Char)) (text : List Char) : List Char :=
  table.foldl (fun decoded (entity, c) => replaceAll entity.toList [c] decoded) text

theorem decodeInTurn_cons (entity : String) (c : Char) (table : List (String × Char))
    (text : List Char) :
    decodeInTurn ((entity, c) :: table) text =
      decodeInTurn table (replaceAll entity.toList [c] text) := rfl

/-! ## Replacing makes no entity -/

/-- A run of characters that a text begins with when marks have been replaced was there before, if
none of its characters has been written for a mark. -/
theorem isPrefix_of_isPrefix_replaceAll {mark body text : List Char} {c : Char} (absent : c ∉ body)
    (begins : body <+: replaceAll mark [c] text) : body <+: text := by
  induction body generalizing text with
  | nil => exact List.nil_prefix
  | cons first more induction =>
      cases text with
      | nil => simp [replaceAll] at begins
      | cons head tail =>
          rw [replaceAll] at begins
          split at begins
          · have made := (List.cons_prefix_cons.mp begins).1
            exact absurd (made ▸ List.mem_cons_self) absent
          · rcases List.cons_prefix_cons.mp begins with ⟨rfl, behind⟩
            exact List.cons_prefix_cons.mpr ⟨rfl,
              induction (fun member => absent (List.mem_cons_of_mem _ member)) behind⟩

/-- A table that can be decoded in one pass: no character that is written for an entity occurs in
the body of an entity that is decoded later. -/
structure IsOnePassTable (table : List (String × Char)) : Prop extends IsTable table where
  unmade : table.Pairwise fun first second => first.2 ∉ second.1.toList.tail

theorem isOnePassTable_entities : IsOnePassTable entities where
  toIsTable := isTable_entities
  unmade := by decide

namespace IsOnePassTable

variable {entity : String} {c : Char} {table : List (String × Char)}

theorem tail (isTable : IsOnePassTable ((entity, c) :: table)) : IsOnePassTable table where
  toIsTable := isTable.toIsTable.tail
  unmade := isTable.unmade.of_cons

theorem ne_ampersand (isTable : IsOnePassTable ((entity, c) :: table)) (later : table ≠ []) :
    c ≠ '&' := by
  cases table with
  | nil => exact absurd rfl later
  | cons next more =>
      rcases isTable.tail.toIsTable.exists_ampersand with ⟨entry, member, ampersand⟩
      rw [← ampersand]
      exact ((List.pairwise_cons.mp isTable.apart).1 entry member).characters

/-- What begins no entity now begins none when one kind of entity has been replaced behind it. -/
theorem not_isPrefix_cons_replaceAll (isTable : IsOnePassTable ((entity, c) :: table))
    {entry : String × Char} (member : entry ∈ table) {first : Char} {text : List Char}
    (plain : ¬ entry.1.toList <+: first :: text) :
    ¬ entry.1.toList <+: first :: replaceAll entity.toList [c] text := by
  intro begins
  apply plain
  have unmade := (List.pairwise_cons.mp isTable.unmade).1 entry member
  rcases (isTable.entities entry (List.mem_cons_of_mem _ member)).exists_eq with ⟨body, split, _⟩
  rw [split] at begins unmade ⊢
  rcases List.cons_prefix_cons.mp begins with ⟨ampersand, behind⟩
  exact List.cons_prefix_cons.mpr ⟨ampersand, isPrefix_of_isPrefix_replaceAll unmade behind⟩

/-! ## Decoding in turn from the left -/

theorem decodeInTurn_cons_of_plain {table : List (String × Char)} (isTable : IsOnePassTable table)
    {first : Char} {text : List Char}
    (plain : ∀ entry ∈ table, ¬ entry.1.toList <+: first :: text) :
    decodeInTurn table (first :: text) = first :: decodeInTurn table text := by
  induction table generalizing text with
  | nil => rfl
  | cons entry rest induction =>
      rcases entry with ⟨entity, c⟩
      rw [decodeInTurn_cons, decodeInTurn_cons,
        replaceAll_cons_of_not_isPrefix (plain _ List.mem_cons_self)]
      apply induction isTable.tail
      intro entry member
      exact isTable.not_isPrefix_cons_replaceAll member
        (plain entry (List.mem_cons_of_mem _ member))

/-- An entity of the table becomes its character. The entities that are decoded before it leave it
alone, and those that are decoded after it leave its character alone. -/
theorem decodeInTurn_entity_append {table : List (String × Char)} (isTable : IsOnePassTable table)
    {entry : String × Char} (member : entry ∈ table) (text : List Char) :
    decodeInTurn table (entry.1.toList ++ text) = entry.2 :: decodeInTurn table text := by
  induction table generalizing text with
  | nil => cases member
  | cons head rest induction =>
      rcases head with ⟨entity, c⟩
      have isEntity := isTable.entities (entity, c) List.mem_cons_self
      rw [decodeInTurn_cons, decodeInTurn_cons]
      rcases List.mem_cons.mp member with rfl | later
      · rw [replaceAll_mark_append isEntity, List.singleton_append]
        apply decodeInTurn_cons_of_plain isTable.tail
        -- The character could begin an entity only if it were the ampersand.
        intro other otherMember begins
        rcases (isTable.entities other (List.mem_cons_of_mem _ otherMember)).exists_eq with
          ⟨body, split, _⟩
        rw [split] at begins
        exact isTable.ne_ampersand (List.ne_nil_of_mem otherMember)
          (List.cons_prefix_cons.mp begins).1.symm
      · have apart := (List.pairwise_cons.mp isTable.apart).1 entry later
        rw [replaceAll_entity_append isEntity (isTable.entities entry member) apart.notWithin
          apart.notAround]
        exact induction isTable.tail later _

theorem decodeInTurn_nil (table : List (String × Char)) : decodeInTurn table [] = [] := by
  induction table with
  | nil => rfl
  | cons entry rest induction =>
      rcases entry with ⟨entity, c⟩
      rw [decodeInTurn_cons, replaceAll, induction]

/-- Both ways of decoding follow the same two rules, one for an entity at the start of the text and
one for any other character there. -/
theorem decodeOnce_eq_decodeInTurn (isTable : IsOnePassTable table) (text : List Char) :
    decodeOnce table text = decodeInTurn table text := by
  fun_induction decodeOnce table text with
  | case1 => rw [decodeInTurn_nil]
  | case2 c rest entity decoded found induction =>
      have member := List.mem_of_find?_eq_some found
      have begins : entity.toList.isPrefixOf (c :: rest) = true := by
        simpa only using List.find?_some found
      rcases List.isPrefixOf_iff_prefix.mp begins with ⟨behind, whole⟩
      rcases (isTable.entities _ member).exists_eq with ⟨body, split, _⟩
      have restSplit : rest = body ++ behind := by
        rw [split] at whole
        exact (List.cons.inj whole).2.symm
      have isBehind : rest.drop (entity.toList.length - 1) = behind := by
        rw [restSplit, split, List.length_cons, Nat.add_sub_cancel, List.drop_left]
      rw [induction, isBehind, ← whole, isTable.decodeInTurn_entity_append member]
  | case3 c rest missing induction =>
      rw [induction, isTable.decodeInTurn_cons_of_plain]
      simpa [List.isPrefixOf_iff_prefix] using missing

end IsOnePassTable

/-- Decoding the entities one kind after the other gives what a single pass gives. A text in which
every character that has an entity is written as that entity is given back, whatever it looks
like. -/
theorem entities_are_decoded_in_one_pass (text : String) :
    decodeEntities text = String.ofList (decodeOnce entities text.toList) ∧
      decodeEntities (encodeEntities text) = text := by
  constructor
  · rw [isOnePassTable_entities.decodeOnce_eq_decodeInTurn]
    rfl
  · exact decodeEntities_encodeEntities text

end BroadcastScenes.Text
