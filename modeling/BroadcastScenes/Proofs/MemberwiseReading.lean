import BroadcastScenes.Collection.Basic
import BroadcastScenes.Proofs.Value.JsonTexts

/-!
# Reading documents member by member

The text of a document is read as a whole, and what is null in it is dropped, or its members are
read one after the other and each is converted by itself. Both ways fail for the same texts, and
repeated keys and nulls further down make no difference between them. But a member at the top has
nowhere to drop a null from: where a key has null for its last value, it is left with an object
without members.
-/

namespace BroadcastScenes

namespace Json

/-- The members of a JSON text that is an object, in the order in which they are written. A key that
is repeated is there more than once. -/
def topMembers? (text : String) : Option (List (String × Json)) :=
  match written? text with
  | some (.object members) => membersMeaning? (maxDepth - 1) members
  | _ => none

def isNull : Json → Bool
  | .null => true
  | _ => false

def nullKeys (entries : List (String × Json)) : List String :=
  (Entries.keys entries).filter fun key => (Entries.find? key entries.reverse).any isNull

theorem isNull_iff {value : Json} : value.isNull = true ↔ value = .null := by
  cases value <;> simp [isNull]

theorem mem_nullKeys_iff {entries : List (String × Json)} {key : String} :
    key ∈ nullKeys entries ↔ Entries.find? key (Entries.ofList entries) = some .null := by
  rw [nullKeys, List.mem_filter, Entries.find?_ofList]
  constructor
  · rintro ⟨_, isLast⟩
    rcases (Option.any_eq_true _ _).mp isLast with ⟨last, found, lastIsNull⟩
    rw [found, isNull_iff.mp lastIsNull]
  · intro found
    refine ⟨?_, by rw [found]; rfl⟩
    have written := Entries.mem_of_find?_eq_some found
    exact List.mem_map_of_mem (f := Prod.fst) (List.mem_reverse.mp written)

def OpensObject (text : String) : Prop := (skipBlanks text.toList).head? = some '\x7b'

theorem written?_of_opensObject {text : String} (opens : OpensObject text) :
    written? text = none ∨ ∃ members, written? text = some (.object members) := by
  rcases List.head?_eq_some_iff.mp opens with ⟨rest, characters⟩
  rw [written?, characters, takeValue?]
  cases takeObject? (skipBlanks rest) with
  | none => exact .inl rfl
  | some taken =>
      rw [Option.map_some, Option.bind_eq_bind, Option.bind_some]
      split
      · exact .inr ⟨taken.value, rfl⟩
      · exact .inl rfl

theorem read?_of_opensObject {text : String} (opens : OpensObject text) :
    read? text = (topMembers? text).map fun entries => .object (Entries.ofList entries) := by
  rcases written?_of_opensObject opens with unwritten | ⟨members, written⟩
  · rw [read?, topMembers?, unwritten]
    rfl
  · rw [read?, topMembers?, written]
    rfl

end Json

open Json (nullKeys mem_nullKeys_iff)

namespace Value

theorem ofJson?_eq_none_iff {json : Json} : ofJson? json = none ↔ json = .null := by
  cases json <;> simp [ofJson?]

theorem ofJsonMembers_eq_filter {members : List (String × Json)} {left : List String}
    (isLeft : ∀ member ∈ members, member.1 ∈ left ↔ member.2 = .null) :
    ofJsonMembers members = Entries.without left (Entries.mapValues ofJson members) := by
  induction members with
  | nil => rfl
  | cons first rest induction =>
      have restSame := induction fun member inRest => isLeft member (List.mem_cons_of_mem _ inRest)
      have firstLeft := isLeft first List.mem_cons_self
      rw [ofJsonMembers_cons, restSame]
      cases kept : ofJson? first.2 with
      | none =>
          have out := firstLeft.mpr (ofJson?_eq_none_iff.mp kept)
          simp [Entries.without, Entries.mapValues, out]
      | some value =>
          have notNull : first.2 ≠ .null := by
            intro isNull
            rw [isNull] at kept
            cases kept
          simp [Entries.without, Entries.mapValues, mt firstLeft.mp notNull, ofJson, kept]

theorem ofJsonMembers_ofList (entries : List (String × Json)) :
    ofJsonMembers (Entries.ofList entries) =
      Entries.without (nullKeys entries) (Entries.ofList (Entries.mapValues ofJson entries)) := by
  rw [← Entries.mapValues_ofList]
  apply ofJsonMembers_eq_filter
  intro member inMembers
  have found := Entries.find?_of_mem (Entries.nodup_keys_ofList entries) inMembers
  rw [mem_nullKeys_iff, found, Option.some.injEq]

end Value

namespace Collection

theorem parse_of_opensObject {text : String} (opens : Json.OpensObject text) :
    parse text = match Json.topMembers? text with
      | none => .error .json
      | some entries => .ok ⟨Value.ofJsonMembers (Entries.ofList entries)⟩ := by
  rw [parse, Value.parse?, Json.read?_of_opensObject opens]
  cases Json.topMembers? text with
  | none => rfl
  | some entries => rfl

theorem parseByMember?_of_opensObject {text : String} (opens : Json.OpensObject text) :
    parseByMember? text = (Json.topMembers? text).map fun entries =>
      ⟨Entries.ofList (Entries.mapValues Value.ofJson entries)⟩ := by
  rw [parseByMember?, Json.read?_of_opensObject opens]
  cases Json.topMembers? text with
  | none => rfl
  | some entries =>
      rw [Option.map_some, Option.map_some, ← Entries.mapValues_ofList]
      rfl

/-- Read member by member, a document has an object without members under each key at the top whose
last value is null. This is all that it has beside what it has when it is read as a whole, so the
two ways agree exactly if there is no such key. They fail together. -/
theorem members_at_the_top_keep_nulls {text : String} (opens : Json.OpensObject text) :
    (Json.topMembers? text = none ∧ parse text = .error .json ∧ parseByMember? text = none) ∨
    ∃ entries whole byMember, Json.topMembers? text = some entries ∧ parse text = .ok whole ∧
      parseByMember? text = some byMember ∧
      byMember.root = Entries.ofList (Entries.mapValues Value.ofJson entries) ∧
      whole.root = Entries.without (nullKeys entries) byMember.root ∧
      (∀ key ∈ nullKeys entries, byMember.root.find? key = some (.object [])) ∧
      (byMember = whole ↔ nullKeys entries = []) := by
  rw [parse_of_opensObject opens, parseByMember?_of_opensObject opens]
  cases Json.topMembers? text with
  | none => exact .inl ⟨rfl, rfl, rfl⟩
  | some entries =>
      have emptied : ∀ key ∈ nullKeys entries,
          Entries.find? key (Entries.ofList (Entries.mapValues Value.ofJson entries)) =
            some (.object []) := by
        intro key isNull
        rw [← Entries.mapValues_ofList, Entries.find?_mapValues, mem_nullKeys_iff.mp isNull]
        rfl
      refine .inr ⟨entries, _, _, rfl, rfl, rfl, rfl, Value.ofJsonMembers_ofList entries, emptied,
        ?_⟩
      rw [Value.ofJsonMembers_ofList]
      constructor
      · intro same
        rw [List.eq_nil_iff_forall_not_mem]
        intro key isNull
        have stays := emptied key isNull
        have member := Entries.mem_of_find?_eq_some stays
        have roots := congrArg Collection.root same
        dsimp only at roots
        rw [roots] at member
        simp [Entries.without, isNull] at member
      · intro none
        rw [none]
        simp [Entries.without]

def textWithNulls : String :=
  " \x7b\"name\": \"Show\", \"note\": null, \"sources\": [null, \x7b\"name\": null\x7d], " ++
    "\"name\": null, \"extra\": null, \"extra\": 1\x7d"

theorem members_at_the_top_keep_nulls_of_two_keys :
    Json.OpensObject textWithNulls ∧
      ∃ entries whole byMember, Json.topMembers? textWithNulls = some entries ∧
        parse textWithNulls = .ok whole ∧ parseByMember? textWithNulls = some byMember ∧
        Entries.keys byMember.root = ["name", "note", "sources", "extra"] ∧
        Entries.keys whole.root = ["sources", "extra"] ∧
        byMember.root.find? "note" = some (.object []) ∧ byMember ≠ whole := by
  have opens : Json.OpensObject textWithNulls := by
    rw [Json.OpensObject]
    decide +kernel
  have read : (Json.topMembers? textWithNulls).map (fun entries =>
      (nullKeys entries, Entries.keys (Entries.ofList entries))) =
        some (["name", "note", "name"], ["name", "note", "sources", "extra"]) := by
    decide +kernel
  rcases Option.map_eq_some_iff.mp read with ⟨entries, top, both⟩
  have nulls : nullKeys entries = ["name", "note", "name"] := congrArg Prod.fst both
  refine ⟨opens, ?_⟩
  rcases members_at_the_top_keep_nulls opens with
    ⟨missing, _⟩ | ⟨sameEntries, whole, byMember, sameTop, parsed, parsedByMember, root, less,
      emptied, agree⟩
  · rw [missing] at top
    cases top
  · obtain rfl := Option.some.inj (top.symm.trans sameTop)
    have keys : Entries.keys byMember.root = ["name", "note", "sources", "extra"] := by
      rw [root, ← Entries.mapValues_ofList, Entries.keys_mapValues]
      exact congrArg Prod.snd both
    refine ⟨entries, whole, byMember, top, parsed, parsedByMember, keys, ?_,
      emptied "note" (by rw [nulls]; decide), ?_⟩
    · rw [less, nulls, Entries.keys_without, keys]
      decide
    · rw [Ne, agree, nulls]
      decide

end Collection

end BroadcastScenes
