import BroadcastScenes.Proofs.SceneText.Outlines

/-!
# Repeated keys

What becomes of a key that stands in an object more than once. A value on a line is collected with
what the key has already, and a block takes the place of that. So whatever stands in front of the
last block under a key is lost, and all the rest is kept in order.
-/

namespace BroadcastScenes

namespace Value

inductive HasObject (object : Members) : Value → Prop
  | here : HasObject object (.object object)
  | inMember {members : Members} {member : String × Value} (inMembers : member ∈ members)
      (inside : HasObject object member.2) : HasObject object (.object members)
  | inElement {elements : List Value} {element : Value} (inElements : element ∈ elements)
      (inside : HasObject object element) : HasObject object (.array elements)

theorem ne_array_of_mem {element : Value} {elements : List Value} (member : element ∈ elements) :
    element ≠ .array elements := by
  rintro rfl
  have less := List.sizeOf_lt_of_mem member
  rw [Value.array.sizeOf_spec] at less
  omega

end Value

def Entries.allUnder (key : String) (entries : Entries α) : List α :=
  (entries.filter fun entry => entry.1 == key).map Prod.snd

theorem Entries.allUnder_append (key : String) (front back : Entries α) :
    allUnder key (front ++ back) = allUnder key front ++ allUnder key back := by
  simp [allUnder]

namespace SceneText

/-! ## The values of one key -/

/-- The last block and what is written behind it, or everything if there is no block. -/
def sinceLastBlock : List Written → List Written
  | [] => []
  | first :: rest => if rest.any Written.isBlock then sinceLastBlock rest else first :: rest

def gathered : List Value → Option Value
  | [] => none
  | [only] => some only
  | several => some (.array several)

def joined : List Value → Option Value
  | .array elements :: next :: more => some (.array (elements ++ next :: more))
  | values => gathered values

/-- Only the first is a block, if any is, and if that is a list, nothing is written behind it. -/
def KeepsAll : List Written → Prop
  | [] => True
  | first :: rest => (∀ later ∈ rest, later.isBlock = false) ∧
      (first.value.isArray = true → rest = [])

theorem sinceLastBlock_append_line (front : List Written) (value : Value) :
    sinceLastBlock (front ++ [.line value]) = sinceLastBlock front ++ [.line value] := by
  induction front with
  | nil => rfl
  | cons first rest induction =>
      have same : (rest ++ [Written.line value]).any Written.isBlock =
          rest.any Written.isBlock := by
        simp [Written.isBlock]
      rw [List.cons_append, sinceLastBlock, sinceLastBlock, same, induction]
      split <;> rfl

theorem sinceLastBlock_append_block (front : List Written) (value : Value) :
    sinceLastBlock (front ++ [.block value]) = [.block value] := by
  induction front with
  | nil => rfl
  | cons first rest induction =>
      have isLater : (rest ++ [Written.block value]).any Written.isBlock = true := by
        simp [Written.isBlock]
      rw [List.cons_append, sinceLastBlock, if_pos isLater, induction]

theorem sinceLastBlock_isSuffix (written : List Written) : sinceLastBlock written <:+ written := by
  induction written with
  | nil => exact List.suffix_rfl
  | cons first rest induction =>
      rw [sinceLastBlock]
      split
      · exact induction.trans (List.suffix_cons first rest)
      · exact List.suffix_rfl

theorem sinceLastBlock_ne_nil {written : List Written} (some : written ≠ []) :
    sinceLastBlock written ≠ [] := by
  induction written with
  | nil => exact absurd rfl some
  | cons first rest induction =>
      rw [sinceLastBlock]
      split
      · rename_i isLater
        apply induction
        rintro rfl
        cases isLater
      · exact List.cons_ne_nil _ _

/-! ## Collecting -/

def added (value : Value) : Option Value → Value
  | none => value
  | some (.array values) => .array (values ++ [value])
  | some first => .array [first, value]

theorem collect_eq_insert (key : String) (value : Value) (members : Members) :
    collect key value members = members.insert key (added value (members.find? key)) := by
  rw [collect]
  split
  · rename_i missing
    rw [missing, added]
  · rename_i values found
    rw [found, added]
  · rename_i first noArray found
    rw [found, added]
    exact noArray

theorem joined_append_singleton (values : List Value) (value : Value) :
    joined (values ++ [value]) = some (added value (joined values)) := by
  match values with
  | [] => cases value <;> rfl
  | [only] => cases only <;> rfl
  | first :: second :: more => cases first <;> simp [joined, gathered, added]

/-- A key of an object has what has been written under it since the last block, and that one too. -/
theorem find?_settle (key : String) (written : Entries Written) :
    (settle written).find? key =
      joined ((sinceLastBlock (written.allUnder key)).map Written.value) := by
  induction written using List.reverseRecOn with
  | nil => rfl
  | append_singleton front last induction =>
      rcases last with ⟨other, value⟩
      have settled : settle (front ++ [(other, value)]) =
          value.writeUnder other (settle front) := by
        rw [settle, writeAll, List.foldl_append]
        rfl
      rw [settled, Entries.allUnder_append]
      by_cases same : other = key
      · subst same
        have alone : Entries.allUnder other [(other, value)] = [value] := by
          simp [Entries.allUnder]
        rw [alone]
        cases value with
        | line value =>
            rw [Written.writeUnder, collect_eq_insert, Entries.find?_insert_self, induction,
              sinceLastBlock_append_line, List.map_append, ← joined_append_singleton]
            rfl
        | block value =>
            rw [Written.writeUnder, Entries.find?_insert_self, sinceLastBlock_append_block]
            cases value <;> rfl
      · have absent : Entries.allUnder key [(other, value)] = [] := by
          simp [Entries.allUnder, same]
        rw [absent, List.append_nil, ← induction]
        cases value with
        | line value =>
            rw [Written.writeUnder, collect_eq_insert, Entries.find?_insert_of_ne (Ne.symm same)]
        | block value => exact Entries.find?_insert_of_ne (Ne.symm same) _ _

/-! ## What is lost -/

theorem gathered_of_two_le {values : List Value} (several : 2 ≤ values.length) :
    gathered values = some (.array values) := by
  match values with
  | first :: second :: more => rfl

theorem joined_of_not_isArray {first : Value} (noArray : first.isArray = false)
    (rest : List Value) : joined (first :: rest) = gathered (first :: rest) := by
  cases first with
  | array elements => cases noArray
  | _ => rfl

theorem append_ne_append_array (elements front back : List Value) :
    elements ++ back ≠ front ++ .array elements :: back := by
  intro equal
  rw [List.append_cons] at equal
  have split := List.append_cancel_right equal
  have last := List.mem_append_right front (List.mem_singleton_self (Value.array elements))
  rw [← split] at last
  exact Value.ne_array_of_mem last rfl

theorem joined_eq_gathered_iff {first : Value} {rest : List Value} :
    joined (first :: rest) = gathered (first :: rest) ↔ (first.isArray = true → rest = []) := by
  cases isArray : first.isArray with
  | false => simp [joined_of_not_isArray isArray]
  | true =>
      cases first with
      | array elements =>
          cases rest with
          | nil => simp [joined]
          | cons second more =>
              have different : elements ++ second :: more ≠ .array elements :: second :: more :=
                append_ne_append_array elements [] (second :: more)
              simp [joined, gathered, different]
      | _ => cases isArray

/-- Less than all values of a key are never the same as all of them. -/
theorem joined_ne_gathered_append (front back : List Value) (lost : front ≠ []) (kept : back ≠ []) :
    joined back ≠ gathered (front ++ back) := by
  have several : 2 ≤ (front ++ back).length := by
    have := List.length_pos_of_ne_nil lost
    have := List.length_pos_of_ne_nil kept
    rw [List.length_append]
    omega
  rw [gathered_of_two_le several]
  intro equal
  rcases back with _ | ⟨first, _ | ⟨second, more⟩⟩
  · exact kept rfl
  · have alone : joined [first] = some first := by cases first <;> rfl
    rw [alone] at equal
    exact Value.ne_array_of_mem (List.mem_append_right _ (List.mem_singleton_self first))
      (Option.some.inj equal)
  · cases isArray : first.isArray with
    | false =>
        rw [joined_of_not_isArray isArray] at equal
        have whole := Value.array.inj (Option.some.inj equal)
        exact lost (List.self_eq_append_left.mp whole)
    | true =>
        cases first with
        | array elements =>
            exact append_ne_append_array _ _ _ (Value.array.inj (Option.some.inj equal))
        | _ => cases isArray

/-- A key has all that has been written under it exactly if no block takes the place of something,
and no list is continued. -/
theorem joined_sinceLastBlock_eq_gathered_iff (written : List Written) :
    joined ((sinceLastBlock written).map Written.value) = gathered (written.map Written.value) ↔
      KeepsAll written := by
  cases written with
  | nil => simp [sinceLastBlock, joined, gathered, KeepsAll]
  | cons first rest =>
      rw [KeepsAll, sinceLastBlock]
      cases isLater : rest.any Written.isBlock with
      | true =>
          have some : rest ≠ [] := by
            rintro rfl
            cases isLater
          rcases sinceLastBlock_isSuffix rest with ⟨front, split⟩
          have lost := joined_ne_gathered_append ((first :: front).map Written.value)
            ((sinceLastBlock rest).map Written.value) (by simp)
            (by simpa using sinceLastBlock_ne_nil some)
          rw [← List.map_append, List.cons_append, split] at lost
          rw [if_pos rfl]
          constructor
          · exact fun equal => absurd equal lost
          · rintro ⟨lines, _⟩
            rcases List.any_eq_true.mp isLater with ⟨later, inRest, isBlock⟩
            rw [lines later inRest] at isBlock
            cases isBlock
      | false =>
          have lines : ∀ later ∈ rest, later.isBlock = false := by
            simpa using isLater
          rw [if_neg Bool.false_ne_true, List.map_cons, joined_eq_gathered_iff, List.map_eq_nil_iff]
          exact ⟨fun alone => ⟨lines, alone⟩, And.right⟩

/-! ## Objects of a text -/

inductive Outline.Holds (entries : ObjectOutline) : Outline → Prop
  | here : Holds entries (.object entries)
  | inObject {around : ObjectOutline} {entry : String × Outline} (inAround : entry ∈ around)
      (inside : entry.2.Holds entries) : Holds entries (.object around)
  | inList {objects : ListOutline} {entry : String × ObjectOutline} (inObjects : entry ∈ objects)
      (inside : (Outline.object entry.2).Holds entries) : Holds entries (.list objects)

@[elab_as_elim]
theorem Outline.byParts {property : Outline → Prop} (line : ∀ written, property (.line written))
    (object : ∀ entries : ObjectOutline, (∀ entry ∈ entries, property entry.2) →
      property (.object entries))
    (list : ∀ objects : ListOutline, (∀ entry ∈ objects, property (.object entry.2)) →
      property (.list objects)) (outline : Outline) : property outline := by
  match outline with
  | .line written => exact line written
  | .object entries =>
      apply object
      intro entry inEntries
      exact byParts line object list entry.2
  | .list objects =>
      apply list
      intro entry inObjects
      exact byParts line object list (.object entry.2)
termination_by sizeOf outline
decreasing_by
  · have inside := List.sizeOf_lt_of_mem inEntries
    rcases entry with ⟨key, part⟩
    simp only [Outline.object.sizeOf_spec, Prod.mk.sizeOf_spec] at inside ⊢
    omega
  · have inside := List.sizeOf_lt_of_mem inObjects
    rcases entry with ⟨name, entries⟩
    simp only [Outline.object.sizeOf_spec, Outline.list.sizeOf_spec, Prod.mk.sizeOf_spec]
      at inside ⊢
    omega

theorem not_hasObject_scalar {object : Members} (written : List Char) :
    ¬ (scalar written).HasObject object := by
  have number : ∀ text : List Char,
      ¬ (if '.' ∈ text then Value.double (Decimal.leadingDouble text)
        else Value.integer (Decimal.leadingInteger text)).HasObject object := by
    intro text
    split <;> nofun
  rw [scalar]
  split
  · exact number _
  · split
    · nofun
    · split
      · nofun
      · exact number _

theorem hasObject_of_added {object : Members} {value : Value} {present : Option Value}
    (inside : (added value present).HasObject object) :
    value.HasObject object ∨ ∃ old, present = some old ∧ old.HasObject object := by
  match present with
  | none => exact .inl inside
  | some (.array values) =>
      cases inside with
      | inElement member inside =>
          rcases List.mem_append.mp member with old | last
          · exact .inr ⟨_, rfl, .inElement old inside⟩
          · exact .inl (List.mem_singleton.mp last ▸ inside)
  | some (.string _) | some (.integer _) | some (.double _) | some (.boolean _)
  | some (.object _) =>
      cases inside with
      | inElement member inside =>
          rcases List.mem_pair.mp member with rfl | rfl
          · exact .inr ⟨_, rfl, inside⟩
          · exact .inl inside

theorem hasObject_of_writeUnder {object : Members} {key : String} {written : Written}
    {members : Members} {member : String × Value}
    (inMembers : member ∈ written.writeUnder key members) (inside : member.2.HasObject object) :
    written.value.HasObject object ∨ ∃ old ∈ members, old.2.HasObject object := by
  cases written with
  | line value =>
      rw [Written.writeUnder, collect_eq_insert] at inMembers
      rcases Entries.mem_of_mem_insert inMembers with rfl | old
      · rcases hasObject_of_added inside with new | ⟨old, found, inOld⟩
        · exact .inl new
        · exact .inr ⟨_, Entries.mem_of_find?_eq_some found, inOld⟩
      · exact .inr ⟨member, old, inside⟩
  | block value =>
      rcases Entries.mem_of_mem_insert inMembers with rfl | old
      · exact .inl inside
      · exact .inr ⟨member, old, inside⟩

theorem exists_of_mem_settle {object : Members} {written : Entries Written}
    {member : String × Value} (inSettled : member ∈ settle written)
    (inside : member.2.HasObject object) :
    ∃ entry ∈ written, entry.2.value.HasObject object := by
  induction written using List.reverseRecOn generalizing member with
  | nil => cases inSettled
  | append_singleton front last induction =>
      rw [settle, writeAll, List.foldl_append] at inSettled
      rcases hasObject_of_writeUnder inSettled inside with new | ⟨old, inFront, inOld⟩
      · exact ⟨last, by simp, new⟩
      · rcases induction inFront inOld with ⟨entry, inWritten, inEntry⟩
        exact ⟨entry, List.mem_append_left _ inWritten, inEntry⟩

theorem exists_of_mem_writtenIn {entries : ObjectOutline} {written : String × Written}
    (member : written ∈ writtenIn entries) : ∃ entry ∈ entries, written.2 = entry.2.written := by
  induction entries with
  | nil => cases member
  | cons first rest induction =>
      rw [writtenIn] at member
      rcases List.mem_cons.mp member with rfl | inRest
      · exact ⟨first, List.mem_cons_self, rfl⟩
      · rcases induction inRest with ⟨entry, inEntries, same⟩
        exact ⟨entry, List.mem_cons_of_mem _ inEntries, same⟩

theorem exists_of_mem_listed {objects : ListOutline} {value : Value}
    (member : value ∈ listed objects) : ∃ entry ∈ objects, value =
      .object ((settle (writtenIn entry.2)).insert "name" (.string entry.1)) := by
  induction objects with
  | nil => cases member
  | cons first rest induction =>
      rw [listed] at member
      rcases List.mem_cons.mp member with rfl | inRest
      · exact ⟨first, List.mem_cons_self, rfl⟩
      · rcases induction inRest with ⟨entry, inObjects, same⟩
        exact ⟨entry, List.mem_cons_of_mem _ inObjects, same⟩

def writtenUnder (key : String) (entries : ObjectOutline) : List Written :=
  (writtenIn entries).allUnder key

/-- What an object says of each key is settled from these entries. Its name may come from a list
that it stands in. -/
def SettlesKeys (entries : ObjectOutline) (object : Members) : Prop :=
  ∀ key, key ≠ "name" →
    object.find? key = joined ((sinceLastBlock (writtenUnder key entries)).map Written.value)

theorem settlesKeys_settle (entries : ObjectOutline) :
    SettlesKeys entries (settle (writtenIn entries)) :=
  fun key _ => find?_settle key _

theorem SettlesKeys.named {entries : ObjectOutline} {object : Members}
    (settles : SettlesKeys entries object) (name : String) :
    SettlesKeys entries (object.insert "name" (.string name)) := by
  intro key notName
  rw [Entries.find?_insert_of_ne notName]
  exact settles key notName

/-- Every object that the text is read as is settled from one that stands in the text. -/
theorem exists_holds_of_hasObject {object : Members} (outline : Outline)
    (inside : outline.written.value.HasObject object) :
    ∃ entries, outline.Holds entries ∧ SettlesKeys entries object := by
  induction outline using Outline.byParts with
  | line written => exact absurd inside (not_hasObject_scalar written)
  | object entries induction =>
      rw [Outline.written, Written.value] at inside
      cases inside with
      | here => exact ⟨entries, .here, settlesKeys_settle entries⟩
      | inMember inMembers inMember =>
          rcases exists_of_mem_settle inMembers inMember with ⟨written, inWritten, inValue⟩
          rcases exists_of_mem_writtenIn inWritten with ⟨entry, inEntries, same⟩
          rw [same] at inValue
          rcases induction entry inEntries inValue with ⟨body, holds, settles⟩
          exact ⟨body, .inObject inEntries holds, settles⟩
  | list objects induction =>
      rw [Outline.written, Written.value] at inside
      cases inside with
      | inElement inElements inElement =>
          rcases exists_of_mem_listed inElements with ⟨entry, inObjects, rfl⟩
          cases inElement with
          | here =>
              exact ⟨entry.2, .inList inObjects .here, (settlesKeys_settle entry.2).named entry.1⟩
          | inMember inMembers inMember =>
              rcases Entries.mem_of_mem_insert inMembers with rfl | inSettled
              · cases inMember
              · rcases induction entry inObjects (.inMember inSettled inMember) with
                  ⟨body, holds, settles⟩
                exact ⟨body, .inList inObjects holds, settles⟩

theorem TextOutline.exists_of_mem_content {outline : TextOutline} {block : String × Value}
    (inContent : block ∈ outline.content) :
    ∃ list ∈ outline, block.2 = (Outline.list list.2).written.value := by
  rcases List.mem_map.mp (Entries.mem_of_mem_ofList inContent) with ⟨list, inOutline, rfl⟩
  exact ⟨list, inOutline, rfl⟩

/-- A text that can be read has an outline. Each object in its content comes from an object of the
outline, and of what stands there under a key it has the last block and all that follows, in order.
That is everything, with each value on its own, exactly if no block takes the place of something and
no list is followed by more values, which are put among its objects. -/
theorem repeated_keys_keep_the_last_block {text : String} {content : Members}
    (reading : read text = .ok content) :
    (∃ outline : TextOutline, TextRows (Text.lines text.toList) outline) ∧
      ∀ outline : TextOutline, TextRows (Text.lines text.toList) outline →
        content = outline.content ∧
        ∀ block ∈ content, ∀ object, block.2.HasObject object →
          ∃ list ∈ outline, ∃ entries, (Outline.list list.2).Holds entries ∧
            SettlesKeys entries object ∧
            ∀ key, key ≠ "name" →
              (object.find? key = gathered ((writtenUnder key entries).map Written.value) ↔
                KeepsAll (writtenUnder key entries)) := by
  constructor
  · rcases read_eq_ok_iff_exists_outline.mp reading with ⟨outline, isText, _⟩
    exact ⟨outline, isText⟩
  intro outline isText
  have settled : content = outline.content :=
    Except.ok.inj (reading.symm.trans (read_eq_ok_iff_exists_outline.mpr ⟨outline, isText, rfl⟩))
  refine ⟨settled, ?_⟩
  intro block inContent object inside
  rw [settled] at inContent
  rcases outline.exists_of_mem_content inContent with ⟨list, inOutline, same⟩
  rw [same] at inside
  rcases exists_holds_of_hasObject _ inside with ⟨entries, holds, settles⟩
  refine ⟨list, inOutline, entries, holds, settles, ?_⟩
  intro key notName
  rw [settles key notName]
  exact joined_sinceLastBlock_eq_gathered_iff _

def twoFonts : String :=
  "scenes : \x7b\nMain : \x7b\nsize : 1\nsize : 2\nfont : \x7b\nface : Sans\n\x7d\n" ++
    "font : \x7b\nface : Mono\n\x7d\nfont : 4\n\x7d\n\x7d\n"

theorem repeated_keys_keep_the_last_block_two_fonts :
    let main : Members := [("size", .array [.integer 1, .integer 2]),
      ("font", .array [.object [("face", .string "Mono")], .integer 4]), ("name", .string "Main")]
    read twoFonts = .ok [("scenes", .array [.object main])] ∧
      ∃ outline : TextOutline, TextRows (Text.lines twoFonts.toList) outline ∧
        ∃ list ∈ outline, ∃ entries, (Outline.list list.2).Holds entries ∧
          SettlesKeys entries main := by
  intro main
  have reading : read twoFonts = .ok [("scenes", .array [.object main])] := by
    rw [read_eq_readRows]
    rfl
  rcases repeated_keys_keep_the_last_block reading with ⟨⟨outline, isText⟩, each⟩
  rcases (each outline isText).2 _ List.mem_cons_self main
    (.inElement List.mem_cons_self .here) with ⟨list, inOutline, entries, holds, settles, _⟩
  exact ⟨reading, outline, isText, list, inOutline, entries, holds, settles⟩

end SceneText

end BroadcastScenes
