import BroadcastScenes.Proofs.ObsClassic.AddedRecords
import BroadcastScenes.Proofs.PlacedNames
import BroadcastScenes.Proofs.XSplit.AddedRecords
import Mathlib.Algebra.Group.Nat.Defs

/-!
# Item numbers

The items of a scene have numbers, and the scene keeps a number for the item that comes next. The
programs do not agree on where to start: trees number their items from zero, presentations and scene
texts from one. The scene keeps how many items it has in all cases, and this number is free only if
the count starts from zero.
-/

namespace BroadcastScenes

def itemNumbers (scene : Value) : List Int64 :=
  (scene.members.itemsAt "settings").map fun item => item.members.integerAt "id"

def nextItemNumber (scene : Value) : Int64 :=
  (scene.members.membersAt "settings").integerAt "id_counter"

namespace Source.Record

theorem integerAt_id_toValue (item : Scene.Item) :
    item.toValue.members.integerAt "id" = item.id := by
  rcases item with ⟨id, name, position, extent, rotation, crop, visible⟩
  cases name <;> rfl

theorem itemNumbers_withItems (base : Record) (items : List Scene.Item) :
    itemNumbers (base.withItems items).toValue = items.map (·.id) := by
  rw [itemNumbers, itemsAt_settings_withItems, List.map_map]
  apply List.map_congr_left
  intro item _
  exact integerAt_id_toValue item

theorem nextItemNumber_withItems (base : Record) (items : List Scene.Item) :
    nextItemNumber (base.withItems items).toValue = Int64.ofNat items.length := by
  have settings : (base.withItems items).toValue.members.membersAt "settings" =
      (base.withItems items).settings := rfl
  rw [nextItemNumber, settings, withItems, Members.integerAt, Entries.find?_insert_self]
  rfl

end Source.Record

/-! ## How the programs count -/

namespace Content

/-- The numbers that the items of a scene get when there are `count` of them, in their order. Those
of a scene text stand the other way round than their entries. -/
def numbering (count : Nat) : Content → List Nat
  | presentation _ => List.range' 1 count
  | tree _ => List.range' 0 count
  | sceneText _ => (List.range' 1 count).reverse

def CountsFromZero : Content → Prop
  | presentation _ => False
  | tree _ => True
  | sceneText _ => False

theorem nodup_numbering (content : Content) (count : Nat) : (content.numbering count).Nodup := by
  cases content with
  | presentation root => exact List.nodup_range'
  | tree root => exact List.nodup_range'
  | sceneText blocks => exact List.nodup_reverse.mpr List.nodup_range'

theorem le_of_mem_numbering {content : Content} {count number : Nat}
    (member : number ∈ content.numbering count) : number ≤ count := by
  cases content <;> simp [numbering, List.mem_range'_1] at member <;> omega

theorem forall_lt_numbering_iff (content : Content) (count : Nat) :
    (∀ number ∈ content.numbering count, number < count) ↔ content.CountsFromZero ∨ count = 0 := by
  cases content with
  | presentation root =>
      simp only [numbering, List.mem_range'_1, CountsFromZero, false_or]
      constructor
      · intro below
        by_contra some
        have := below count (by omega)
        omega
      · rintro rfl number bounds
        omega
  | tree root => simp [numbering, List.mem_range'_1, CountsFromZero]
  | sceneText blocks =>
      simp only [numbering, List.mem_reverse, List.mem_range'_1, CountsFromZero, false_or]
      constructor
      · intro below
        by_contra some
        have := below count (by omega)
        omega
      · rintro rfl number bounds
        omega

def IsNumbered (content : Content) (record : Source.Record) : Prop :=
  ∃ (base : Source.Record) (items : List Scene.Item), record = base.withItems items ∧
    items.map (·.id) = (content.numbering items.length).map Int64.ofNat

end Content

theorem Streamlabs.map_id_sceneItems (table : NameTable) (number : Nat) (nodes : List Value) :
    (sceneItems table number nodes).map (·.id) =
      (List.range' number nodes.length).map Int64.ofNat := by
  induction nodes generalizing number with
  | nil => rfl
  | cons node rest induction =>
      rw [sceneItems, List.map_cons, induction, List.length_cons, List.range'_succ, List.map_cons]
      rfl

theorem ObsClassic.Stacked.map_id {items : List Scene.Item} (stacked : Stacked items) :
    items.map (·.id) = ((List.range' 1 items.length).reverse).map Int64.ofNat := by
  induction stacked with
  | nil => rfl
  | cons entry name others induction =>
      rw [List.map_cons, induction, List.length_cons, List.range'_1_concat, List.reverse_append,
        Nat.add_comm 1]
      rfl

namespace Content

theorem isNumbered_of_mem_scenes {content : Content} {setting : Setting} {inUse : List String}
    {scene : Source.Record} (member : scene ∈ content.scenes setting inUse) :
    content.IsNumbered scene := by
  cases content with
  | presentation root =>
      rcases XSplit.exists_of_mem_placed member with ⟨name, items, equal, numbers⟩
      exact ⟨_, items, equal, numbers⟩
  | tree root =>
      rcases Streamlabs.exists_of_mem_of_forall₂ (Streamlabs.forall₂_sceneRecords inUse root)
        member with ⟨node, _, name, rfl⟩
      have numbers := Streamlabs.map_id_sceneItems (Streamlabs.nodeTable inUse root) 0
        (node.itemsAt "sceneItems")
      have lengths := congrArg List.length numbers
      simp only [List.length_map, List.length_range'] at lengths
      exact ⟨_, _, rfl, by rw [numbers, lengths]; rfl⟩
  | sceneText blocks =>
      rcases List.mem_filter.mp member with ⟨added, isScene⟩
      have all : ∀ record ∈ (ObsClassic.additions setting.platform inUse blocks).records,
          record.id = Source.sceneId → (sceneText blocks).IsNumbered record := by
        apply ObsClassic.forall_mem_additions
        · intro entry _ setup name own isScene
          exact absurd isScene (ObsClassic.setup?_id_ne_sceneId own)
        · intro name items stacked _
          exact ⟨_, items, rfl, stacked.map_id⟩
      exact all scene added (beq_iff_eq.mp isScene)

end Content

/-! ## Numbers as they are kept -/

theorem Int64.eq_of_ofNat_eq {first second : Nat} (firstFits : first < 2 ^ 63)
    (secondFits : second < 2 ^ 63) (equal : Int64.ofNat first = Int64.ofNat second) :
    first = second := by
  have integers := congrArg Int64.toInt equal
  rw [Int64.toInt_ofNat_of_lt firstFits, Int64.toInt_ofNat_of_lt secondFits] at integers
  exact Int.ofNat.inj integers

namespace Content

/-- The items of the scene have the numbers that the program gives, and the scene keeps how many
they are. Fewer than `2 ^ 63` items, as any list in memory has, have different numbers, and the kept
number is above them only if the program counts from zero. -/
structure NumbersItems (content : Content) (scene : Value) : Prop where
  numbers : itemNumbers scene =
    (content.numbering (scene.members.itemsAt "settings").length).map Int64.ofNat
  next : nextItemNumber scene = Int64.ofNat (scene.members.itemsAt "settings").length
  different : (scene.members.itemsAt "settings").length < 2 ^ 63 → (itemNumbers scene).Nodup
  free_iff : (scene.members.itemsAt "settings").length < 2 ^ 63 →
    ((∀ number ∈ itemNumbers scene, number < nextItemNumber scene) ↔
      content.CountsFromZero ∨ scene.members.itemsAt "settings" = [])

theorem NumbersItems.of_numbering {content : Content} {scene : Value}
    (numbers : itemNumbers scene =
      (content.numbering (scene.members.itemsAt "settings").length).map Int64.ofNat)
    (next : nextItemNumber scene = Int64.ofNat (scene.members.itemsAt "settings").length) :
    content.NumbersItems scene := by
  refine ⟨numbers, next, ?_, ?_⟩
  · intro fits
    rw [numbers]
    apply (nodup_numbering content _).map_on
    intro first firstMember second secondMember equal
    have firstBound := le_of_mem_numbering firstMember
    have secondBound := le_of_mem_numbering secondMember
    exact Int64.eq_of_ofNat_eq (by omega) (by omega) equal
  · intro fits
    rw [← List.length_eq_zero_iff, ← forall_lt_numbering_iff, numbers, next, List.forall_mem_map]
    apply forall₂_congr
    intro number member
    have bound := le_of_mem_numbering member
    exact Int64.ofNat_lt_iff_lt (by omega) fits

theorem IsNumbered.numbersItems {content : Content} {record : Source.Record}
    (numbered : content.IsNumbered record) : content.NumbersItems record.toValue := by
  rcases numbered with ⟨base, items, rfl, numbers⟩
  have length : ((base.withItems items).toValue.members.itemsAt "settings").length =
      items.length := by
    rw [Source.Record.itemsAt_settings_withItems, List.length_map]
  apply NumbersItems.of_numbering
  · rw [length, Source.Record.itemNumbers_withItems, numbers]
  · rw [length, Source.Record.nextItemNumber_withItems]

end Content

/-- The items of a scene have different numbers wherever the scene comes from, but the number kept
for the next item is free in the scenes of trees only. -/
theorem new_scenes_number_items (program : Program) (request : Request)
    (collection result : Collection) (appends : program.Appends)
    (imported : program.importFile request collection = .ok result) :
    ∃ content, Content.read program request.input = .ok content ∧
      ∀ scene ∈ content.newScenes collection result, content.NumbersItems scene := by
  rcases program.importFile_eq_ok appends imported with ⟨content, reading, rfl⟩
  refine ⟨content, reading, ?_⟩
  intro scene member
  rw [Content.newScenes_importInto] at member
  rcases List.mem_map.mp member with ⟨record, recordMember, rfl⟩
  exact (Content.isNumbered_of_mem_scenes recordMember).numbersItems

def oneItemRequest : Request where
  path := ⟨"/a.bpres"⟩
  input := "<configuration>\n<placement name=\"Main\">\n" ++
    "<item type=\"4\" name=\"Cam\"/>\n</placement>\n</configuration>"

theorem new_scenes_number_items_one_item :
    ∃ result, Program.xsplitBroadcaster.importFile oneItemRequest {} = .ok result ∧
      (∃ scene, result.records.head? = some scene ∧ itemNumbers scene = [1] ∧
        nextItemNumber scene = 1) ∧
      ∃ content, Content.read .xsplitBroadcaster oneItemRequest.input = .ok content ∧
        ∀ scene ∈ content.newScenes {} result, content.NumbersItems scene := by
  have numbers : (Program.xsplitBroadcaster.importFile oneItemRequest {}).map
      (fun result => result.records.head?.map fun scene =>
        (itemNumbers scene, nextItemNumber scene)) = .ok (some ([1], 1)) := by
    decide +kernel
  rcases exists_of_map_eq_ok numbers with ⟨result, imported, resultNumbers⟩
  rcases Option.map_eq_some_iff.mp resultNumbers with ⟨scene, first, pair⟩
  rcases Prod.ext_iff.mp pair with ⟨only, kept⟩
  exact ⟨result, imported, ⟨scene, first, only, kept⟩,
    new_scenes_number_items .xsplitBroadcaster oneItemRequest {} result (by decide) imported⟩

end BroadcastScenes
