import BroadcastScenes.Proofs.AppendingImport
import BroadcastScenes.Proofs.ObsClassic.Assembly
import Mathlib.Logic.Relation

/-!
# The order of scenes

The scenes of a scene text place only what has a record when they are filled, and their own records
come after that. So a scene can place a scene before it, by a reference, but none behind it and not
itself, and following the items of new scenes never leads in a circle.
-/

namespace BroadcastScenes

namespace Collection

/-- The record at the one position is a scene that has been added to the collection, and an item of
it shows the name of the record at the other position. -/
structure Places (collection result : Collection) (position shown : Nat) : Prop where
  isNew : collection.records.length ≤ position
  places : ∃ scene record, result.records[position]? = some scene ∧
    scene.members.stringAt "id" = Source.sceneId ∧ result.records[shown]? = some record ∧
    ∃ item ∈ scene.members.itemsAt "settings",
      item.member? "name" = some (.string (recordName record))

/-- Each item of a new scene shows the name of a record in front of the scene and of none behind it,
so that no new scene places itself by way of new scenes. -/
structure OrdersScenes (collection result : Collection) : Prop where
  placed : ∀ position scene, collection.records.length ≤ position →
    result.records[position]? = some scene → scene.members.stringAt "id" = Source.sceneId →
    ∀ item ∈ scene.members.itemsAt "settings", ∃ earlier record, earlier < position ∧
      result.records[earlier]? = some record ∧
      item.member? "name" = some (.string (recordName record))
  earlier : ∀ position shown, collection.Places result position shown → shown < position
  acyclic : ∀ position, ¬ Relation.TransGen (collection.Places result) position position

variable {collection result : Collection}

theorem exists_record_of_mem_take {position : Nat} {name : String}
    (member : name ∈ collection.recordNames.take position) :
    ∃ earlier record, earlier < position ∧ collection.records[earlier]? = some record ∧
      recordName record = name := by
  rw [recordNames, ← List.map_take] at member
  rcases List.mem_map.mp member with ⟨record, taken, named⟩
  rcases List.mem_iff_getElem?.mp taken with ⟨earlier, found⟩
  rw [List.getElem?_take] at found
  split at found
  · rename_i before
    exact ⟨earlier, record, before, found, named⟩
  · cases found

theorem recordName_mem_drop {position shown : Nat} {record : Value} (behind : position ≤ shown)
    (found : collection.records[shown]? = some record) :
    recordName record ∈ collection.recordNames.drop position := by
  rw [recordNames, ← List.map_drop]
  apply List.mem_map_of_mem
  apply List.mem_iff_getElem?.mpr
  refine ⟨shown - position, ?_⟩
  rw [List.getElem?_drop, Nat.add_sub_cancel' behind]
  exact found

def ShowsEarlierNames (collection result : Collection) : Prop :=
  ∀ position scene, collection.records.length ≤ position →
    result.records[position]? = some scene → scene.members.stringAt "id" = Source.sceneId →
    ∀ item ∈ scene.members.itemsAt "settings", ∃ name ∈ result.recordNames.take position,
      name ∉ result.recordNames.drop position ∧ item.member? "name" = some (.string name)

theorem ShowsEarlierNames.lt_of_places (shows : collection.ShowsEarlierNames result)
    {position shown : Nat} (places : collection.Places result position shown) :
    shown < position := by
  rcases places.places with ⟨scene, record, found, isScene, recordFound, item, member, named⟩
  rcases shows position scene places.isNew found isScene item member with
    ⟨name, _, unused, nameShown⟩
  by_contra behind
  rw [named] at nameShown
  cases nameShown
  exact unused (recordName_mem_drop (Nat.le_of_not_lt behind) recordFound)

theorem ShowsEarlierNames.lt_of_transGen (shows : collection.ShowsEarlierNames result)
    {position last : Nat} (path : Relation.TransGen (collection.Places result) position last) :
    last < position := by
  induction path with
  | single step => exact shows.lt_of_places step
  | tail _ step induction => exact Nat.lt_trans (shows.lt_of_places step) induction

theorem ShowsEarlierNames.ordersScenes (shows : collection.ShowsEarlierNames result) :
    collection.OrdersScenes result where
  placed := by
    intro position scene isNew found isScene item member
    rcases shows position scene isNew found isScene item member with ⟨name, known, _, named⟩
    rcases exists_record_of_mem_take known with ⟨first, record, before, there, rfl⟩
    exact ⟨first, record, before, there, named⟩
  earlier := fun _ _ places => shows.lt_of_places places
  acyclic := fun _ path => Nat.lt_irrefl _ (shows.lt_of_transGen path)

end Collection

/-- A name that was in use, or that was given before, is not given again from then on. -/
theorem AreNew.not_mem_drop {inUse names : List String} (new : AreNew inUse names) {index : Nat}
    {name : String} (member : name ∈ inUse ++ names.take index) : name ∉ names.drop index := by
  intro again
  rcases List.mem_append.mp member with old | before
  · exact new.fresh name (List.mem_of_mem_drop again) old
  · have distinct := new.nodup
    rw [← List.take_append_drop index names] at distinct
    exact (List.nodup_append.mp distinct).2.2 name before name again rfl

theorem ObsClassic.PlacesEarlier.exists_mem {present : List String} {added : List Source.Record}
    (places : PlacesEarlier present added) {index : Nat} {record : Source.Record}
    (found : added[index]? = some record) (isScene : record.id = Source.sceneId) {item : Value}
    (member : item ∈ record.toValue.members.itemsAt "settings") :
    ∃ name ∈ present ++ (added.map (·.name)).take index,
      item.member? "name" = some (.string name) := by
  rcases List.getElem?_eq_some_iff.mp found with ⟨bound, equal⟩
  have split : added = added.take index ++ record :: added.drop (index + 1) := by
    rw [← equal, ← List.drop_eq_getElem_cons bound, List.take_append_drop]
  have scene := places _ _ _ split isScene
  rcases scene.exists_of_mem_itemsAt member with ⟨item, ⟨name, known, named⟩, rfl⟩
  refine ⟨name, ?_, ?_⟩
  · rw [← List.map_take]
    exact known
  · rw [Scene.Item.member?_name_toValue, named]
    rfl

theorem Content.showsEarlierNames_importInto (blocks : Members) (request : Request)
    (collection : Collection) :
    collection.ShowsEarlierNames ((sceneText blocks).importInto request collection) := by
  let added := (ObsClassic.additions request.setting.platform collection.recordNames blocks).records
  have names : ((sceneText blocks).importInto request collection).recordNames =
      collection.recordNames ++ added.map (·.name) := recordNames_importInto _ _ _
  have new : AreNew collection.recordNames (added.map (·.name)) :=
    ObsClassic.areNew_additions _ _ _
  have places : ObsClassic.PlacesEarlier collection.recordNames added :=
    ObsClassic.placesEarlier_additions _ _ _
  intro position scene isNew found isScene item member
  rcases Nat.exists_eq_add_of_le isNew with ⟨index, rfl⟩
  rw [records_importInto_sceneText, List.getElem?_append_right isNew, Nat.add_sub_cancel_left,
    List.getElem?_map] at found
  rcases Option.map_eq_some_iff.mp found with ⟨record, recordFound, rfl⟩
  rcases places.exists_mem recordFound isScene member with ⟨name, known, named⟩
  have length : collection.recordNames.length = collection.records.length := List.length_map _
  rw [names, ← length, List.take_length_add_append, List.drop_length_add_append]
  exact ⟨name, known, new.not_mem_drop known, named⟩

/-- No scene of a scene text places itself or a record behind it, whatever the collection had
before, and so no chain of new scenes leads from a scene back to it. -/
theorem new_scenes_place_earlier_records (request : Request) (collection : Collection)
    (blocks : Members) (reading : SceneText.read request.input = .ok blocks) :
    ∃ result, Program.obsClassic.importFile request collection = .ok result ∧
      collection.OrdersScenes result := by
  have shows := Content.showsEarlierNames_importInto blocks request collection
  exact ⟨_, ObsClassic.importFile_of_read reading collection, shows.ordersScenes⟩

def mutualScenesText : Request where
  path := ⟨"/mutual.xconfig"⟩
  input := "scenes : \x7b\nA : \x7b\nsources : \x7b\n" ++
    "B : \x7b\nclass : GlobalSource\n\x7d\nA : \x7b\nclass : GlobalSource\n\x7d\n\x7d\n\x7d\n" ++
    "B : \x7b\nsources : \x7b\nA : \x7b\nclass : GlobalSource\n\x7d\n\x7d\n\x7d\n\x7d\n"

theorem new_scenes_place_earlier_records_mutual :
    ∃ blocks result, SceneText.read mutualScenesText.input = .ok blocks ∧
      Program.obsClassic.importFile mutualScenesText {} = .ok result ∧
      result.shownNames =
        [("B", []), ("A 0", []), ("A", [some "A 0", some "B"]), ("B 0", [some "A"])] ∧
      Collection.OrdersScenes {} result := by
  have names : (Program.obsClassic.importFile mutualScenesText {}).map Collection.shownNames =
      .ok [("B", []), ("A 0", []), ("A", [some "A 0", some "B"]), ("B 0", [some "A"])] := by
    decide +kernel
  rcases exists_of_map_eq_ok names with ⟨_, succeeded, _⟩
  rcases ObsClassic.exists_read_of_importFile succeeded with ⟨blocks, reading⟩
  rcases new_scenes_place_earlier_records mutualScenesText {} blocks reading with
    ⟨result, imported, orders⟩
  rw [imported] at names
  exact ⟨blocks, result, reading, imported, Except.ok.inj names, orders⟩

end BroadcastScenes
