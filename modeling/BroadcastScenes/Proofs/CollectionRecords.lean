import BroadcastScenes.Collection.Adaptation

/-!
# Records of collections

What each operation on a collection does to its records, and what of a record can be read back from
the value that it is kept as.
-/

namespace BroadcastScenes

namespace Members

theorem elementsAt_insert_self (members : Members) (key : String) (elements : List Value) :
    elementsAt (members.insert key (.array elements)) key = elements := by
  simp [elementsAt, Value.elements]

theorem elementsAt_insert_of_ne {key other : String} (different : other ≠ key) (value : Value)
    (members : Members) :
    elementsAt (members.insert key value) other = members.elementsAt other := by
  rw [elementsAt, Entries.find?_insert_of_ne different, ← elementsAt]

end Members

namespace Scene.Item

theorem member?_name_toValue (item : Item) :
    item.toValue.member? "name" = item.name.map Value.string := by
  rcases item with ⟨id, name, position, extent, rotation, crop, visible⟩
  cases name with
  | some name => rfl
  | none => cases extent <;> cases rotation <;> cases crop <;> rfl

end Scene.Item

namespace Source.Record

theorem stringAt_id_toValue (record : Record) :
    record.toValue.members.stringAt "id" = record.id := rfl

@[simp] theorem withItems_id (record : Record) (items : List Scene.Item) :
    (record.withItems items).id = record.id := rfl

theorem itemsAt_settings_withItems (record : Record) (items : List Scene.Item) :
    (record.withItems items).toValue.members.itemsAt "settings" =
      items.map Scene.Item.toValue := by
  have settings : (record.withItems items).toValue.members.membersAt "settings" =
      (record.withItems items).settings := rfl
  rw [Members.itemsAt, settings, withItems,
    Members.elementsAt_insert_of_ne (by decide), Members.elementsAt_insert_self]

end Source.Record

/-! ## Adapting records -/

theorem find?_adaptSettings {key : String} (notSettings : key ≠ "settings") (kind : Source.Kind)
    (id : String) (platform : Platform) (record : Members) :
    (adaptSettings kind id platform record).find? key = record.find? key := by
  cases kind <;> simp [adaptSettings, Entries.find?_insert_of_ne notSettings]

theorem find?_adaptRecord {key : String} (notId : key ≠ "id") (notSettings : key ≠ "settings")
    (platform : Platform) (record : Value) :
    (adaptRecord platform record).members.find? key = record.members.find? key := by
  unfold adaptRecord
  dsimp only
  split
  · rfl
  · split
    · rfl
    · rw [Value.members, find?_adaptSettings notSettings, Entries.find?_insert_of_ne notId]

@[simp] theorem recordName_adaptRecord (platform : Platform) (record : Value) :
    Collection.recordName (adaptRecord platform record) = Collection.recordName record := by
  rw [Collection.recordName, Members.stringAt, find?_adaptRecord (by decide) (by decide)]
  rfl

theorem adaptRecord_of_ofId?_eq_none {record : Value} (platform : Platform)
    (unknown : Source.Kind.ofId? (record.members.stringAt "id") = none) :
    adaptRecord platform record = record := by
  simp [adaptRecord, unknown]

theorem adaptRecord_scene (platform : Platform) {scene : Source.Record}
    (isScene : scene.id = Source.sceneId) :
    adaptRecord platform scene.toValue = scene.toValue := by
  apply adaptRecord_of_ofId?_eq_none
  rw [Source.Record.stringAt_id_toValue, isScene]
  decide

/-! ## Records after an operation -/

namespace Collection

@[simp] theorem records_rename (collection : Collection) (name : String) :
    (collection.rename name).records = collection.records :=
  Members.elementsAt_insert_of_ne (by decide) _ _

@[simp] theorem records_showScene (collection : Collection) (scene : String) :
    (collection.showScene scene).records = collection.records := by
  unfold showScene records
  rw [Members.elementsAt_insert_of_ne (by decide), Members.elementsAt_insert_of_ne (by decide)]

@[simp] theorem records_withRecords (collection : Collection) (records : List Value) :
    (collection.withRecords records).records = records :=
  Members.elementsAt_insert_self _ _ _

@[simp] theorem records_adapt (collection : Collection) (platform : Platform) :
    (collection.adapt platform).records = collection.records.map (adaptRecord platform) :=
  records_withRecords _ _

@[simp] theorem records_extend (collection : Collection) (additions : Additions) :
    (collection.extend additions).records =
      collection.records ++ additions.records.map Source.Record.toValue := by
  rcases additions with ⟨records, firstScene⟩
  cases records with
  | nil => cases firstScene <;> simp [extend]
  | cons head tail => cases firstScene <;> simp [extend]

end Collection

end BroadcastScenes
