import BroadcastScenes.Proofs.CollectionRecords

/-!
# Scenes and what they place

An item resolves among some names if it shows one of them or shows nothing, and it is placed if it
does show one. Both are said of the records that imports build and are then read off the values that
these records are kept as.
-/

namespace BroadcastScenes

def Collection.shownNames (collection : Collection) : List (String × List (Option String)) :=
  collection.records.map fun record =>
    (recordName record, (record.members.itemsAt "settings").map fun item =>
      (item.member? "name").bind Value.string?)

namespace Scene.Item

def Resolves (names : List String) (item : Item) : Prop :=
  ∀ name, item.name = some name → name ∈ names

def IsPlaced (names : List String) (item : Item) : Prop :=
  ∃ name ∈ names, item.name = some name

theorem Resolves.mono {names more : List String} {item : Item} (resolves : item.Resolves names)
    (within : names ⊆ more) : item.Resolves more :=
  fun name named => within (resolves name named)

theorem IsPlaced.mono {names more : List String} {item : Item} (placed : item.IsPlaced names)
    (within : names ⊆ more) : item.IsPlaced more := by
  rcases placed with ⟨name, member, named⟩
  exact ⟨name, within member, named⟩

theorem IsPlaced.resolves {names : List String} {item : Item} (placed : item.IsPlaced names) :
    item.Resolves names := by
  rcases placed with ⟨name, member, named⟩
  intro other otherNamed
  rw [named] at otherNamed
  exact Option.some.inj otherNamed ▸ member

end Scene.Item

namespace Source.Record

def IsSceneOf (property : Scene.Item → Prop) (record : Record) : Prop :=
  ∃ (base : Record) (items : List Scene.Item),
    record = base.withItems items ∧ base.id = sceneId ∧ ∀ item ∈ items, property item

theorem isSceneOf_withItems {property : Scene.Item → Prop} {base : Record}
    {items : List Scene.Item} (isScene : base.id = sceneId)
    (holds : ∀ item ∈ items, property item) : (base.withItems items).IsSceneOf property :=
  ⟨base, items, rfl, isScene, holds⟩

theorem IsSceneOf.id_eq {property : Scene.Item → Prop} {record : Record}
    (scene : record.IsSceneOf property) : record.id = sceneId := by
  rcases scene with ⟨base, items, rfl, isScene, _⟩
  exact isScene

theorem IsSceneOf.mono {property weaker : Scene.Item → Prop} {record : Record}
    (scene : record.IsSceneOf property) (implies : ∀ item, property item → weaker item) :
    record.IsSceneOf weaker := by
  rcases scene with ⟨base, items, equal, isScene, holds⟩
  exact ⟨base, items, equal, isScene, fun item member => implies item (holds item member)⟩

theorem IsSceneOf.exists_of_mem_itemsAt {property : Scene.Item → Prop} {record : Record}
    (scene : record.IsSceneOf property) {value : Value}
    (member : value ∈ record.toValue.members.itemsAt "settings") :
    ∃ item : Scene.Item, property item ∧ value = item.toValue := by
  rcases scene with ⟨base, items, rfl, _, holds⟩
  rw [itemsAt_settings_withItems] at member
  rcases List.mem_map.mp member with ⟨item, itemMember, rfl⟩
  exact ⟨item, holds item itemMember, rfl⟩

end Source.Record

end BroadcastScenes
