import BroadcastScenes.Collection.Adaptation
import BroadcastScenes.Proofs.Value.Nesting

/-!
# Nested records

Records and items repeat no keys, and they nest no deeper than what they are made of requires. The
same goes for a collection that records are added to and for one that is adapted to a platform.
-/

namespace BroadcastScenes

open Value (Fits MembersFit fits_object_iff fits_array_iff)

/-! ## Parts of members -/

namespace Value

theorem Fits.membersFit {room : Nat} {value : Value} (fits : value.Fits (room + 1)) :
    MembersFit room value.members := by
  cases value with
  | object members => exact fits_object_iff.mp fits
  | _ => exact .nil

theorem Fits.elements {room : Nat} {value : Value} (fits : value.Fits (room + 1)) :
    ∀ element ∈ value.elements, element.Fits room := by
  cases value with
  | array elements => exact fits_array_iff.mp fits
  | _ => exact List.forall_mem_nil _

namespace MembersFit

variable {room : Nat} {members : Members}

theorem membersAt (fits : MembersFit (room + 1) members) (key : String) :
    MembersFit room (members.membersAt key) := by
  rw [Members.membersAt, Members.objectAt?]
  split
  · rename_i inner found
    exact fits_object_iff.mp (fits.find? found)
  · exact .nil

theorem elementsAt (fits : MembersFit (room + 1) members) (key : String) :
    ∀ element ∈ members.elementsAt key, element.Fits room := by
  rw [Members.elementsAt]
  cases found : Entries.find? key members with
  | none => exact List.forall_mem_nil _
  | some value => exact (fits.find? found).elements

theorem itemsAt (fits : MembersFit (room + 2) members) (key : String) :
    ∀ element ∈ members.itemsAt key, element.Fits room :=
  (fits.membersAt key).elementsAt "items"

end MembersFit

structure ListedFit (room : Nat) (keys : List String) (members : Members) : Prop where
  listed : (Entries.keys members).Sublist keys
  inner : ∀ member ∈ members, member.2.Fits room

namespace ListedFit

variable {room : Nat}

theorem nil (keys : List String) : ListedFit room keys [] :=
  ⟨List.nil_sublist keys, List.forall_mem_nil _⟩

theorem cons {key : String} {value : Value} {keys : List String} {members : Members}
    (fits : value.Fits room) (rest : ListedFit room keys members) :
    ListedFit room (key :: keys) ((key, value) :: members) :=
  ⟨rest.listed.cons_cons key, List.forall_mem_cons.mpr ⟨fits, rest.inner⟩⟩

theorem append {keys otherKeys : List String} {members others : Members}
    (fits : ListedFit room keys members) (othersFit : ListedFit room otherKeys others) :
    ListedFit room (keys ++ otherKeys) (members ++ others) := by
  refine ⟨?_, ?_⟩
  · rw [Entries.keys, List.map_append]
    exact fits.listed.append othersFit.listed
  · intro member both
    rcases List.mem_append.mp both with first | second
    · exact fits.inner member first
    · exact othersFit.inner member second

theorem optional {key : String} {make : α → Value} {part : Option α}
    (fits : ∀ present, part = some present → (make present).Fits room) :
    ListedFit room [key] (Scene.Item.optional key make part) := by
  cases part with
  | none => exact nil [key]
  | some present => exact cons (fits present rfl) (nil [])

theorem membersFit {keys : List String} {members : Members} (fits : ListedFit room keys members)
    (distinct : keys.Nodup) : MembersFit room members :=
  ⟨fits.listed.nodup distinct, fits.inner⟩

end ListedFit

end Value

open Value (ListedFit)

/-! ## Items and records -/

namespace Scene

theorem Pair.fits_toValue (pair : Pair) : pair.toValue.Fits 1 :=
  fits_object_iff.mpr
    (((ListedFit.nil []).cons (Value.fits_double _ _)).cons (Value.fits_double _ _)
      |>.membersFit (by decide))

namespace Item

theorem listedFit_extentMembers (extent : Extent) :
    ListedFit 1 ["bounds", "bounds_type", "scale"] (extentMembers extent) := by
  cases extent with
  | bounds size kind =>
      exact ((ListedFit.nil ["scale"]).cons (Value.fits_integer _ kind)).cons size.fits_toValue
  | scale factors =>
      have scale : ListedFit 1 ["scale"] [("scale", factors.toValue)] :=
        (ListedFit.nil []).cons factors.fits_toValue
      exact ⟨(scale.listed.cons _).cons _, scale.inner⟩

theorem listedFit_cropMembers (crop : Option Crop) :
    ListedFit 1 ["crop_top", "crop_bottom", "crop_left", "crop_right"]
      ((crop.map cropMembers).getD []) := by
  cases crop with
  | none => exact .nil _
  | some crop =>
      exact ((((ListedFit.nil []).cons (Value.fits_integer _ crop.right)).cons
        (Value.fits_integer _ crop.left)).cons (Value.fits_integer _ crop.bottom)).cons
          (Value.fits_integer _ crop.top)

theorem fits_toValue (item : Item) : item.toValue.Fits 2 := by
  have name : ListedFit 1 ["name"] (optional "name" .string item.name) :=
    .optional fun _ _ => Value.fits_string _ _
  have place : ListedFit 1 ["id", "pos"]
      [("id", .integer item.id), ("pos", item.position.toValue)] :=
    ((ListedFit.nil []).cons item.position.fits_toValue).cons (Value.fits_integer _ item.id)
  have rotation : ListedFit 1 ["rot"] (optional "rot" .double item.rotation) :=
    .optional fun _ _ => Value.fits_double _ _
  have visible : ListedFit 1 ["visible"] [("visible", .boolean item.visible)] :=
    (ListedFit.nil []).cons (Value.fits_boolean _ _)
  have all := ((((name.append place).append (listedFit_extentMembers item.extent)).append
    rotation).append (listedFit_cropMembers item.crop)).append visible
  exact fits_object_iff.mpr (all.membersFit (by decide))

end Item

end Scene

namespace Source.Record

structure PartsFit (room : Nat) (record : Record) : Prop where
  settings : MembersFit room record.settings
  filters : ∀ filters, record.filters = some filters → ∀ filter ∈ filters, filter.Fits room
  hotkeys : ∀ hotkeys, record.hotkeys = some hotkeys → MembersFit room hotkeys
  privateSettings : ∀ settings, record.privateSettings = some settings → MembersFit room settings

theorem PartsFit.fits_toValue {room : Nat} {record : Record} (parts : record.PartsFit room) :
    record.toValue.Fits (room + 2) := by
  have start : ListedFit (room + 1) ["name", "id", "settings"]
      [("name", .string record.name), ("id", .string record.id),
        ("settings", .object record.settings)] :=
    (((ListedFit.nil []).cons (fits_object_iff.mpr parts.settings)).cons
      (Value.fits_string _ _)).cons (Value.fits_string _ _)
  have filters : ListedFit (room + 1) ["filters"]
      (Scene.Item.optional "filters" .array record.filters) :=
    .optional fun present equal => fits_array_iff.mpr (parts.filters present equal)
  have hotkeys : ListedFit (room + 1) ["hotkeys"]
      (Scene.Item.optional "hotkeys" .object record.hotkeys) :=
    .optional fun present equal => fits_object_iff.mpr (parts.hotkeys present equal)
  have sync : ListedFit (room + 1) ["sync"] (Scene.Item.optional "sync" .integer record.sync) :=
    .optional fun _ _ => Value.fits_integer _ _
  have volume : ListedFit (room + 1) ["volume"]
      (Scene.Item.optional "volume" .double record.volume) :=
    .optional fun _ _ => Value.fits_double _ _
  have muted : ListedFit (room + 1) ["muted"]
      (Scene.Item.optional "muted" .boolean record.muted) :=
    .optional fun _ _ => Value.fits_boolean _ _
  have monitoring : ListedFit (room + 1) ["monitoring_type"]
      (Scene.Item.optional "monitoring_type" .integer record.monitoring) :=
    .optional fun _ _ => Value.fits_integer _ _
  have privateSettings : ListedFit (room + 1) ["private_settings"]
      (Scene.Item.optional "private_settings" .object record.privateSettings) :=
    .optional fun present equal => fits_object_iff.mpr (parts.privateSettings present equal)
  have all := ((((((start.append filters).append hotkeys).append sync).append volume).append
    muted).append monitoring).append privateSettings
  exact fits_object_iff.mpr (all.membersFit (by decide))

theorem partsFit_of_settings {room : Nat} {record : Record}
    (settings : MembersFit room record.settings) (noFilters : record.filters = none)
    (noHotkeys : record.hotkeys = none) (noPrivateSettings : record.privateSettings = none) :
    record.PartsFit room := by
  refine ⟨settings, ?_, ?_, ?_⟩
  · intro filters some
    rw [noFilters] at some
    cases some
  · intro hotkeys some
    rw [noHotkeys] at some
    cases some
  · intro members some
    rw [noPrivateSettings] at some
    cases some

theorem PartsFit.withItems {room : Nat} {record : Record} (parts : record.PartsFit (room + 3))
    (items : List Scene.Item) : (record.withItems items).PartsFit (room + 3) := by
  refine ⟨?_, parts.filters, parts.hotkeys, parts.privateSettings⟩
  apply (parts.settings.insert "items" _).insert "id_counter" (Value.fits_integer _ _)
  rw [fits_array_iff]
  intro value member
  rcases List.mem_map.mp member with ⟨item, _, rfl⟩
  exact item.fits_toValue.mono (Nat.le_add_left _ _)

theorem partsFit_scene (room : Nat) (name : String) : (scene name).PartsFit room :=
  partsFit_of_settings .nil rfl rfl rfl

end Source.Record

/-! ## Collections -/

theorem membersFit_adaptCursor {room : Nat} {settings : Members}
    (fits : MembersFit room settings) (id : String) (platform : Platform) :
    MembersFit room (adaptCursor id platform settings) := by
  rw [adaptCursor]
  split
  · exact fits.insert _ (Value.fits_boolean _ _)
  · exact fits

theorem membersFit_adaptSettings {room : Nat} {record : Members}
    (fits : MembersFit (room + 1) record) (kind : Source.Kind) (id : String)
    (platform : Platform) : MembersFit (room + 1) (adaptSettings kind id platform record) := by
  unfold adaptSettings
  split
  · exact fits
  · exact fits.insert _ (fits_object_iff.mpr
      (membersFit_adaptCursor (fits.membersAt "settings") id platform))
  · exact fits.insert _ (fits_object_iff.mpr .nil)

theorem fits_adaptRecord {room : Nat} {record : Value} (fits : record.Fits (room + 2))
    (platform : Platform) : (adaptRecord platform record).Fits (room + 2) := by
  have members := fits.membersFit
  rw [adaptRecord]
  split
  · exact fits
  · split
    · exact fits
    · exact fits_object_iff.mpr (membersFit_adaptSettings
        (members.insert "id" (Value.fits_string _ _)) _ _ _)

namespace Collection

def Fits (room : Nat) (collection : Collection) : Prop := MembersFit (room + 1) collection.root

namespace Fits

variable {room : Nat} {collection : Collection}

theorem toValue (fits : collection.Fits room) : collection.toValue.Fits (room + 2) :=
  fits_object_iff.mpr fits

theorem records (fits : collection.Fits room) :
    ∀ record ∈ collection.records, record.Fits room :=
  fits.elementsAt "sources"

theorem withRecords (fits : collection.Fits room) {records : List Value}
    (recordsFit : ∀ record ∈ records, record.Fits room) :
    (collection.withRecords records).Fits room :=
  fits.insert "sources" (fits_array_iff.mpr recordsFit)

theorem rename (fits : collection.Fits room) (name : String) :
    (collection.rename name).Fits room :=
  fits.insert "name" (Value.fits_string _ _)

theorem showScene (fits : collection.Fits room) (scene : String) :
    (collection.showScene scene).Fits room :=
  (fits.insert "current_scene" (Value.fits_string _ _)).insert "current_program_scene"
    (Value.fits_string _ _)

theorem extend (fits : collection.Fits room) {additions : Additions}
    (recordsFit : ∀ record ∈ additions.records, record.toValue.Fits room) :
    (collection.extend additions).Fits room := by
  have extended : (if additions.records.isEmpty then collection else collection.withRecords
      (collection.records ++ additions.records.map Source.Record.toValue)).Fits room := by
    split
    · exact fits
    · apply fits.withRecords
      intro record member
      rcases List.mem_append.mp member with old | new
      · exact fits.records record old
      · rcases List.mem_map.mp new with ⟨added, inAdditions, rfl⟩
        exact recordsFit added inAdditions
  rw [Collection.extend]
  split
  · exact extended.showScene _
  · exact extended

theorem adapt (fits : collection.Fits (room + 2)) (platform : Platform) :
    (collection.adapt platform).Fits (room + 2) := by
  apply fits.withRecords
  intro record member
  rcases List.mem_map.mp member with ⟨old, inRecords, rfl⟩
  exact fits_adaptRecord (fits.records old inRecords) platform

end Fits

theorem fits_empty (room : Nat) : ({} : Collection).Fits room := Value.MembersFit.nil

end Collection

end BroadcastScenes
