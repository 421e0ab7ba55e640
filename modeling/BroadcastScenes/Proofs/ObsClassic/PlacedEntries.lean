import BroadcastScenes.Proofs.ItemNumbers
import BroadcastScenes.Proofs.ObsClassic.UnsupportedEntries
import BroadcastScenes.Proofs.PlacedNames
import Mathlib.Data.List.Forall2

/-!
# Placed entries

Each entry of a scene becomes an item of the scene, unless the platform has no source for it. The
items are numbered in the order of the file and stand in the opposite one. An item for a reference
shows what the last shared entry with the name of the reference has become.
-/

namespace BroadcastScenes.ObsClassic

variable {platform : Platform} {shared : List (String × String)}

theorem SettlesAll.id_ne_sceneId {entries : List Value} {settled : Settled}
    (settles : SettlesAll platform shared entries settled) :
    ∀ record ∈ settled.records, record.id ≠ Source.sceneId := by
  intro record member
  rcases List.mem_filterMap.mp member with ⟨⟨entry, outcome⟩, pairMember, found⟩
  have isNew : outcome = .new record := by
    cases outcome with
    | existing name => cases found
    | new other => exact congrArg _ (Option.some.inj found)
    | unsupported => cases found
  rcases (settles.settles _ pairMember).setup record isNew with ⟨setup, own, equal⟩
  rw [equal]
  exact setup?_id_ne_sceneId own

theorem SettlesAll.filter_isScene {entries : List Value} {settled : Settled}
    (settles : SettlesAll platform shared entries settled) :
    settled.records.filter (·.isScene) = [] := by
  apply List.filter_eq_nil_iff.mpr
  intro record member
  simpa [Source.Record.isScene] using settles.id_ne_sceneId record member

theorem SettlesScene.filter_isScene {scene : Value} {settled : SettledScene}
    (settles : SettlesScene platform shared scene settled) :
    settled.records.filter (·.isScene) = [settled.record] := by
  have isScene : settled.record.isScene = true := rfl
  rw [SettledScene.records, List.filter_append, settles.entries.filter_isScene, List.nil_append,
    List.filter_cons_of_pos isScene, List.filter_nil]

theorem filter_isScene_flatMap {scenes : List Value} {settled : List SettledScene}
    (settles : List.Forall₂ (SettlesScene platform shared) scenes settled) :
    (settled.flatMap SettledScene.records).filter (·.isScene) =
      settled.map SettledScene.record := by
  induction settles with
  | nil => rfl
  | cons first _ induction =>
      rw [List.flatMap_cons, List.filter_append, first.filter_isScene, induction]
      rfl

theorem Report.IsOf.filter_isScene {report : Report} {present : List String} {blocks : Members}
    (isOf : report.IsOf platform present blocks) :
    report.records.filter (·.isScene) = report.scenes.map SettledScene.record := by
  rw [records, List.filter_append, isOf.shared.filter_isScene,
    filter_isScene_flatMap isOf.scenes, List.nil_append]

/-! ## Items -/

structure IsItemOf (entry : Members) (name : String) (number : Nat) (item : Value) : Prop where
  named : item.member? "name" = some (.string name)
  numbered : item.member? "id" = some (.integer (Int64.ofNat number))
  position : item.member? "pos" =
    some (Scene.Pair.toValue ⟨entry.doubleAt "x", entry.doubleAt "y"⟩)
  bounds : item.member? "bounds" =
    some (Scene.Pair.toValue ⟨entry.doubleAt "cx", entry.doubleAt "cy"⟩)
  stretched : item.member? "bounds_type" = some (.integer Scene.stretched)
  crop : ∀ edge ∈ ["top", "bottom", "left", "right"], item.member? ("crop_" ++ edge) =
    some (.integer (entry.integerAt ("crop." ++ edge)))
  visible : item.member? "visible" = some (.boolean true)

theorem isItemOf_sceneItem (entry : Members) (name : String) (number : Nat) :
    IsItemOf entry name number (sceneItem entry name number).toValue where
  named := rfl
  numbered := rfl
  position := rfl
  bounds := rfl
  stretched := rfl
  crop := by simp [sceneItem, Scene.Item.toValue, Scene.Item.optional, Scene.Item.extentMembers,
    Scene.Item.cropMembers, Value.member?, Value.members, Entries.find?]
  visible := rfl

/-- The scene has one item for each of the entries that are shown. They are numbered from one in the
order of the file and stand in the opposite order. -/
def ShowsEntries (settled : Settled) (scene : Value) : Prop :=
  List.Forall₂ (fun (shown : (Members × String) × Nat) item =>
      IsItemOf shown.1.1 shown.1.2 shown.2 item)
    (settled.placed.zipIdx 1).reverse (scene.members.itemsAt "settings")

theorem SettledScene.showsEntries (settled : SettledScene) :
    ShowsEntries settled.entries settled.record.toValue := by
  rw [ShowsEntries, record, Source.Record.itemsAt_settings_withItems, Settled.itemsFrom,
    List.map_reverse, List.forall₂_reverse_iff, List.map_map, List.forall₂_map_right_iff,
    List.forall₂_same]
  exact fun shown _ => isItemOf_sceneItem shown.1.1 shown.1.2 shown.2

end BroadcastScenes.ObsClassic

namespace BroadcastScenes

open ObsClassic (Report ShowsEntries withSupportedEntries)

/-- The report says what an import of these blocks has made of the collection: the records that are
new, the scenes among them with their items, and that entries without a source might as well not be
there. -/
structure ObsClassic.Report.Explains (report : Report) (request : Request) (blocks : Members)
    (collection result : Collection) : Prop where
  isOf : report.IsOf request.setting.platform collection.recordNames blocks
  records : result.records = collection.records ++ report.records.map Source.Record.toValue
  scenes : (Content.sceneText blocks).newScenes collection result =
    report.scenes.map (·.record.toValue)
  items : List.Forall₂ (fun settled scene => ShowsEntries settled.entries scene) report.scenes
    ((Content.sceneText blocks).newScenes collection result)
  supported : (Content.sceneText
    (withSupportedEntries request.setting.platform blocks)).importInto request collection = result

/-- An import of a scene text can be reported entry by entry: which item each entry of a scene has
become under which number and name, and which records it has brought in. -/
theorem scene_texts_place_entries (request : Request) (collection : Collection) (blocks : Members)
    (reading : SceneText.read request.input = .ok blocks) :
    ∃ (result : Collection) (report : Report),
      Program.obsClassic.importFile request collection = .ok result ∧
      report.Explains request blocks collection result := by
  rcases ObsClassic.exists_report request.setting.platform collection.recordNames blocks with
    ⟨report, isOf, records⟩
  have scenes : (Content.sceneText blocks).newScenes collection
      ((Content.sceneText blocks).importInto request collection) =
        report.scenes.map (·.record.toValue) := by
    rw [Content.newScenes_importInto, Content.scenes, records, isOf.filter_isScene, List.map_map]
    rfl
  refine ⟨_, report, ObsClassic.importFile_of_read reading collection, isOf, ?_, scenes, ?_, ?_⟩
  · rw [Content.records_importInto_sceneText, records]
  · rw [scenes, List.forall₂_map_right_iff, List.forall₂_same]
    exact fun settled _ => settled.showsEntries
  · exact Content.importInto_sceneText_congr (ObsClassic.additions_withSupportedEntries _ _)

def sharedCamText : Request where
  path := ⟨"/shared.xconfig"⟩
  input := "scenes : \x7b\nMain : \x7b\nsources : \x7b\n" ++
    "Cam : \x7b\nclass : GlobalSource\n\x7d\n" ++
    "Shot : \x7b\nclass : GraphicsCapture\n\x7d\nShot : \x7b\n\x7d\n" ++
    "\x7d\n\x7d\n\x7d\nglobal sources : \x7b\nCam : \x7b\n\x7d\nCam : \x7b\n\x7d\n\x7d\n"

/-- The collection has a record named `Cam` already, and there is no game capture on Linux. The
first entry of the scene has number one and stands last. -/
theorem scene_texts_place_entries_shared_cam :
    let collection : Collection := ⟨[("sources", .array [.object [("name", .string "Cam")]])]⟩
    ∃ (blocks : Members) (result : Collection) (report : Report),
      SceneText.read sharedCamText.input = .ok blocks ∧
      Program.obsClassic.importFile sharedCamText collection = .ok result ∧
      result.shownNames = [("Cam", []), ("Cam 0", []), ("Cam 1", []), ("Shot", []),
        ("Main", [some "Shot", some "Cam 1"])] ∧
      ((Content.sceneText blocks).newScenes collection result).map itemNumbers = [[2, 1]] ∧
      report.Explains sharedCamText blocks collection result := by
  intro collection
  have names : (Program.obsClassic.importFile sharedCamText collection).map
      Collection.shownNames = .ok [("Cam", []), ("Cam 0", []), ("Cam 1", []), ("Shot", []),
        ("Main", [some "Shot", some "Cam 1"])] := by
    decide +kernel
  have numbers : (SceneText.read sharedCamText.input).map (fun blocks =>
      ((Content.sceneText blocks).newScenes collection
        ((Content.sceneText blocks).importInto sharedCamText collection)).map itemNumbers) =
          .ok [[2, 1]] := by
    decide +kernel
  rcases exists_of_map_eq_ok names with ⟨_, succeeded, _⟩
  rcases ObsClassic.exists_read_of_importFile succeeded with ⟨blocks, reading⟩
  rcases scene_texts_place_entries sharedCamText collection blocks reading with
    ⟨result, report, imported, explains⟩
  have isResult := imported.symm.trans (ObsClassic.importFile_of_read reading collection)
  rw [imported] at names
  rw [reading] at numbers
  obtain rfl := Except.ok.inj isResult
  exact ⟨blocks, _, report, reading, imported, Except.ok.inj names, Except.ok.inj numbers,
    explains⟩

end BroadcastScenes
