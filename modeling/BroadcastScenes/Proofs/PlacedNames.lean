import BroadcastScenes.Proofs.AppendingImport
import BroadcastScenes.Proofs.ObsClassic.Assembly
import BroadcastScenes.Proofs.Streamlabs.Tree
import BroadcastScenes.Proofs.XSplit.Assembly

/-!
# Placed names

An item shows a source by its name, so the name has to be that of a record. In the new scenes of an
appending import every item that shows anything shows a record of the result, wherever the name came
from and whenever the record was appended.
-/

namespace BroadcastScenes

namespace Content

def scenes (setting : Setting) (inUse : List String) : Content → List Source.Record
  | presentation root => (XSplit.placed setting inUse root).1
  | tree root => Streamlabs.sceneRecords inUse root
  | sceneText blocks =>
      (ObsClassic.additions setting.platform inUse blocks).records.filter (·.isScene)

def Shows (names : List String) (item : Scene.Item) : Content → Prop
  | presentation _ => item.Resolves names
  | tree _ => item.Resolves names
  | sceneText _ => item.IsPlaced names

theorem Shows.resolves {content : Content} {names : List String} {item : Scene.Item}
    (shows : content.Shows names item) : item.Resolves names := by
  cases content with
  | presentation root => exact shows
  | tree root => exact shows
  | sceneText blocks => exact Scene.Item.IsPlaced.resolves shows

theorem length_scenes (content : Content) (setting : Setting) (inUse : List String) :
    (content.scenes setting inUse).length = content.sceneCount := by
  cases content with
  | presentation root => exact XSplit.length_placed setting inUse root
  | tree root =>
      rw [scenes, Streamlabs.length_sceneRecords, Streamlabs.sceneNodes, List.length_map]
      rfl
  | sceneText blocks => exact ObsClassic.length_filter_additions _ _ _

theorem isSceneOf_of_mem_scenes {content : Content} {setting : Setting} {inUse : List String}
    {scene : Source.Record} (member : scene ∈ content.scenes setting inUse) :
    scene.IsSceneOf fun item =>
      content.Shows (inUse ++ (content.additions setting inUse).records.map (·.name)) item := by
  cases content with
  | presentation root =>
      apply (XSplit.resolves_placed setting inUse root scene member).mono
      exact fun item resolves => resolves.mono (List.subset_append_right _ _)
  | tree root =>
      apply (Streamlabs.resolves_sceneRecords inUse root scene member).mono
      exact fun item resolves => resolves.mono (List.subset_append_right _ _)
  | sceneText blocks =>
      rcases List.mem_filter.mp member with ⟨added, isScene⟩
      rcases List.append_of_mem added with ⟨before, after, split⟩
      have places := ObsClassic.placesEarlier_additions setting.platform inUse blocks
        before scene after split (beq_iff_eq.mp isScene)
      apply places.mono
      intro item placed
      apply placed.mono
      have additions : (sceneText blocks).additions setting inUse =
          ObsClassic.additions setting.platform inUse blocks := rfl
      rw [additions, split, List.map_append, ← List.append_assoc]
      exact List.subset_append_left _ _

theorem sceneRecords_finishRecord (content : Content) (setting : Setting)
    (inUse : List String) :
    content.sceneRecords ((content.additions setting inUse).records.map fun record =>
        content.finishRecord setting record.toValue) =
      (content.scenes setting inUse).map Source.Record.toValue := by
  cases content with
  | presentation root =>
      rw [sceneRecords, ← List.map_take]
      exact congrArg _ (XSplit.take_additions setting inUse root)
  | tree root =>
      rw [sceneRecords, ← List.map_drop]
      have added : ((tree root).additions setting inUse).records.drop
          (root.itemsAt "sources").length = Streamlabs.sceneRecords inUse root :=
        Streamlabs.drop_additions inUse root
      rw [added]
      apply List.map_congr_left
      intro scene member
      apply finishRecord_scene
      exact (Streamlabs.resolves_sceneRecords inUse root scene member).id_eq
  | sceneText blocks => exact List.filter_map

theorem newScenes_importInto (content : Content) (request : Request)
    (collection : Collection) :
    content.newScenes collection (content.importInto request collection) =
      (content.scenes request.setting collection.recordNames).map Source.Record.toValue := by
  rw [newScenes, newRecords_importInto]
  exact content.sceneRecords_finishRecord _ _

/-- Each scene of the file has become a record, and what its items name are records too. The items
of a scene text all name one. -/
structure ShowsRecords (program : Program) (content : Content)
    (collection result : Collection) : Prop where
  count : (content.newScenes collection result).length = content.sceneCount
  areScenes : ∀ scene ∈ content.newScenes collection result,
    scene.members.stringAt "id" = Source.sceneId
  names : ∀ scene ∈ content.newScenes collection result,
    ∀ item ∈ scene.members.itemsAt "settings", ∀ name, item.member? "name" = some name →
      ∃ record ∈ result.records, name = .string (Collection.recordName record)
  named : program = .obsClassic → ∀ scene ∈ content.newScenes collection result,
    ∀ item ∈ scene.members.itemsAt "settings", ∃ name, item.member? "name" = some name

theorem exists_shows_of_mem_newScenes {content : Content} {request : Request}
    {collection : Collection} {scene value : Value}
    (sceneMember : scene ∈ content.newScenes collection (content.importInto request collection))
    (itemMember : value ∈ scene.members.itemsAt "settings") :
    ∃ item : Scene.Item, value = item.toValue ∧
      content.Shows (content.importInto request collection).recordNames item := by
  rw [newScenes_importInto] at sceneMember
  rcases List.mem_map.mp sceneMember with ⟨record, recordMember, rfl⟩
  have showing := isSceneOf_of_mem_scenes recordMember
  rcases showing.exists_of_mem_itemsAt itemMember with ⟨item, shows, equal⟩
  rw [← recordNames_importInto] at shows
  exact ⟨item, equal, shows⟩

theorem read_obsClassic {input : String} {content : Content}
    (reading : read .obsClassic input = .ok content) : ∃ blocks, content = .sceneText blocks := by
  have isProgram := program_eq_of_read reading
  cases content with
  | presentation root => cases isProgram
  | tree root => cases isProgram
  | sceneText blocks => exact ⟨blocks, rfl⟩

end Content

/-- Whatever an item of a new scene names is a record of the result, be it an old or a new one. -/
theorem new_scenes_show_records (program : Program) (request : Request)
    (collection result : Collection) (appends : program.Appends)
    (imported : program.importFile request collection = .ok result) :
    ∃ content, Content.read program request.input = .ok content ∧
      content.ShowsRecords program collection result := by
  rcases program.importFile_eq_ok appends imported with ⟨content, reading, rfl⟩
  refine ⟨content, reading, ?_, ?_, ?_, ?_⟩
  · rw [Content.newScenes_importInto, List.length_map, Content.length_scenes]
  · intro scene member
    rw [Content.newScenes_importInto] at member
    rcases List.mem_map.mp member with ⟨record, recordMember, rfl⟩
    exact (Content.isSceneOf_of_mem_scenes recordMember).id_eq
  · intro scene sceneMember value itemMember name named
    rcases Content.exists_shows_of_mem_newScenes sceneMember itemMember with ⟨item, rfl, shows⟩
    rw [Scene.Item.member?_name_toValue] at named
    rcases Option.map_eq_some_iff.mp named with ⟨shown, itemName, rfl⟩
    rcases List.mem_map.mp (shows.resolves shown itemName) with ⟨record, recordMember, equal⟩
    exact ⟨record, recordMember, congrArg Value.string equal.symm⟩
  · rintro rfl scene sceneMember value itemMember
    rcases Content.read_obsClassic reading with ⟨blocks, rfl⟩
    rcases Content.exists_shows_of_mem_newScenes sceneMember itemMember with
      ⟨item, rfl, shown, _, itemName⟩
    rw [Scene.Item.member?_name_toValue, itemName]
    exact ⟨.string shown, rfl⟩

def sharedSourceRequest : Request where
  path := ⟨"/shared.bpres"⟩
  input := "<configuration>\n<placement name=\"Main\" id=\"1\">\n" ++
    "<item type=\"11\" item=\"2\" />\n<item type=\"4\" cname=\"Cam\" srcid=\"a\" />\n" ++
    "</placement>\n<placement name=\"Cam\" id=\"2\">\n<item srcid=\"a\" />\n" ++
    "<item type=\"11\" item=\"3\" />\n</placement>\n</configuration>\n"

theorem new_scenes_show_records_shared_source :
    let collection : Collection := ⟨[("sources", .array [.object [("name", .string "Cam")]])]⟩
    ∃ result, Program.xsplitBroadcaster.importFile sharedSourceRequest collection = .ok result ∧
      Collection.shownNames result = [("Cam", []), ("Main", [some "Cam 0", some "Cam 1"]),
        ("Cam 0", [some "Cam 1", none]), ("Cam 1", [])] ∧
      ∃ content, Content.read .xsplitBroadcaster sharedSourceRequest.input = .ok content ∧
        content.ShowsRecords .xsplitBroadcaster collection result := by
  intro collection
  have names : (Program.xsplitBroadcaster.importFile sharedSourceRequest collection).map
      Collection.shownNames = .ok [("Cam", []), ("Main", [some "Cam 0", some "Cam 1"]),
        ("Cam 0", [some "Cam 1", none]), ("Cam 1", [])] := by
    decide +kernel
  rcases exists_of_map_eq_ok names with ⟨result, imported, resultNames⟩
  have shows := new_scenes_show_records .xsplitBroadcaster sharedSourceRequest collection
    result (by decide) imported
  exact ⟨result, imported, resultNames, shows⟩

end BroadcastScenes
