import BroadcastScenes.Proofs.DistinctNames
import BroadcastScenes.Proofs.KeptMembers

/-!
# The first scene

A collection shows a scene by its name, so there has to be one record with that name, and it has to
be a scene. The first scene of a file may be named after many other records and its record may stand
behind theirs, but no other record ever takes its name.
-/

namespace BroadcastScenes

theorem Collection.filter_recordName_eq_singleton {records : List Value} {record : Value}
    (member : record ∈ records)
    (once : (records.map recordName).count (recordName record) = 1) :
    (records.filter fun other => recordName other == recordName record) = [record] := by
  rw [List.count, List.countP_map] at once
  have single : (records.filter fun other => recordName other == recordName record).length = 1 :=
    List.countP_eq_length_filter.symm.trans once
  rcases List.length_eq_one_iff.mp single with ⟨only, equal⟩
  have found : record ∈ records.filter fun other => recordName other == recordName record :=
    List.mem_filter.mpr ⟨member, beq_self_eq_true _⟩
  rw [equal, List.mem_singleton] at found
  rw [equal, found]

namespace Content

def wantedNames : Content → List String
  | presentation root =>
      (root.childrenOfKind "placement").map fun placement => placement.attributes.textAt "name"
  | tree root => (root.itemsAt "scenes").map fun scene => scene.members.stringAt "name"
  | sceneText blocks =>
      (blocks.elementsAt "scenes").map fun scene => scene.members.stringAt "name"

/-- The names that are given to records before the first scene gets its own: none in a presentation,
those of all sources in a tree, and those of the shared entries in a scene text. -/
def namesBefore (setting : Setting) (inUse : List String) : Content → List String
  | presentation _ => []
  | tree root => (Streamlabs.sourceRecords inUse root).map (·.name)
  | sceneText blocks => (ObsClassic.withShared setting.platform inUse blocks).recordNames

theorem length_wantedNames (content : Content) :
    content.wantedNames.length = content.sceneCount := by
  cases content with
  | presentation root => exact List.length_map _
  | tree root => exact List.length_map _
  | sceneText blocks => exact List.length_map _

end Content

theorem Roster.HasAdded.freeName_taken {roster : Roster} {inUse names : List String}
    (added : roster.HasAdded inUse names) (wanted : String) :
    freeName roster.taken wanted = freeName (inUse ++ names) wanted := by
  apply SameNames.freeName_eq
  intro name
  rw [added.mem_taken_iff, List.mem_append]

theorem XSplit.head?_sceneNames {inUse : List String} {root : Markup.Tag} {wanted : String}
    (first : (Content.presentation root).wantedNames.head? = some wanted) :
    (sceneNames inUse root).head? = some (freeName inUse wanted) := by
  rcases List.head?_eq_some_iff.mp first with ⟨others, wantedNames⟩
  rw [Content.wantedNames] at wantedNames
  rw [sceneNames, wantedNames]
  rfl

theorem Streamlabs.head?_name_sceneRecords {inUse : List String} {root : Members}
    {wanted : String} (first : (Content.tree root).wantedNames.head? = some wanted) :
    ((sceneRecords inUse root).map (·.name)).head? =
      some (freeName (inUse ++ (sourceRecords inUse root).map (·.name)) wanted) := by
  let sourceNames := (sourceNodes root).map (·.stringAt "name")
  let afterSources := (Roster.mk inUse).assignAll sourceNames
  have length : afterSources.1.length = (sourceNodes root).length := by
    simp [afterSources, sourceNames]
  have names : nodeNames inUse root = afterSources.1 ++
      (afterSources.2.assignAll ((sceneNodes root).map (·.stringAt "name"))).1 := by
    rw [nodeNames, nodes, List.map_append, Roster.assignAll_append]
  rcases List.head?_eq_some_iff.mp first with ⟨others, wantedNames⟩
  have scenes : (sceneNodes root).map (·.stringAt "name") = wanted :: others := by
    rw [← wantedNames, sceneNodes, List.map_map]
    rfl
  have added : afterSources.2.HasAdded inUse afterSources.1 :=
    (Roster.hasAdded_nil inUse).assignAll sourceNames
  rw [map_name_sceneRecords, map_name_sourceRecords, names, ← length, List.drop_left,
    List.take_left, scenes, ← added.freeName_taken]
  rfl

theorem ObsClassic.head?_assembled {platform : Platform} {present : List String}
    {blocks : Members} {wanted : String}
    (first : (Content.sceneText blocks).wantedNames.head? = some wanted) :
    (assembled platform present blocks).1.head? =
      some (freeName (present ++ (withShared platform present blocks).recordNames) wanted) := by
  have shared := (start_consistent present).foldl_addShared platform
    ((blocks.elementsAt "globals").map Value.members)
  rcases List.head?_eq_some_iff.mp first with ⟨others, wantedNames⟩
  rw [Content.wantedNames, List.map_eq_cons_iff] at wantedNames
  rcases wantedNames with ⟨scene, rest, scenes, rfl, _⟩
  have names := shared.1.names.freeName_taken (scene.members.stringAt "name")
  rw [assembled, scenes, withShared]
  exact congrArg some names

namespace Content

theorem head?_name_scenes {content : Content} {wanted : String}
    (first : content.wantedNames.head? = some wanted) (setting : Setting)
    (inUse : List String) :
    ((content.scenes setting inUse).map (·.name)).head? =
      some (freeName (inUse ++ content.namesBefore setting inUse) wanted) := by
  cases content with
  | presentation root =>
      rw [scenes, XSplit.map_name_placed, namesBefore, List.append_nil]
      exact XSplit.head?_sceneNames first
  | tree root => exact Streamlabs.head?_name_sceneRecords first
  | sceneText blocks =>
      have names := (ObsClassic.assembled_consistent setting.platform inUse blocks).2.2
      exact (congrArg List.head? names).trans (ObsClassic.head?_assembled first)

theorem mem_newRecords_of_mem_newScenes {content : Content} {collection result : Collection}
    {scene : Value} (member : scene ∈ content.newScenes collection result) :
    scene ∈ collection.newRecords result := by
  cases content with
  | presentation root => exact List.mem_of_mem_take member
  | tree root => exact List.mem_of_mem_drop member
  | sceneText blocks => exact (List.mem_filter.mp member).1

/-- A record that has been added shares its name with no other record, old or new. -/
theorem filter_recordName_of_mem_newRecords {content : Content} {request : Request}
    {collection : Collection} {record : Value}
    (member : record ∈ collection.newRecords (content.importInto request collection)) :
    ((content.importInto request collection).records.filter fun other =>
      Collection.recordName other == Collection.recordName record) = [record] := by
  have added := List.mem_map_of_mem (f := Collection.recordName) member
  rw [map_recordName_newRecords] at added
  have new := content.areNew_additions request.setting collection.recordNames
  apply Collection.filter_recordName_eq_singleton (List.mem_of_mem_drop member)
  rw [← Collection.recordNames, recordNames_importInto, List.count_append,
    List.count_eq_zero_of_not_mem (new.fresh _ added), List.count_eq_one_of_mem new.nodup added]

structure ShowsFirst (content : Content) (setting : Setting) (collection result : Collection)
    (scene : Value) : Prop where
  first : (content.newScenes collection result).head? = some scene
  name : ∃ wanted, content.wantedNames.head? = some wanted ∧
    Collection.recordName scene = freeName
      (collection.recordNames ++ content.namesBefore setting collection.recordNames) wanted
  shown : result.IsShowing (Collection.recordName scene)
  only : (result.records.filter fun record =>
    Collection.recordName record == Collection.recordName scene) = [scene]
  isScene : scene.members.stringAt "id" = Source.sceneId

end Content

/-- If a file has a scene, the import of it shows the first one, under the name that this scene has
been given. No other record has that name, whatever names there were before. -/
theorem first_scene_is_shown (program : Program) (request : Request)
    (collection result : Collection) (appends : program.Appends)
    (imported : program.importFile request collection = .ok result) :
    ∃ content, Content.read program request.input = .ok content ∧
      (0 < content.sceneCount →
        ∃ scene, content.ShowsFirst request.setting collection result scene) := by
  rcases program.importFile_eq_ok appends imported with ⟨content, reading, rfl⟩
  refine ⟨content, reading, ?_⟩
  intro hasScene
  rw [← content.length_wantedNames] at hasScene
  rcases List.exists_cons_of_length_pos hasScene with ⟨wanted, _, wantedNames⟩
  have isFirst : content.wantedNames.head? = some wanted := by rw [wantedNames, List.head?_cons]
  have name := Content.head?_name_scenes isFirst request.setting collection.recordNames
  rcases List.head?_eq_some_iff.mp name with ⟨_, names⟩
  rcases List.map_eq_cons_iff.mp names with ⟨record, rest, scenes, recordName, _⟩
  have newScenes : content.newScenes collection (content.importInto request collection) =
      record.toValue :: rest.map Source.Record.toValue := by
    rw [Content.newScenes_importInto, scenes, List.map_cons]
  have isNew : record.toValue ∈
      content.newScenes collection (content.importInto request collection) := by
    rw [newScenes]
    exact List.mem_cons_self
  have isScene : record ∈ content.scenes request.setting collection.recordNames := by
    rw [scenes]
    exact List.mem_cons_self
  refine ⟨record.toValue, ?_, ⟨wanted, isFirst, recordName⟩, ?_, ?_, ?_⟩
  · rw [newScenes, List.head?_cons]
  · apply Content.isShowing_importInto
    rw [Content.firstScene_additions, scenes]
    rfl
  · exact Content.filter_recordName_of_mem_newRecords
      (Content.mem_newRecords_of_mem_newScenes isNew)
  · exact (Content.isSceneOf_of_mem_scenes isScene).id_eq

def sameNameTree : Request where
  path := ⟨"/main.json"⟩
  input := "\x7b\"nodeType\":\"RootNode\"," ++
    "\"sources\":\x7b\"items\":[\x7b\"name\":\"Main\",\"type\":\"monitor_capture\"\x7d]\x7d," ++
    "\"scenes\":\x7b\"items\":[\x7b\"name\":\"Main\"\x7d,\x7b\"name\":\"Main\"\x7d]\x7d\x7d"

theorem first_scene_is_shown_same_name_tree :
    let collection : Collection := ⟨[("sources", .array [.object [("name", .string "Main")],
      .object [("name", .string "Main")]]), ("current_scene", .string "Main")]⟩
    ∃ result, Program.streamlabs.importFile sameNameTree collection = .ok result ∧
      result.recordNames = ["Main", "Main", "Main 0", "Main 1", "Main 2"] ∧
      ∃ content, Content.read .streamlabs sameNameTree.input = .ok content ∧
        0 < content.sceneCount ∧
        ∃ scene, content.ShowsFirst sameNameTree.setting collection result scene := by
  intro collection
  have names : (Program.streamlabs.importFile sameNameTree collection).map
      Collection.recordNames = .ok ["Main", "Main", "Main 0", "Main 1", "Main 2"] := by
    decide +kernel
  have count : (Content.read .streamlabs sameNameTree.input).map Content.sceneCount = .ok 2 := by
    decide +kernel
  rcases exists_of_map_eq_ok names with ⟨result, imported, resultNames⟩
  rcases exists_of_map_eq_ok count with ⟨content, reading, scenes⟩
  rcases first_scene_is_shown .streamlabs sameNameTree collection result (by decide) imported with
    ⟨_, sameReading, shows⟩
  cases Except.ok.inj (reading.symm.trans sameReading)
  have hasScene : 0 < content.sceneCount := by omega
  exact ⟨result, imported, resultNames, content, reading, hasScene, shows hasScene⟩

end BroadcastScenes
