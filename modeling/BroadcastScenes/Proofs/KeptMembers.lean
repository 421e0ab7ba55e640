import BroadcastScenes.Proofs.PlacedNames
import BroadcastScenes.Proofs.WrittenEntries

/-!
# Kept members

An import writes few members of a document: its name, its records, and the scene that is shown if
the file has one. All other members keep their values, all of them keep their places, and the
records that were there stay in front.
-/

namespace BroadcastScenes

namespace Collection

structure WritesOnly (keys : List String) (earlier later : Collection) : Prop where
  members : ∀ key, key ∉ keys → later.root.find? key = earlier.root.find? key
  order : Entries.keys earlier.root <+: Entries.keys later.root

structure IsShowing (collection : Collection) (scene : String) : Prop where
  preview : collection.root.find? "current_scene" = some (.string scene)
  program : collection.root.find? "current_program_scene" = some (.string scene)

variable {keys : List String} {earlier middle later : Collection}

theorem WritesOnly.refl (keys : List String) (collection : Collection) :
    collection.WritesOnly keys collection :=
  ⟨fun _ _ => rfl, List.prefix_rfl⟩

theorem WritesOnly.trans (first : earlier.WritesOnly keys middle)
    (second : middle.WritesOnly keys later) : earlier.WritesOnly keys later where
  members key notWritten :=
    (second.members key notWritten).trans (first.members key notWritten)
  order := first.order.trans second.order

theorem WritesOnly.mono {more : List String} (writes : earlier.WritesOnly keys later)
    (within : keys ⊆ more) : earlier.WritesOnly more later where
  members key notWritten := writes.members key fun written => notWritten (within written)
  order := writes.order

theorem writesOnly_insert (collection : Collection) {key : String} (written : key ∈ keys)
    (value : Value) : collection.WritesOnly keys ⟨collection.root.insert key value⟩ where
  members other notWritten := by
    apply Entries.find?_insert_of_ne
    rintro rfl
    exact notWritten written
  order := Entries.keys_isPrefix_insert _ _ _

theorem writesOnly_showScene (collection : Collection) (previewWritten : "current_scene" ∈ keys)
    (programWritten : "current_program_scene" ∈ keys) (scene : String) :
    collection.WritesOnly keys (collection.showScene scene) :=
  (collection.writesOnly_insert previewWritten _).trans (writesOnly_insert _ programWritten _)

theorem isShowing_showScene (collection : Collection) (scene : String) :
    (collection.showScene scene).IsShowing scene where
  preview := by
    rw [showScene, Entries.find?_insert_of_ne (by decide), Entries.find?_insert_self]
  program := Entries.find?_insert_self _ _ _

theorem IsShowing.of_writesOnly {scene : String} (showing : earlier.IsShowing scene)
    (writes : earlier.WritesOnly keys later) (previewKept : "current_scene" ∉ keys)
    (programKept : "current_program_scene" ∉ keys) : later.IsShowing scene where
  preview := (writes.members _ previewKept).trans showing.preview
  program := (writes.members _ programKept).trans showing.program

theorem extend_cases (collection : Collection) (additions : Additions) :
    ∃ extended, collection.WritesOnly ["sources"] extended ∧
      ((additions.firstScene = none ∧ collection.extend additions = extended) ∨
        ∃ scene, additions.firstScene = some scene ∧
          collection.extend additions = extended.showScene scene) := by
  refine ⟨if additions.records.isEmpty then collection else
    collection.withRecords (collection.records ++ additions.records.map Source.Record.toValue),
    ?_, ?_⟩
  · split
    · exact .refl _ _
    · exact collection.writesOnly_insert List.mem_cons_self _
  · cases first : additions.firstScene with
    | none => exact .inl ⟨rfl, by simp [extend, first]⟩
    | some scene => exact .inr ⟨scene, rfl, by simp [extend, first]⟩

end Collection

namespace Content

theorem writesOnly_finish (content : Content) (setting : Setting) (collection : Collection) :
    collection.WritesOnly ["sources"] (content.finish setting collection) := by
  cases content with
  | presentation root => exact .refl _ _
  | tree root => exact collection.writesOnly_insert List.mem_cons_self _
  | sceneText blocks => exact .refl _ _

theorem writesOnly_importInto_extend (content : Content) (request : Request)
    (collection : Collection) :
    (collection.extend (content.additions request.setting collection.recordNames)).WritesOnly
      ["name", "sources"] (content.importInto request collection) := by
  have written : "name" ∈ ["name", "sources"] := List.mem_cons_self
  have named := (collection.extend
    (content.additions request.setting collection.recordNames)).writesOnly_insert written
      (.string (request.name.getD (content.defaultName request)))
  exact named.trans ((content.writesOnly_finish _ _).mono (List.subset_cons_self _ _))

theorem writesOnly_importInto_of_firstScene {content : Content} {request : Request}
    {collection : Collection}
    (noScene : (content.additions request.setting collection.recordNames).firstScene = none) :
    collection.WritesOnly ["name", "sources"] (content.importInto request collection) := by
  have rest := content.writesOnly_importInto_extend request collection
  rcases collection.extend_cases (content.additions request.setting collection.recordNames) with
    ⟨extended, writes, ⟨_, equal⟩ | ⟨scene, first, _⟩⟩
  · rw [equal] at rest
    exact (writes.mono (List.subset_cons_self _ _)).trans rest
  · rw [noScene] at first
    cases first

theorem writesOnly_importInto (content : Content) (request : Request)
    (collection : Collection) :
    collection.WritesOnly ["name", "sources", "current_scene", "current_program_scene"]
      (content.importInto request collection) := by
  rcases collection.extend_cases (content.additions request.setting collection.recordNames) with
    ⟨extended, writes, ⟨noScene, _⟩ | ⟨scene, _, equal⟩⟩
  · exact (writesOnly_importInto_of_firstScene noScene).mono (by simp)
  · have rest := content.writesOnly_importInto_extend request collection
    rw [equal] at rest
    have shows : extended.WritesOnly
        ["name", "sources", "current_scene", "current_program_scene"]
        (extended.showScene scene) :=
      extended.writesOnly_showScene (by simp) (by simp) scene
    exact ((writes.mono (by simp)).trans shows).trans (rest.mono (by simp))

theorem isShowing_importInto {content : Content} {request : Request} {collection : Collection}
    {scene : String}
    (first : (content.additions request.setting collection.recordNames).firstScene =
      some scene) :
    (content.importInto request collection).IsShowing scene := by
  have rest := content.writesOnly_importInto_extend request collection
  rcases collection.extend_cases (content.additions request.setting collection.recordNames) with
    ⟨extended, _, ⟨noScene, _⟩ | ⟨shown, isFirst, equal⟩⟩
  · rw [noScene] at first
    cases first
  · rw [isFirst] at first
    cases first
    rw [equal] at rest
    exact (extended.isShowing_showScene scene).of_writesOnly rest (by simp) (by simp)

theorem firstScene_additions (content : Content) (setting : Setting) (inUse : List String) :
    (content.additions setting inUse).firstScene =
      ((content.scenes setting inUse).map (·.name)).head? := by
  cases content with
  | presentation root => rw [scenes, XSplit.map_name_placed]; rfl
  | tree root => rw [scenes, Streamlabs.map_name_sceneRecords]; rfl
  | sceneText blocks =>
      have names := (ObsClassic.assembled_consistent setting.platform inUse blocks).2.2
      exact (congrArg List.head? names).symm

theorem firstScene_additions_eq_none {content : Content} (empty : content.sceneCount = 0)
    (setting : Setting) (inUse : List String) :
    (content.additions setting inUse).firstScene = none := by
  rw [← content.length_scenes setting inUse, List.length_eq_zero_iff] at empty
  rw [firstScene_additions, empty]
  rfl

theorem exists_firstScene_additions {content : Content} (hasScene : 0 < content.sceneCount)
    (setting : Setting) (inUse : List String) :
    ∃ scene, (content.additions setting inUse).firstScene = some scene := by
  rw [← content.length_scenes setting inUse] at hasScene
  rcases List.exists_cons_of_length_pos hasScene with ⟨scene, rest, scenes⟩
  rw [firstScene_additions, scenes]
  exact ⟨scene.name, rfl⟩

end Content

structure Keeps (program : Program) (platform : Platform) (content : Content)
    (collection result : Collection) : Prop where
  records : program ≠ .streamlabs → collection.records <+: result.records
  /-- Streamlabs adapts each record to the platform, and does nothing else to it. -/
  adapted : program = .streamlabs →
    collection.records.map (adaptRecord platform) <+: result.records
  members : collection.WritesOnly ["name", "sources", "current_scene", "current_program_scene"]
    result
  shown : content.sceneCount = 0 → collection.WritesOnly ["name", "sources"] result

/-- The records that were there come first, and no member is lost, moved or changed but for those
that an import is there to write. -/
theorem appending_imports_keep_the_rest (program : Program) (request : Request)
    (collection result : Collection) (appends : program.Appends)
    (imported : program.importFile request collection = .ok result) :
    ∃ content, Content.read program request.input = .ok content ∧
      Keeps program request.setting.platform content collection result := by
  rcases program.importFile_eq_ok appends imported with ⟨content, reading, rfl⟩
  have isProgram := Content.program_eq_of_read reading
  refine ⟨content, reading, ?_, ?_, ?_, ?_⟩
  · intro notStreamlabs
    rw [Content.records_importInto]
    have kept : (collection.records.map fun record =>
        content.finishRecord request.setting record) = collection.records := by
      cases content with
      | presentation root => exact List.map_id _
      | tree root => exact absurd isProgram.symm notStreamlabs
      | sceneText blocks => exact List.map_id _
    rw [kept]
    exact List.prefix_append _ _
  · intro isStreamlabs
    rw [Content.records_importInto]
    cases content with
    | presentation root => cases isProgram.trans isStreamlabs
    | tree root => exact List.prefix_append _ _
    | sceneText blocks => cases isProgram.trans isStreamlabs
  · exact content.writesOnly_importInto request collection
  · intro noScene
    exact Content.writesOnly_importInto_of_firstScene
      (Content.firstScene_additions_eq_none noScene _ _)

def sceneless : Request where
  path := ⟨"/sceneless.json"⟩
  input :=
    "\x7b\"nodeType\":\"RootNode\",\"sources\":\x7b\"items\":[\x7b\"name\":\"Cam\"\x7d]\x7d\x7d"

theorem appending_imports_keep_the_rest_sceneless :
    let collection : Collection := ⟨[("current_scene", .string "Main"),
      ("sources", .array [.object [("id", .string "monitor_capture")]]),
      ("modules", .object [])]⟩
    ∃ result, Program.streamlabs.importFile sceneless collection = .ok result ∧
      Entries.keys result.root = ["current_scene", "sources", "modules", "name"] ∧
      result.records.map (·.members.stringAt "id") = ["xshm_input", ""] ∧
      ∃ content, Content.read .streamlabs sceneless.input = .ok content ∧
        Keeps .streamlabs sceneless.setting.platform content collection result := by
  intro collection
  have changes : (Program.streamlabs.importFile sceneless collection).map (fun result =>
      (Entries.keys result.root, result.records.map (·.members.stringAt "id"))) =
      .ok (["current_scene", "sources", "modules", "name"], ["xshm_input", ""]) := by
    decide +kernel
  rcases exists_of_map_eq_ok changes with ⟨result, imported, both⟩
  have keeps := appending_imports_keep_the_rest .streamlabs sceneless collection result
    (by decide) imported
  exact ⟨result, imported, congrArg Prod.fst both, congrArg Prod.snd both, keeps⟩

end BroadcastScenes
