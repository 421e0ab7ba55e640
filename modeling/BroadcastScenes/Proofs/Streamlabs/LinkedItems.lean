import BroadcastScenes.Proofs.Streamlabs.ImportedTree

/-!
# Linked items

Items of a tree say which node they show by its identifier. In the result they say it by the name
that the record of that node was given, and hotkeys that show or hide an item follow it.
-/

namespace BroadcastScenes.Streamlabs

/-- The actions that show and hide an item, with what stands before the name of its source in a
scene collection. -/
def visibilityActions : List (String × String) :=
  [("TOGGLE_SOURCE_VISIBILITY_SHOW", "libobs.show_scene_item."),
    ("TOGGLE_SOURCE_VISIBILITY_HIDE", "libobs.hide_scene_item.")]

theorem hostAction_of_visibilityAction {action start : String}
    (visibility : visibilityActions.lookup action = some start) (name : String) :
    Hotkey.hostAction action (some name) = start ++ name := by
  simp only [visibilityActions, List.lookup_cons, List.lookup_nil] at visibility
  split at visibility
  · rename_i shows
    cases visibility
    rw [beq_iff_eq.mp shows]
    rfl
  · split at visibility
    · rename_i hides
      cases visibility
      rw [beq_iff_eq.mp hides]
      rfl
    · cases visibility

/-- The item shows what its node refers to, and nothing if that is nowhere. The hotkeys of its scene
have the actions that show and hide it. -/
structure ItemFollows (named : String → Option String) (hotkeys : Members)
    (node placed : Value) : Prop where
  name : placed.member? "name" = (named (node.members.stringAt "sourceId")).map Value.string
  visibility : ∀ name, named (node.members.stringAt "sourceId") = some name →
    ∀ hotkey ∈ node.members.itemsAt "hotkeys", ∀ start,
      visibilityActions.lookup (hotkey.members.stringAt "actionName") = some start →
        start ++ name ∈ Entries.keys hotkeys

structure SceneFollows (named : String → Option String) (node : Members)
    (record : Value) : Prop where
  built : ∃ table name, record = (sceneRecord table node name).toValue
  items : List.Forall₂ (ItemFollows named (record.members.membersAt "hotkeys"))
    (node.itemsAt "sceneItems") (record.members.itemsAt "settings")

theorem visibility_mem_keys_hotkeys {table : NameTable} {scene : Members} {item hotkey : Value}
    (itemMember : item ∈ scene.itemsAt "sceneItems")
    (hotkeyMember : hotkey ∈ item.members.itemsAt "hotkeys") {name start : String}
    (named : table.name? (item.members.stringAt "sourceId") = some name)
    (visibility :
      visibilityActions.lookup (hotkey.members.stringAt "actionName") = some start)
    (sceneName : String) :
    start ++ name ∈
      Entries.keys ((sceneRecord table scene sceneName).toValue.members.membersAt "hotkeys") := by
  rcases exists_lastHotkey? table.name? itemMember hotkeyMember with ⟨last, found⟩
  rw [named, hostAction_of_visibilityAction visibility] at found
  apply (Entries.isSome_find?_iff _ _).mp
  rw [find?_hotkeys_of_lastHotkey? found]
  rfl

theorem sceneFollows_sceneRecord (table : NameTable) (node : Members) (name : String) :
    SceneFollows table.name? node (sceneRecord table node name).toValue where
  built := ⟨table, name, rfl⟩
  items := by
    rcases sceneRecord_eq_withItems table node name with ⟨base, _, equal⟩
    have items : (sceneRecord table node name).toValue.members.itemsAt "settings" =
        (sceneItems table 0 (node.itemsAt "sceneItems")).map Scene.Item.toValue := by
      rw [equal, Source.Record.itemsAt_settings_withItems]
    have placed := (List.forall₂_and_left _ _).mpr
      ⟨fun item (member : item ∈ node.itemsAt "sceneItems") => member,
        forall₂_sceneItems table 0 (node.itemsAt "sceneItems")⟩
    rw [items, List.forall₂_map_right_iff]
    apply placed.imp
    rintro item _ ⟨itemMember, place, rfl⟩
    constructor
    · rw [Scene.Item.member?_name_toValue]
      rfl
    · intro shown named hotkey hotkeyMember start visibility
      exact visibility_mem_keys_hotkeys itemMember hotkeyMember named visibility name

/-- After the import of a tree the new records are those of its sources, from last to first, and
those of its scenes, in order. Each item has the name of the first of these records whose node has
the identifier that the item refers to, whatever names the records were given; an item that refers
to none of them has no name. -/
theorem items_follow_renamed_nodes (request : Request) (collection : Collection) (root : Value)
    (parsed : Value.parse? request.input = some root) (root_isRoot : isRoot root = true) :
    ∃ result, Program.streamlabs.importFile request collection = .ok result ∧
      List.Forall₂ (fun node record => ∃ name,
          record = adaptRecord request.setting.platform (sourceRecord node name).toValue)
        (sourceNodes root.members)
        ((collection.newRecords result).take (sourceNodes root.members).length) ∧
      List.Forall₂
        (SceneFollows (assignedName? (nodes root.members) (collection.newRecords result)))
        (sceneNodes root.members)
        ((Content.tree root.members).newScenes collection result) := by
  refine ⟨_, importFile_of_isRoot parsed root_isRoot collection, ?_, ?_⟩
  · exact forall₂_newSources request collection root.members
  · exact forall₂_newScenes sceneFollows_sceneRecord request collection root.members

def linkedRequest : Request where
  path := ⟨"/linked.json"⟩
  input := "\x7b\"nodeType\":\"RootNode\"," ++
    "\"sources\":\x7b\"items\":[\x7b\"id\":\"a\",\"name\":\"Cam\"\x7d]\x7d," ++
    "\"scenes\":\x7b\"items\":[\x7b\"name\":\"Cam\",\"sceneItems\":\x7b\"items\":[" ++
    "\x7b\"sourceId\":\"a\"\x7d,\x7b\"sourceId\":\"b\"\x7d,\x7b\x7d]\x7d\x7d," ++
    "\x7b\"id\":\"b\",\"name\":\"Cam\"\x7d]\x7d\x7d"

theorem items_follow_renamed_nodes_cam :
    let collection : Collection := ⟨[("sources", .array [.object [("name", .string "Cam")]])]⟩
    ∃ root, Value.parse? linkedRequest.input = some root ∧ isRoot root = true ∧
      ∃ result, Program.streamlabs.importFile linkedRequest collection = .ok result ∧
        result.shownNames = [("Cam", []), ("Cam 0", []),
          ("Cam 1", [some "Cam 0", some "Cam 2", none]), ("Cam 2", [])] ∧
        List.Forall₂
          (SceneFollows (assignedName? (nodes root.members) (collection.newRecords result)))
          (sceneNodes root.members)
          ((Content.tree root.members).newScenes collection result) := by
  intro collection
  have reading : (Value.parse? linkedRequest.input).map (fun root =>
      (isRoot root, ((Content.tree root.members).importInto linkedRequest collection).shownNames)) =
      some (true, [("Cam", []), ("Cam 0", []),
        ("Cam 1", [some "Cam 0", some "Cam 2", none]), ("Cam 2", [])]) := by
    decide +kernel
  rcases Option.map_eq_some_iff.mp reading with ⟨root, parsed, both⟩
  have root_isRoot : isRoot root = true := congrArg Prod.fst both
  rcases items_follow_renamed_nodes linkedRequest collection root parsed root_isRoot with
    ⟨result, imported, _, scenes⟩
  cases imported.symm.trans (importFile_of_isRoot parsed root_isRoot collection)
  exact ⟨root, parsed, root_isRoot, _, imported, congrArg Prod.snd both, scenes⟩

end BroadcastScenes.Streamlabs
