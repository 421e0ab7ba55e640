import BroadcastScenes.Proofs.AppendingImport
import BroadcastScenes.Proofs.Streamlabs.SceneHotkeys
import BroadcastScenes.Proofs.Streamlabs.Tree

/-!
# Imported trees

The records that the import of a tree appends correspond to the nodes of the tree, one by one. The
names that identifiers stand for can therefore be read off the result: the first node with an
identifier tells the record, and the record has the name.
-/

namespace BroadcastScenes.Streamlabs

def assignedName? (nodes : List Members) (records : List Value) (id : String) :
    Option String :=
  if id = "" then none
  else ((nodes.zip records).find? fun pair => pair.1.stringAt "id" == id).map fun pair =>
    Collection.recordName pair.2

theorem importFile_of_isRoot {request : Request} {root : Value}
    (parsed : Value.parse? request.input = some root) (root_isRoot : isRoot root = true)
    (collection : Collection) :
    Program.streamlabs.importFile request collection =
      .ok ((Content.tree root.members).importInto request collection) := by
  have reading : Content.read .streamlabs request.input = .ok (.tree root.members) := by
    rw [Content.read, parsed]
    exact if_pos root_isRoot
  rw [Program.importFile_eq_map_read (by decide), reading]
  rfl

theorem newRecords_tree (request : Request) (collection : Collection) (root : Members) :
    collection.newRecords ((Content.tree root).importInto request collection) =
      ((sourceRecords collection.recordNames root).map fun source =>
        adaptRecord request.setting.platform source.toValue) ++
      (sceneRecords collection.recordNames root).map Source.Record.toValue := by
  have scenes : (sceneRecords collection.recordNames root).map (fun scene =>
        adaptRecord request.setting.platform scene.toValue) =
      (sceneRecords collection.recordNames root).map Source.Record.toValue := by
    apply List.map_congr_left
    intro scene member
    exact adaptRecord_scene _ (resolves_sceneRecords _ _ scene member).id_eq
  rw [Content.newRecords_importInto, ← scenes, ← List.map_append]
  rfl

theorem take_newRecords_tree (request : Request) (collection : Collection) (root : Members) :
    (collection.newRecords ((Content.tree root).importInto request collection)).take
        (sourceNodes root).length =
      (sourceRecords collection.recordNames root).map fun source =>
        adaptRecord request.setting.platform source.toValue := by
  rw [newRecords_tree]
  apply List.take_left'
  rw [List.length_map, length_sourceRecords]

theorem newScenes_tree (request : Request) (collection : Collection) (root : Members) :
    (Content.tree root).newScenes collection
        ((Content.tree root).importInto request collection) =
      (sceneRecords collection.recordNames root).map Source.Record.toValue := by
  rw [Content.newScenes, Content.sceneRecords, newRecords_tree]
  apply List.drop_left'
  rw [List.length_map, length_sourceRecords, length_sourceNodes]

theorem map_recordName_newRecords_tree (request : Request) (collection : Collection)
    (root : Members) :
    (collection.newRecords ((Content.tree root).importInto request collection)).map
        Collection.recordName =
      nodeNames collection.recordNames root := by
  rw [Content.map_recordName_newRecords, ← map_name_additions]
  rfl

theorem lookup_zip_map (nodes : List Members) (records : List Value) (id : String) :
    ((nodes.map (·.stringAt "id")).zip (records.map Collection.recordName)).lookup id =
      ((nodes.zip records).find? fun pair => pair.1.stringAt "id" == id).map fun pair =>
        Collection.recordName pair.2 := by
  induction nodes generalizing records with
  | nil => rfl
  | cons node rest induction =>
      cases records with
      | nil => rfl
      | cons record others =>
          by_cases same : node.stringAt "id" = id
          · simp [same]
          · simp [same, List.lookup_cons, beq_eq_false_iff_ne.mpr (Ne.symm same), induction]

/-- The table in which a tree looks its identifiers up has the names that the records have in the
end. -/
theorem name?_nodeTable (request : Request) (collection : Collection) (root : Members)
    (id : String) :
    (nodeTable collection.recordNames root).name? id =
      assignedName? (nodes root)
        (collection.newRecords ((Content.tree root).importInto request collection)) id := by
  rw [nodeTable, NameTable.name?_enterAll, NameTable.name?_empty, Option.none_or,
    ← map_recordName_newRecords_tree request, lookup_zip_map]
  rfl

theorem forall₂_newSources (request : Request) (collection : Collection) (root : Members) :
    List.Forall₂ (fun node record => ∃ name,
        record = adaptRecord request.setting.platform (sourceRecord node name).toValue)
      (sourceNodes root)
      ((collection.newRecords ((Content.tree root).importInto request collection)).take
        (sourceNodes root).length) := by
  rw [take_newRecords_tree, List.forall₂_map_right_iff]
  apply (forall₂_sourceRecords collection.recordNames root).imp
  rintro node _ ⟨name, rfl⟩
  exact ⟨name, rfl⟩

theorem forall₂_newScenes {relation : (String → Option String) → Members → Value → Prop}
    (holds : ∀ (table : NameTable) node name,
      relation table.name? node (sceneRecord table node name).toValue)
    (request : Request) (collection : Collection) (root : Members) :
    List.Forall₂
      (relation (assignedName? (nodes root)
        (collection.newRecords ((Content.tree root).importInto request collection))))
      (sceneNodes root)
      ((Content.tree root).newScenes collection
        ((Content.tree root).importInto request collection)) := by
  have named : assignedName? (nodes root)
        (collection.newRecords ((Content.tree root).importInto request collection)) =
      (nodeTable collection.recordNames root).name? := by
    funext id
    exact (name?_nodeTable request collection root id).symm
  rw [named, newScenes_tree, List.forall₂_map_right_iff]
  apply (forall₂_sceneRecords collection.recordNames root).imp
  rintro node _ ⟨name, rfl⟩
  exact holds _ node name

end BroadcastScenes.Streamlabs
