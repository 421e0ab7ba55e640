import BroadcastScenes.Proofs.AssignedNames
import BroadcastScenes.Proofs.NameTables
import BroadcastScenes.Proofs.PlacedScenes
import BroadcastScenes.Streamlabs.Import

/-!
# The records of a tree

A tree becomes one record for each of its nodes: the sources from last to first, and the scenes
behind them in order. All nodes have their names before a record is built, and one table leads from
the identifiers of the nodes to these names.
-/

namespace BroadcastScenes.Streamlabs

def sourceNodes (root : Members) : List Members :=
  (root.itemsAt "sources").reverse.map Value.members

def sceneNodes (root : Members) : List Members := (root.itemsAt "scenes").map Value.members

def nodes (root : Members) : List Members := sourceNodes root ++ sceneNodes root

def nodeNames (inUse : List String) (root : Members) : List String :=
  ((Roster.mk inUse).assignAll ((nodes root).map (·.stringAt "name"))).1

def nodeTable (inUse : List String) (root : Members) : NameTable :=
  NameTable.enterAll {} (((nodes root).map (·.stringAt "id")).zip (nodeNames inUse root))

def sourceRecords (inUse : List String) (root : Members) : List Source.Record :=
  List.zipWith sourceRecord (sourceNodes root)
    ((nodeNames inUse root).take (sourceNodes root).length)

def sceneRecords (inUse : List String) (root : Members) : List Source.Record :=
  List.zipWith (sceneRecord (nodeTable inUse root)) (sceneNodes root)
    ((nodeNames inUse root).drop (sourceNodes root).length)

theorem additions_eq (inUse : List String) (root : Members) :
    additions inUse root =
      { records := sourceRecords inUse root ++ sceneRecords inUse root
        firstScene := ((nodeNames inUse root).drop (sourceNodes root).length).head? } := rfl

/-! ## Names -/

theorem length_sourceNodes (root : Members) :
    (sourceNodes root).length = (root.itemsAt "sources").length := by
  simp [sourceNodes]

theorem length_nodeNames (inUse : List String) (root : Members) :
    (nodeNames inUse root).length = (sourceNodes root).length + (sceneNodes root).length := by
  simp [nodeNames, nodes]

theorem length_sourceRecords (inUse : List String) (root : Members) :
    (sourceRecords inUse root).length = (sourceNodes root).length := by
  simp [sourceRecords, length_nodeNames]

theorem length_sceneRecords (inUse : List String) (root : Members) :
    (sceneRecords inUse root).length = (sceneNodes root).length := by
  simp [sceneRecords, length_nodeNames]

theorem map_name_zipWith {build : Members → String → Source.Record}
    (naming : ∀ node name, (build node name).name = name) {nodes : List Members}
    {names : List String} (lengths : names.length = nodes.length) :
    (List.zipWith build nodes names).map (·.name) = names := by
  induction nodes generalizing names with
  | nil => simpa using (List.length_eq_zero_iff.mp lengths).symm
  | cons node rest induction =>
      cases names with
      | nil => cases lengths
      | cons name others =>
          rw [List.zipWith_cons_cons, List.map_cons, naming, induction (Nat.succ.inj lengths)]

theorem map_name_sourceRecords (inUse : List String) (root : Members) :
    (sourceRecords inUse root).map (·.name) =
      (nodeNames inUse root).take (sourceNodes root).length := by
  apply map_name_zipWith fun _ _ => rfl
  rw [List.length_take, length_nodeNames]
  omega

theorem map_name_sceneRecords (inUse : List String) (root : Members) :
    (sceneRecords inUse root).map (·.name) =
      (nodeNames inUse root).drop (sourceNodes root).length := by
  apply map_name_zipWith fun _ _ => rfl
  rw [List.length_drop, length_nodeNames]
  omega

theorem map_name_additions (inUse : List String) (root : Members) :
    (additions inUse root).records.map (·.name) = nodeNames inUse root := by
  rw [additions_eq, List.map_append, map_name_sourceRecords, map_name_sceneRecords,
    List.take_append_drop]

theorem areNew_additions (inUse : List String) (root : Members) :
    AreNew inUse ((additions inUse root).records.map (·.name)) := by
  rw [map_name_additions]
  exact ((Roster.hasAdded_nil inUse).assignAll _).toAreNew

/-! ## Records and items -/

theorem forall₂_zipWith {relation : Members → Source.Record → Prop}
    {build : Members → String → Source.Record}
    (holds : ∀ node name, relation node (build node name)) {nodes : List Members}
    {names : List String} (lengths : names.length = nodes.length) :
    List.Forall₂ relation nodes (List.zipWith build nodes names) := by
  induction nodes generalizing names with
  | nil => exact .nil
  | cons node rest induction =>
      cases names with
      | nil => cases lengths
      | cons name others => exact .cons (holds node name) (induction (Nat.succ.inj lengths))

theorem forall₂_sourceRecords (inUse : List String) (root : Members) :
    List.Forall₂ (fun node record => ∃ name, record = sourceRecord node name)
      (sourceNodes root) (sourceRecords inUse root) := by
  apply forall₂_zipWith fun node name => ⟨name, rfl⟩
  rw [List.length_take, length_nodeNames]
  omega

theorem forall₂_sceneRecords (inUse : List String) (root : Members) :
    List.Forall₂ (fun node record =>
        ∃ name, record = sceneRecord (nodeTable inUse root) node name)
      (sceneNodes root) (sceneRecords inUse root) := by
  apply forall₂_zipWith fun node name => ⟨name, rfl⟩
  rw [List.length_drop, length_nodeNames]
  omega

theorem forall₂_sceneItems (table : NameTable) (number : Nat) (nodes : List Value) :
    List.Forall₂ (fun node item => ∃ place, item = sceneItem table place node.members)
      nodes (sceneItems table number nodes) := by
  induction nodes generalizing number with
  | nil => exact .nil
  | cons node rest induction => exact .cons ⟨number, rfl⟩ (induction (number + 1))

theorem exists_of_mem_of_forall₂ {relation : α → β → Prop} {lefts : List α} {rights : List β}
    (related : List.Forall₂ relation lefts rights) {right : β} (member : right ∈ rights) :
    ∃ left ∈ lefts, relation left right := by
  induction related with
  | nil => cases member
  | cons first _ induction =>
      rcases List.mem_cons.mp member with rfl | later
      · exact ⟨_, List.mem_cons_self, first⟩
      · rcases induction later with ⟨left, leftMember, holds⟩
        exact ⟨left, List.mem_cons_of_mem _ leftMember, holds⟩

theorem sceneRecord_eq_withItems (table : NameTable) (node : Members) (name : String) :
    ∃ base : Source.Record, base.id = Source.sceneId ∧
      sceneRecord table node name =
        base.withItems (sceneItems table 0 (node.itemsAt "sceneItems")) :=
  ⟨_, rfl, rfl⟩

theorem drop_additions (inUse : List String) (root : Members) :
    (additions inUse root).records.drop (root.itemsAt "sources").length =
      sceneRecords inUse root := by
  rw [additions_eq, ← length_sourceNodes, ← length_sourceRecords inUse root, List.drop_left]

theorem resolves_sceneRecords (inUse : List String) (root : Members) :
    ∀ scene ∈ sceneRecords inUse root, scene.IsSceneOf fun item =>
      item.Resolves ((additions inUse root).records.map (·.name)) := by
  intro scene member
  rcases exists_of_mem_of_forall₂ (forall₂_sceneRecords inUse root) member with
    ⟨node, _, name, rfl⟩
  rcases sceneRecord_eq_withItems (nodeTable inUse root) node name with ⟨base, isScene, equal⟩
  rw [equal]
  apply Source.Record.isSceneOf_withItems isScene
  intro item itemMember shown named
  rcases exists_of_mem_of_forall₂ (forall₂_sceneItems _ 0 _) itemMember with
    ⟨itemNode, _, place, rfl⟩
  rw [map_name_additions]
  exact NameTable.mem_of_name?_enterAll named

end BroadcastScenes.Streamlabs
