import BroadcastScenes.Proofs.Streamlabs.ImportedTree

/-!
# Nodes and their records

What a record of an imported tree says is what its own node says. The node of a source gives the
settings, the filters and the sound of one record, and each item in the node of a scene gives one
item of one record, in its place and under its number.
-/

namespace BroadcastScenes.Streamlabs

/-- The record says what the node of a source says. Only its identifier and its settings are not
those of the node if the platform has another source in its place. -/
structure IsSourceOf (platform : Platform) (node : Members) (record : Value) : Prop where
  settings : ∃ unadapted : Value, record = adaptRecord platform unadapted ∧
    unadapted.member? "id" = some (.string (node.stringAt "type")) ∧
    unadapted.member? "settings" = some (.object (node.membersAt "settings"))
  filters : record.member? "filters" = some (.array ((node.itemsAt "filters").map fun filter =>
    filter.put "id" (.string (filter.members.textAt "type"))))
  volume : record.member? "volume" = some (.double (node.doubleAt "volume"))
  muted : record.member? "muted" = some (.boolean (node.flagAt "muted"))
  monitoring : record.member? "monitoring_type" =
    some (.integer (node.integerAt "monitoringType"))

structure IsItemOf (node : Members) (number : Nat) (item : Value) : Prop where
  number : item.member? "id" = some (.integer (Int64.ofNat number))
  position : item.member? "pos" =
    some (Scene.Pair.toValue ⟨node.doubleAt "x", node.doubleAt "y"⟩)
  scale : item.member? "scale" =
    some (Scene.Pair.toValue ⟨node.doubleAt "scaleX", node.doubleAt "scaleY"⟩)
  rotation : item.member? "rot" = some (.double (node.doubleAt "rotation"))
  crop : ∀ edge ∈ ["top", "bottom", "left", "right"], item.member? ("crop_" ++ edge) =
    some (.integer ((node.membersAt "crop").integerAt edge))
  visible : item.member? "visible" = some (.boolean (node.flagAt "visible"))

/-- The record is a scene with one item for each item of its node. They are in the same order and
numbered from zero. -/
structure IsSceneOf (node : Members) (record : Value) : Prop where
  isScene : record.member? "id" = some (.string Source.sceneId)
  items : List.Forall₂ (fun (entry : Value × Nat) item => IsItemOf entry.1.members entry.2 item)
    (node.itemsAt "sceneItems").zipIdx (record.members.itemsAt "settings")

theorem isItemOf_sceneItem (table : NameTable) (number : Nat) (node : Members) :
    IsItemOf node number (sceneItem table number node).toValue := by
  unfold sceneItem
  -- The name stands in front of all other members, so they are found either way.
  cases table.name? (node.stringAt "sourceId") with
  | none => exact ⟨rfl, rfl, rfl, rfl, by simp; exact ⟨rfl, rfl, rfl, rfl⟩, rfl⟩
  | some name => exact ⟨rfl, rfl, rfl, rfl, by simp; exact ⟨rfl, rfl, rfl, rfl⟩, rfl⟩

theorem forall₂_isItemOf (table : NameTable) (number : Nat) (nodes : List Value) :
    List.Forall₂ (fun (entry : Value × Nat) item => IsItemOf entry.1.members entry.2 item)
      (nodes.zipIdx number) ((sceneItems table number nodes).map Scene.Item.toValue) := by
  induction nodes generalizing number with
  | nil => exact .nil
  | cons node rest induction =>
      exact .cons (isItemOf_sceneItem table number node.members) (induction (number + 1))

end BroadcastScenes.Streamlabs
