import BroadcastScenes.Proofs.WrittenEntries
import BroadcastScenes.Streamlabs.Import

/-!
# Hotkeys of a scene

The hotkeys of the items of a scene are written over those of the scene itself, item by item. Under
each action there stands in the end what was written last.
-/

namespace BroadcastScenes

def Hotkey.written (hotkey : Value) : Value := .array (Hotkey.bindingsOf hotkey)

def Hotkey.byAction (owner : Option String) (hotkeys : List Value) : Entries Value :=
  hotkeys.map fun hotkey => (Hotkey.hostAction (hotkey.members.stringAt "actionName") owner, hotkey)

theorem Hotkey.write_eq_insertAll (owner : Option String) (hotkeys : List Value)
    (out : Members) :
    Hotkey.write owner hotkeys out =
      Entries.insertAll ((Hotkey.byAction owner hotkeys).mapValues Hotkey.written) out := by
  rw [Entries.insertAll, Entries.mapValues, Hotkey.byAction, List.map_map, List.foldl_map]
  rfl

namespace Streamlabs

def itemHotkeys (named : String → Option String) (items : List Value) : Entries Value :=
  items.flatMap fun item =>
    Hotkey.byAction (named (item.members.stringAt "sourceId")) (item.members.itemsAt "hotkeys")

def lastHotkey? (named : String → Option String) (scene : Members) (action : String) :
    Option Value :=
  Entries.find? action (itemHotkeys named (scene.itemsAt "sceneItems")).reverse

theorem foldl_writeItemHotkeys (table : NameTable) (items : List Value) (out : Members) :
    items.foldl (writeItemHotkeys table) out =
      Entries.insertAll ((itemHotkeys table.name? items).mapValues Hotkey.written) out := by
  induction items generalizing out with
  | nil => rfl
  | cons item rest induction =>
      rw [List.foldl_cons, induction, writeItemHotkeys, Hotkey.write_eq_insertAll,
        ← Entries.insertAll_append, ← Entries.mapValues_append]
      rfl

/-- Under an action a scene keeps the bindings of the last hotkey that an item has for it, and only
if no item has one those of its own. -/
theorem find?_hotkeys_sceneRecord (table : NameTable) (scene : Members) (name action : String) :
    ((sceneRecord table scene name).toValue.members.membersAt "hotkeys").find? action =
      ((lastHotkey? table.name? scene action).map Hotkey.written).or
      ((Hotkey.ofContainer (scene.membersAt "hotkeys") none).find? action) := by
  have hotkeys : (sceneRecord table scene name).toValue.members.membersAt "hotkeys" =
      (scene.itemsAt "sceneItems").foldl (writeItemHotkeys table)
        (Hotkey.ofContainer (scene.membersAt "hotkeys") none) := rfl
  rw [hotkeys, foldl_writeItemHotkeys, Entries.find?_insertAll, ← Entries.mapValues_reverse,
    Entries.find?_mapValues]
  rfl

theorem exists_lastHotkey? (named : String → Option String) {scene : Members}
    {item hotkey : Value} (itemMember : item ∈ scene.itemsAt "sceneItems")
    (hotkeyMember : hotkey ∈ item.members.itemsAt "hotkeys") :
    ∃ last, lastHotkey? named scene
      (Hotkey.hostAction (hotkey.members.stringAt "actionName")
        (named (item.members.stringAt "sourceId"))) = some last := by
  have written : (Hotkey.hostAction (hotkey.members.stringAt "actionName")
      (named (item.members.stringAt "sourceId")), hotkey) ∈
        itemHotkeys named (scene.itemsAt "sceneItems") := by
    apply List.mem_flatMap.mpr
    refine ⟨item, itemMember, ?_⟩
    exact List.mem_map.mpr ⟨hotkey, hotkeyMember, rfl⟩
  exact Entries.exists_find?_of_mem (List.mem_reverse.mpr written)

theorem find?_hotkeys_of_lastHotkey? {table : NameTable} {scene : Members} {action : String}
    {last : Value} (found : lastHotkey? table.name? scene action = some last) (name : String) :
    ((sceneRecord table scene name).toValue.members.membersAt "hotkeys").find? action =
      some (Hotkey.written last) := by
  rw [find?_hotkeys_sceneRecord, found]
  rfl

end Streamlabs

end BroadcastScenes
