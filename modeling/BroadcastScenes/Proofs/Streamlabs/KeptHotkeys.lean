import BroadcastScenes.Proofs.Streamlabs.ImportedTree

/-!
# Kept hotkeys

The hotkeys of items are merged into those of their scene, action by action. Where several hotkeys
of a scene have the same action, such as two hotkeys that mute or those of a source that is placed
twice, only the bindings of the last one are kept.
-/

namespace BroadcastScenes

namespace Hotkey

theorem Binding.toValue_injective {first second : Binding}
    (equal : first.toValue = second.toValue) : first = second := by
  rcases first with ⟨control, shift, command, alt, key⟩
  simp only [toValue, Value.object.injEq, List.cons.injEq, Prod.mk.injEq, Value.boolean.injEq,
    Value.string.injEq, true_and, and_true] at equal
  rcases equal with ⟨rfl, rfl, rfl, rfl, rfl⟩
  rfl

def bindings (hotkey : Value) : List Binding :=
  (hotkey.members.elementsAt "bindings").map Binding.ofNode

theorem toValue_mem_bindingsOf_iff (binding : Binding) (hotkey : Value) :
    binding.toValue ∈ bindingsOf hotkey ↔ binding ∈ bindings hotkey := by
  simp only [bindingsOf, bindings, List.mem_map, List.mem_reverse]
  constructor
  · rintro ⟨node, member, equal⟩
    exact ⟨node, member, Binding.toValue_injective equal⟩
  · rintro ⟨node, member, rfl⟩
    exact ⟨node, member, rfl⟩

end Hotkey

namespace Streamlabs

/-- What holds of each hotkey that an item of the scene has for a known action, if the item shows
something. The hotkey comes with the name of its action in the scene. -/
def ForItemHotkeys (named : String → Option String) (scene : Members)
    (property : String → Value → Prop) : Prop :=
  ∀ item ∈ scene.itemsAt "sceneItems", ∀ name ∈ named (item.members.stringAt "sourceId"),
    ∀ hotkey ∈ item.members.itemsAt "hotkeys",
      (Hotkey.actions.lookup (hotkey.members.stringAt "actionName")).isSome →
        property (Hotkey.hostAction (hotkey.members.stringAt "actionName") (some name)) hotkey

instance (named : String → Option String) (scene : Members) (property : String → Value → Prop)
    [∀ action hotkey, Decidable (property action hotkey)] :
    Decidable (ForItemHotkeys named scene property) :=
  inferInstanceAs (Decidable (∀ item ∈ _, ∀ name ∈ _, ∀ hotkey ∈ _, _ → _))

theorem ForItemHotkeys.imp {named : String → Option String} {scene : Members}
    {property weaker : String → Value → Prop} (holds : ForItemHotkeys named scene property)
    (implies : ∀ action hotkey, property action hotkey → weaker action hotkey) :
    ForItemHotkeys named scene weaker :=
  fun item itemMember name isName hotkey hotkeyMember known =>
    implies _ hotkey (holds item itemMember name isName hotkey hotkeyMember known)

theorem ForItemHotkeys.and {named : String → Option String} {scene : Members}
    {first second : String → Value → Prop} (firstHolds : ForItemHotkeys named scene first)
    (secondHolds : ForItemHotkeys named scene second) :
    ForItemHotkeys named scene fun action hotkey => first action hotkey ∧ second action hotkey :=
  fun item itemMember name isName hotkey hotkeyMember known =>
    ⟨firstHolds item itemMember name isName hotkey hotkeyMember known,
      secondHolds item itemMember name isName hotkey hotkeyMember known⟩

def KeepsItemHotkeys (named : String → Option String) (scene : Members) (record : Value) : Prop :=
  ForItemHotkeys named scene fun action hotkey =>
    ∀ binding ∈ Hotkey.bindings hotkey,
      binding.toValue ∈ (record.members.membersAt "hotkeys").elementsAt action

def LastHotkeysHaveAll (named : String → Option String) (scene : Members) : Prop :=
  ForItemHotkeys named scene fun action hotkey =>
    ∀ last ∈ lastHotkey? named scene action,
      ∀ binding ∈ Hotkey.bindings hotkey, binding ∈ Hotkey.bindings last

instance (named : String → Option String) (scene : Members) :
    Decidable (LastHotkeysHaveAll named scene) :=
  inferInstanceAs (Decidable (ForItemHotkeys named scene _))

/-- What a scene keeps of the hotkeys of its items: for each action the last hotkey, and therefore
all bindings exactly if the last hotkeys have them all. -/
structure KeepsLastHotkeys (named : String → Option String) (scene : Members)
    (record : Value) : Prop where
  last : ForItemHotkeys named scene fun action _ => ∃ last ∈ lastHotkey? named scene action,
    (record.members.membersAt "hotkeys").find? action = some (Hotkey.written last)
  all_iff : KeepsItemHotkeys named scene record ↔ LastHotkeysHaveAll named scene

theorem exists_lastHotkey?_of_known (named : String → Option String) (scene : Members) :
    ForItemHotkeys named scene fun action _ =>
      ∃ last, lastHotkey? named scene action = some last := by
  intro item itemMember name isName hotkey hotkeyMember _
  have written := exists_lastHotkey? named itemMember hotkeyMember
  rw [Option.mem_def.mp isName] at written
  exact written

theorem binding_mem_hotkeys_iff {table : NameTable} {scene : Members} {action : String}
    {last : Value} (found : lastHotkey? table.name? scene action = some last) (name : String)
    (binding : Hotkey.Binding) :
    binding.toValue ∈
        ((sceneRecord table scene name).toValue.members.membersAt "hotkeys").elementsAt action ↔
      binding ∈ Hotkey.bindings last := by
  rw [Members.elementsAt, find?_hotkeys_of_lastHotkey? found]
  exact Hotkey.toValue_mem_bindingsOf_iff binding last

theorem keepsLastHotkeys_sceneRecord (table : NameTable) (scene : Members) (name : String) :
    KeepsLastHotkeys table.name? scene (sceneRecord table scene name).toValue where
  last := by
    refine (exists_lastHotkey?_of_known table.name? scene).imp ?_
    rintro action hotkey ⟨last, found⟩
    exact ⟨last, found, find?_hotkeys_of_lastHotkey? found name⟩
  all_iff := by
    constructor
    · intro keeps
      refine keeps.imp ?_
      intro action hotkey kept last found binding member
      exact (binding_mem_hotkeys_iff found name binding).mp (kept binding member)
    · intro haveAll
      refine ((exists_lastHotkey?_of_known table.name? scene).and haveAll).imp ?_
      rintro action hotkey ⟨⟨last, found⟩, hasAll⟩ binding member
      exact (binding_mem_hotkeys_iff found name binding).mpr (hasAll last found binding member)

/-- After the import of a tree each scene has, for every known action of an item that shows
something, the bindings of the last hotkey for that action. A binding of an earlier hotkey is lost
unless the last one has it too. -/
theorem last_item_hotkeys_are_kept (request : Request) (collection : Collection) (root : Value)
    (parsed : Value.parse? request.input = some root) (root_isRoot : isRoot root = true) :
    ∃ result, Program.streamlabs.importFile request collection = .ok result ∧
      List.Forall₂
        (KeepsLastHotkeys (assignedName? (nodes root.members) (collection.newRecords result)))
        (sceneNodes root.members)
        ((Content.tree root.members).newScenes collection result) := by
  refine ⟨_, importFile_of_isRoot parsed root_isRoot collection, ?_⟩
  exact forall₂_newScenes keepsLastHotkeys_sceneRecord request collection root.members

def mutedTwiceRequest : Request where
  path := ⟨"/muted.json"⟩
  input := "\x7b\"nodeType\":\"RootNode\"," ++
    "\"sources\":\x7b\"items\":[\x7b\"id\":\"a\"\x7d]\x7d," ++
    "\"scenes\":\x7b\"items\":[\x7b\"sceneItems\":\x7b\"items\":[\x7b\"sourceId\":\"a\"," ++
    "\"hotkeys\":\x7b\"items\":[" ++
    "\x7b\"actionName\":\"TOGGLE_MUTE\",\"bindings\":[\x7b\"key\":\"F1\"\x7d]\x7d," ++
    "\x7b\"actionName\":\"TOGGLE_MUTE\",\"bindings\":[\x7b\"key\":\"F2\"\x7d]\x7d" ++
    "]\x7d\x7d]\x7d\x7d]\x7d\x7d"

theorem last_item_hotkeys_are_kept_muted_twice :
    ∃ root, Value.parse? mutedTwiceRequest.input = some root ∧ isRoot root = true ∧
      ∃ result, Program.streamlabs.importFile mutedTwiceRequest {} = .ok result ∧
        List.Forall₂
          (KeepsLastHotkeys (assignedName? (nodes root.members)
            (Collection.newRecords {} result)))
          (sceneNodes root.members) ((Content.tree root.members).newScenes {} result) ∧
        ¬ List.Forall₂
          (KeepsItemHotkeys (assignedName? (nodes root.members)
            (Collection.newRecords {} result)))
          (sceneNodes root.members) ((Content.tree root.members).newScenes {} result) := by
  have reading : (Value.parse? mutedTwiceRequest.input).map (fun root =>
      (isRoot root, (sceneNodes root.members).map fun scene =>
        decide (LastHotkeysHaveAll (assignedName? (nodes root.members) (Collection.newRecords {}
          ((Content.tree root.members).importInto mutedTwiceRequest {}))) scene))) =
      some (true, [false]) := by
    decide +kernel
  rcases Option.map_eq_some_iff.mp reading with ⟨root, parsed, both⟩
  have root_isRoot : isRoot root = true := congrArg Prod.fst both
  rcases last_item_hotkeys_are_kept mutedTwiceRequest {} root parsed root_isRoot with
    ⟨result, imported, last⟩
  cases imported.symm.trans (importFile_of_isRoot parsed root_isRoot {})
  refine ⟨root, parsed, root_isRoot, _, imported, last, ?_⟩
  intro keeps
  rcases List.map_eq_singleton_iff.mp (congrArg Prod.snd both) with ⟨scene, scenes, lost⟩
  rw [scenes] at last keeps
  generalize (Content.tree root.members).newScenes {} _ = records at last keeps
  rcases keeps with _ | ⟨keepsFirst, _⟩
  rcases last with _ | ⟨lastFirst, _⟩
  exact of_decide_eq_false lost (lastFirst.all_iff.mp keepsFirst)

end Streamlabs

end BroadcastScenes
