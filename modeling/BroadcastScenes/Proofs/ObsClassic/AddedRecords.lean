import BroadcastScenes.Proofs.ObsClassic.Assembly

/-!
# The records of a scene text

A scene text adds records of two kinds: sources, each from the setup of an entry, and scenes, whose
items were placed one by one in front of each other. What holds of both kinds holds of all records.
-/

namespace BroadcastScenes.ObsClassic

def entries (blocks : Members) : List Value :=
  blocks.elementsAt "globals" ++
    (blocks.elementsAt "scenes").flatMap fun scene => scene.members.elementsAt "sources"

inductive Stacked : List Scene.Item → Prop
  | nil : Stacked []
  | cons {items : List Scene.Item} (entry : Members) (name : String) (others : Stacked items) :
      Stacked (sceneItem entry name (items.length + 1) :: items)

def Assembly.Has (property : Source.Record → Prop) (assembly : Assembly) : Prop :=
  ∀ record ∈ assembly.records, property record

def entryRecord (setup : Source.Setup) (name : String) : Source.Record :=
  { name := name, id := setup.id, settings := setup.settings }

theorem Assembly.has_start (property : Source.Record → Prop) (roster : Roster) :
    ({ roster := roster } : Assembly).Has property := by
  intro record member
  cases member

namespace Assembly.Has

variable {property : Source.Record → Prop} {platform : Platform} {present : List String}
  {assembly : Assembly}

theorem add (has : assembly.Has property) (roster : Roster) {record : Source.Record}
    (holds : property record) : (assembly.add roster record).Has property := by
  intro other member
  rcases List.mem_append.mp member with earlier | new
  · exact has other earlier
  · cases List.mem_singleton.mp new
    exact holds

theorem addShared (has : assembly.Has property) {entry : Members}
    (source : ∀ setup name, ownSetup? platform entry = some setup →
      property (entryRecord setup name)) :
    (ObsClassic.addShared platform present assembly entry).Has property := by
  rw [ObsClassic.addShared]
  rcases outcome_cases platform present assembly entry with
    ⟨name, _, equal⟩ | ⟨_, _, equal⟩ | ⟨_, setup, name, roster, own, _, equal⟩
  · rw [equal]
    exact has
  · rw [equal]
    exact has
  · rw [equal]
    exact has.add roster (source setup name own)

theorem foldl_addShared (has : assembly.Has property) {entries : List Members}
    (source : ∀ entry ∈ entries, ∀ setup name, ownSetup? platform entry = some setup →
      property (entryRecord setup name)) :
    (entries.foldl (ObsClassic.addShared platform present) assembly).Has property := by
  induction entries generalizing assembly with
  | nil => exact has
  | cons entry rest induction =>
      have first : (ObsClassic.addShared platform present assembly entry).Has property :=
        has.addShared (source entry List.mem_cons_self)
      exact induction first fun other member =>
        source other (List.mem_cons_of_mem _ member)

theorem placeEntries (has : assembly.Has property) {entries : List Value}
    (source : ∀ entry ∈ entries, ∀ setup name, ownSetup? platform entry.members = some setup →
      property (entryRecord setup name))
    {items : List Scene.Item} (stacked : Stacked items) :
    (ObsClassic.placeEntries platform present entries items assembly).2.Has property ∧
      Stacked (ObsClassic.placeEntries platform present entries items assembly).1 := by
  induction entries generalizing items assembly with
  | nil => exact ⟨has, stacked⟩
  | cons entry rest induction =>
      have others : ∀ other ∈ rest, ∀ setup name, ownSetup? platform other.members = some setup →
          property (entryRecord setup name) := fun other member =>
        source other (List.mem_cons_of_mem _ member)
      rw [ObsClassic.placeEntries]
      rcases outcome_cases platform present assembly entry.members with
        ⟨name, _, equal⟩ | ⟨_, _, equal⟩ | ⟨_, setup, name, roster, own, _, equal⟩
      · rw [equal]
        exact induction has others (stacked.cons entry.members name)
      · rw [equal]
        exact induction has others stacked
      · rw [equal]
        exact induction (has.add roster (source entry List.mem_cons_self setup name own)) others
          (stacked.cons entry.members name)

theorem addScene (has : assembly.Has property) {scene : Members}
    (source : ∀ entry ∈ scene.elementsAt "sources", ∀ setup name,
      ownSetup? platform entry.members = some setup → property (entryRecord setup name))
    (holds : ∀ name items, Stacked items →
      property ((Source.Record.scene name).withItems items)) :
    (ObsClassic.addScene platform present assembly scene).2.Has property := by
  have named : Has property
      { assembly with roster := (assembly.roster.assign (scene.stringAt "name")).2 } := has
  rcases named.placeEntries source .nil with ⟨filled, stacked⟩
  exact filled.add _ (holds _ _ stacked)

theorem addScenes (has : assembly.Has property) {scenes : List Value}
    (source : ∀ scene ∈ scenes, ∀ entry ∈ scene.members.elementsAt "sources", ∀ setup name,
      ownSetup? platform entry.members = some setup → property (entryRecord setup name))
    (holds : ∀ name items, Stacked items →
      property ((Source.Record.scene name).withItems items)) :
    (ObsClassic.addScenes platform present scenes assembly).2.Has property := by
  induction scenes generalizing assembly with
  | nil => exact has
  | cons scene rest induction =>
      have first : (ObsClassic.addScene platform present assembly scene.members).2.Has property :=
        has.addScene (source scene List.mem_cons_self) holds
      exact induction first fun other member =>
        source other (List.mem_cons_of_mem _ member)

end Assembly.Has

/-- What holds of the source of every entry and of every scene with stacked items holds of all
records that a scene text adds. -/
theorem forall_mem_additions {property : Source.Record → Prop} {platform : Platform}
    {blocks : Members}
    (source : ∀ entry ∈ entries blocks, ∀ setup name,
      ownSetup? platform entry.members = some setup → property (entryRecord setup name))
    (scene : ∀ name items, Stacked items →
      property ((Source.Record.scene name).withItems items))
    (present : List String) :
    ∀ record ∈ (additions platform present blocks).records, property record := by
  have shared : (withShared platform present blocks).Has property := by
    apply (Assembly.has_start property ⟨present⟩).foldl_addShared
    intro members member
    rcases List.mem_map.mp member with ⟨entry, entryMember, rfl⟩
    exact source entry (List.mem_append_left _ entryMember)
  rw [additions_eq]
  apply shared.addScenes _ scene
  intro block blockMember entry entryMember
  exact source entry
    (List.mem_append_right _ (List.mem_flatMap.mpr ⟨block, blockMember, entryMember⟩))

end BroadcastScenes.ObsClassic
