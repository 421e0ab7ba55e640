import BroadcastScenes.Proofs.AppendingImport
import BroadcastScenes.Proofs.ObsClassic.SettledEntries

/-!
# Entries without a source

An entry whose source the platform does not have leaves no trace: it adds no record and no item, and
it takes up neither a name nor a number. A scene text may as well be written without it.
-/

namespace BroadcastScenes.ObsClassic

def IsSupported (platform : Platform) (entry : Value) : Prop :=
  (ownSetup? platform entry.members).isSome

instance (platform : Platform) : DecidablePred (IsSupported platform) :=
  fun entry => inferInstanceAs (Decidable ((ownSetup? platform entry.members).isSome = true))

def supported (platform : Platform) (entries : List Value) : List Value :=
  entries.filter fun entry => IsSupported platform entry

def withSupportedSources (platform : Platform) (scene : Value) : Value :=
  scene.put "sources" (.array (supported platform (scene.members.elementsAt "sources")))

def withSupportedEntries (platform : Platform) (blocks : Members) : Members :=
  (blocks.insert "globals" (.array (supported platform (blocks.elementsAt "globals")))).insert
    "scenes" (.array ((blocks.elementsAt "scenes").map (withSupportedSources platform)))

variable {platform : Platform}

theorem outcome_of_not_isSupported {entry : Value} (unsupported : ¬ IsSupported platform entry)
    (present : List String) (assembly : Assembly) :
    outcome platform present assembly entry.members = (.unsupported, assembly.roster) := by
  have none : ownSetup? platform entry.members = none := by
    rwa [IsSupported, Option.not_isSome_iff_eq_none] at unsupported
  rcases outcome_cases platform present assembly entry.members with
    ⟨name, target, _⟩ | ⟨_, _, equal⟩ | ⟨_, setup, name, roster, own, _, _⟩
  · rw [ownSetup?_of_isReference platform (isReference_of_target? target)] at none
    cases none
  · exact equal
  · rw [none] at own
    cases own

theorem addShared_of_not_isSupported {entry : Value} (unsupported : ¬ IsSupported platform entry)
    (present : List String) (assembly : Assembly) :
    addShared platform present assembly entry.members = assembly := by
  rw [addShared, outcome_of_not_isSupported unsupported]

theorem foldl_addShared_supported (present : List String) (assembly : Assembly)
    (entries : List Value) :
    ((supported platform entries).map Value.members).foldl (addShared platform present) assembly =
      (entries.map Value.members).foldl (addShared platform present) assembly := by
  induction entries generalizing assembly with
  | nil => rfl
  | cons entry rest induction =>
      rw [List.map_cons, List.foldl_cons, ← induction, supported]
      by_cases has : IsSupported platform entry
      · rw [List.filter_cons_of_pos (by simpa using has)]
        rfl
      · rw [List.filter_cons_of_neg (by simpa using has), addShared_of_not_isSupported has]
        rfl

theorem placeEntries_supported (present : List String) (items : List Scene.Item)
    (assembly : Assembly) (entries : List Value) :
    placeEntries platform present (supported platform entries) items assembly =
      placeEntries platform present entries items assembly := by
  induction entries generalizing items assembly with
  | nil => rfl
  | cons entry rest induction =>
      by_cases has : IsSupported platform entry
      · rcases exists_settles_outcome platform present assembly entry.members with
          ⟨outcome, roster, equal, _⟩
        rw [supported, List.filter_cons_of_pos (by simpa using has), placeEntries_cons equal,
          placeEntries_cons equal]
        exact induction _ _
      · rw [supported, List.filter_cons_of_neg (by simpa using has), placeEntries,
          outcome_of_not_isSupported has]
        exact induction _ _

theorem addScene_withSupportedSources (present : List String) (assembly : Assembly)
    (scene : Value) :
    addScene platform present assembly (withSupportedSources platform scene).members =
      addScene platform present assembly scene.members := by
  have name : (withSupportedSources platform scene).members.stringAt "name" =
      scene.members.stringAt "name" := by
    rw [Members.stringAt, withSupportedSources, Value.put, Value.members,
      Entries.find?_insert_of_ne (by decide)]
    rfl
  have sources : (withSupportedSources platform scene).members.elementsAt "sources" =
      supported platform (scene.members.elementsAt "sources") :=
    Members.elementsAt_insert_self _ _ _
  rw [addScene, addScene, name, sources]
  dsimp only
  rw [placeEntries_supported]

theorem addScenes_withSupportedSources (present : List String) (assembly : Assembly)
    (scenes : List Value) :
    addScenes platform present (scenes.map (withSupportedSources platform)) assembly =
      addScenes platform present scenes assembly := by
  induction scenes generalizing assembly with
  | nil => rfl
  | cons scene rest induction =>
      rw [List.map_cons, addScenes, addScenes]
      dsimp only
      rw [addScene_withSupportedSources, induction]

theorem additions_withSupportedEntries (present : List String) (blocks : Members) :
    additions platform present (withSupportedEntries platform blocks) =
      additions platform present blocks := by
  have shared : (withSupportedEntries platform blocks).elementsAt "globals" =
      supported platform (blocks.elementsAt "globals") := by
    rw [withSupportedEntries, Members.elementsAt_insert_of_ne (by decide),
      Members.elementsAt_insert_self]
  have scenes : (withSupportedEntries platform blocks).elementsAt "scenes" =
      (blocks.elementsAt "scenes").map (withSupportedSources platform) :=
    Members.elementsAt_insert_self _ _ _
  rw [additions, additions, shared, scenes]
  dsimp only
  rw [foldl_addShared_supported, addScenes_withSupportedSources]

end BroadcastScenes.ObsClassic
