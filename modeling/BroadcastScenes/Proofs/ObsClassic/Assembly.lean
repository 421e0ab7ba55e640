import BroadcastScenes.ObsClassic.Import
import BroadcastScenes.Proofs.AssignedNames
import BroadcastScenes.Proofs.PlacedScenes
import BroadcastScenes.Proofs.SetupIdentifiers

/-!
# Assembling a scene text

The invariant of an assembly: its roster holds the names of its records, and one more while a scene
is being filled; references to shared entries lead to its records; and each scene among the records
places what was there before it and nothing else. Each entry keeps it, each scene does, and so does
a whole scene text.
-/

namespace BroadcastScenes.ObsClassic

open Source (IsSetupId isSetupId_of_common Setup)

theorem isSetupId_of_setup? {platform : Platform} {entryClass : EntryClass} {data : Members}
    {setup : Setup} (found : setup? platform entryClass data = some setup) :
    IsSetupId platform setup.id := by
  cases entryClass with
  | text => exact Setup.isSetupId_of_ofKind? found
  | monitor => exact Setup.isSetupId_of_ofKind? found
  | window => exact Setup.isSetupId_of_ofKind? found
  | device => exact Setup.isSetupId_of_ofKind? found
  | game => exact Setup.isSetupId_of_ofKind? found
  | image => cases found; exact isSetupId_of_common platform (by simp [Source.commonIds])
  | imageSeries => cases found; exact isSetupId_of_common platform (by simp [Source.commonIds])
  | browser => cases found; exact isSetupId_of_common platform (by simp [Source.commonIds])
  | shared => cases found; exact isSetupId_of_common platform (by simp [Source.commonIds])
  | other => cases found; exact isSetupId_of_common platform (by simp [Source.commonIds])

theorem setup?_id_ne_sceneId {platform : Platform} {entryClass : EntryClass} {data : Members}
    {setup : Setup} (found : setup? platform entryClass data = some setup) :
    setup.id ≠ Source.sceneId := (isSetupId_of_setup? found).ne_sceneId

namespace Assembly

def recordNames (assembly : Assembly) : List String := assembly.records.map (·.name)

def scenes (assembly : Assembly) : List Source.Record :=
  assembly.records.filter (·.isScene)

def known (assembly : Assembly) (present : List String) : List String :=
  present ++ assembly.recordNames

def add (assembly : Assembly) (roster : Roster) (record : Source.Record) : Assembly :=
  { assembly with roster := roster, records := assembly.records ++ [record] }

@[simp] theorem recordNames_add (assembly : Assembly) (roster : Roster)
    (record : Source.Record) :
    (assembly.add roster record).recordNames = assembly.recordNames ++ [record.name] := by
  simp [add, recordNames]

end Assembly

def target? (present : List String) (assembly : Assembly) (entry : Members) : Option String :=
  if EntryClass.ofName (entry.stringAt "class") = .shared then
    referent? present assembly (entry.stringAt "name")
  else none

def ownSetup? (platform : Platform) (entry : Members) : Option Source.Setup :=
  setup? platform (EntryClass.ofName (entry.stringAt "class")) (entry.membersAt "data")

/-- What can become of an entry: it shows what it leads to, it is left out because the platform has
no source for it, or it becomes a source under a new name. -/
theorem outcome_cases (platform : Platform) (present : List String) (assembly : Assembly)
    (entry : Members) :
    (∃ name, target? present assembly entry = some name ∧
      outcome platform present assembly entry = (.existing name, assembly.roster)) ∨
    (target? present assembly entry = none ∧ ownSetup? platform entry = none ∧
      outcome platform present assembly entry = (.unsupported, assembly.roster)) ∨
    (target? present assembly entry = none ∧
      ∃ setup name roster, ownSetup? platform entry = some setup ∧
        assembly.roster.assign (entry.stringAt "name") = (name, roster) ∧
        outcome platform present assembly entry =
          (.new { name := name, id := setup.id, settings := setup.settings }, roster)) := by
  cases target : target? present assembly entry with
  | some name =>
      unfold target? at target
      exact .inl ⟨name, rfl, by simp [outcome, target]⟩
  | none =>
      unfold target? at target
      cases own : ownSetup? platform entry with
      | none =>
          unfold ownSetup? at own
          exact .inr (.inl ⟨rfl, rfl, by simp [outcome, target, own]⟩)
      | some setup =>
          unfold ownSetup? at own
          exact .inr (.inr ⟨rfl, setup, (assembly.roster.assign (entry.stringAt "name")).1,
            (assembly.roster.assign (entry.stringAt "name")).2, rfl, rfl,
            by simp [outcome, target, own]⟩)

theorem mem_known_of_target? {present : List String} {assembly : Assembly} {entry : Members}
    {name : String}
    (shared : ∀ given assigned, assembly.shared.lookup given = some assigned →
      assigned ∈ assembly.recordNames)
    (target : target? present assembly entry = some name) : name ∈ assembly.known present := by
  unfold target? referent? at target
  split at target
  · split at target
    · rename_i assigned found
      cases target
      exact List.mem_append_right _ (shared _ _ found)
    · split at target
      · rename_i there
        cases target
        rcases Bool.or_eq_true_iff.mp there with old | new
        · exact List.mem_append_left _ (List.contains_iff_mem.mp old)
        · rcases List.any_eq_true.mp new with ⟨record, member, equal⟩
          apply List.mem_append_right
          exact List.mem_map.mpr ⟨record, member, beq_iff_eq.mp equal⟩
      · cases target
  · cases target

/-! ## The invariant -/

def PlacesEarlier (present : List String) (records : List Source.Record) : Prop :=
  ∀ before scene after, records = before ++ scene :: after → scene.id = Source.sceneId →
    scene.IsSceneOf (Scene.Item.IsPlaced (present ++ before.map (·.name)))

theorem PlacesEarlier.append {present : List String} {records : List Source.Record}
    (places : PlacesEarlier present records) {record : Source.Record}
    (new : record.id = Source.sceneId →
      record.IsSceneOf (Scene.Item.IsPlaced (present ++ records.map (·.name)))) :
    PlacesEarlier present (records ++ [record]) := by
  intro before scene after split isScene
  rcases List.eq_nil_or_concat after with rfl | ⟨others, last, rfl⟩
  · rcases List.append_inj' split rfl with ⟨rfl, tails⟩
    cases tails
    exact new isScene
  · rw [List.concat_eq_append, ← List.cons_append, ← List.append_assoc] at split
    rcases List.append_inj' split rfl with ⟨rfl, _⟩
    exact places before scene others rfl isScene

/-- `pending` is the name of the scene that is being filled, if there is one. -/
structure Assembly.Consistent (assembly : Assembly) (present pending : List String) : Prop where
  names : assembly.roster.HasAdded present (pending ++ assembly.recordNames)
  shared : ∀ given assigned, assembly.shared.lookup given = some assigned →
    assigned ∈ assembly.recordNames
  places : PlacesEarlier present assembly.records

namespace Assembly

variable {assembly : Assembly} {present pending : List String}

theorem Consistent.add_source (consistent : assembly.Consistent present pending)
    {wanted : String} {roster : Roster} {record : Source.Record}
    (assignment : assembly.roster.assign wanted = (record.name, roster))
    (notScene : record.id ≠ Source.sceneId) :
    (assembly.add roster record).Consistent present pending where
  names := by
    have added := consistent.names.assign wanted
    rw [assignment, List.append_assoc] at added
    rw [recordNames_add]
    exact added
  shared := by
    intro given assigned found
    rw [recordNames_add]
    exact List.mem_append_left _ (consistent.shared given assigned found)
  places := consistent.places.append fun isScene => absurd isScene notScene

theorem scenes_add_source (roster : Roster) {record : Source.Record}
    (notScene : record.id ≠ Source.sceneId) :
    (assembly.add roster record).scenes = assembly.scenes := by
  simp [add, scenes, Source.Record.isScene, notScene]

theorem known_subset_add (roster : Roster) (record : Source.Record) :
    assembly.known present ⊆ (assembly.add roster record).known present := by
  rw [known, known, recordNames_add, ← List.append_assoc]
  exact List.subset_append_left _ _

theorem Consistent.addShared (consistent : assembly.Consistent present pending)
    (platform : Platform) (entry : Members) :
    (ObsClassic.addShared platform present assembly entry).Consistent present pending ∧
      (ObsClassic.addShared platform present assembly entry).scenes = assembly.scenes := by
  rcases outcome_cases platform present assembly entry with
    ⟨name, _, equal⟩ | ⟨_, _, equal⟩ | ⟨_, setup, name, roster, own, assignment, equal⟩
  · rw [ObsClassic.addShared, equal]
    exact ⟨consistent, rfl⟩
  · rw [ObsClassic.addShared, equal]
    exact ⟨consistent, rfl⟩
  · have notScene : setup.id ≠ Source.sceneId := setup?_id_ne_sceneId own
    have added : (assembly.add roster
        { name := name, id := setup.id, settings := setup.settings }).Consistent present pending :=
      consistent.add_source assignment notScene
    rw [ObsClassic.addShared, equal]
    refine ⟨⟨added.names, ?_, added.places⟩, scenes_add_source roster notScene⟩
    intro given assigned found
    rw [List.lookup_cons] at found
    split at found
    · cases found
      simp [recordNames]
    · exact added.shared given assigned found

/-- Placing entries keeps the invariant, adds no scene, and places what there is a record of. -/
theorem Consistent.placeEntries (consistent : assembly.Consistent present pending)
    (platform : Platform) (entries : List Value) {items result : List Scene.Item}
    {last : Assembly} (before : ∀ item ∈ items, item.IsPlaced (assembly.known present))
    (placed : ObsClassic.placeEntries platform present entries items assembly = (result, last)) :
    last.Consistent present pending ∧ last.scenes = assembly.scenes ∧
      ∀ item ∈ result, item.IsPlaced (last.known present) := by
  induction entries generalizing items assembly with
  | nil =>
      cases placed
      exact ⟨consistent, rfl, before⟩
  | cons entry rest induction =>
      have place : ∀ {next : Assembly} {name : String},
          assembly.known present ⊆ next.known present → name ∈ next.known present →
          ∀ item ∈ sceneItem entry.members name (items.length + 1) :: items,
            item.IsPlaced (next.known present) := by
        intro next name grown member item itemMember
        rcases List.mem_cons.mp itemMember with rfl | earlier
        · exact ⟨name, member, rfl⟩
        · exact (before item earlier).mono grown
      rw [ObsClassic.placeEntries] at placed
      rcases outcome_cases platform present assembly entry.members with
        ⟨name, target, equal⟩ | ⟨_, _, equal⟩ | ⟨_, setup, name, roster, own, assignment, equal⟩
      · rw [equal] at placed
        have member := mem_known_of_target? consistent.shared target
        exact induction consistent (place (List.Subset.refl _) member) placed
      · rw [equal] at placed
        exact induction consistent before placed
      · rw [equal] at placed
        have notScene : setup.id ≠ Source.sceneId := setup?_id_ne_sceneId own
        have added : (assembly.add roster
            { name := name, id := setup.id, settings := setup.settings }).Consistent
              present pending :=
          consistent.add_source assignment notScene
        have member : name ∈ (assembly.add roster
            { name := name, id := setup.id, settings := setup.settings }).known present := by
          simp [known]
        have rest := induction added (place (known_subset_add _ _) member) placed
        exact ⟨rest.1, rest.2.1.trans (scenes_add_source roster notScene), rest.2.2⟩

/-- A scene is behind all that it places, and its name is the one that it took first. -/
theorem Consistent.addScene (consistent : assembly.Consistent present [])
    (platform : Platform) (scene : Members) {name : String} {last : Assembly}
    (added : ObsClassic.addScene platform present assembly scene = (name, last)) :
    last.Consistent present [] ∧
      last.scenes.map (·.name) = assembly.scenes.map (·.name) ++ [name] := by
  -- The scene takes its name before its entries take theirs, and its record comes behind theirs.
  let assigned := assembly.roster.assign (scene.stringAt "name")
  let filling : Assembly := { assembly with roster := assigned.2 }
  have pending : filling.Consistent present [assigned.1] :=
    { names := (consistent.names.assign _).perm List.perm_append_comm
      shared := consistent.shared
      places := consistent.places }
  let filled := ObsClassic.placeEntries platform present (scene.elementsAt "sources") [] filling
  have nothing : ∀ item ∈ ([] : List Scene.Item), item.IsPlaced (filling.known present) := by simp
  have entries := pending.placeEntries platform (scene.elementsAt "sources") nothing
    (Eq.refl (filled.1, filled.2))
  let record := (Source.Record.scene assigned.1).withItems filled.1
  have equal : (assigned.1, filled.2.add filled.2.roster record) = (name, last) := added
  cases equal
  refine ⟨⟨?_, ?_, ?_⟩, ?_⟩
  · rw [recordNames_add]
    exact entries.1.names.perm List.perm_append_comm
  · intro given found lookup
    rw [recordNames_add]
    exact List.mem_append_left _ (entries.1.shared given found lookup)
  · apply entries.1.places.append
    intro _
    exact Source.Record.isSceneOf_withItems rfl entries.2.2
  · have scenes : (filled.2.add filled.2.roster record).scenes = filled.2.scenes ++ [record] := by
      simp [add, Assembly.scenes, Source.Record.isScene, record, Source.Record.scene]
    rw [scenes, entries.2.1, List.map_append]
    rfl

theorem Consistent.addScenes (consistent : assembly.Consistent present [])
    (platform : Platform) (scenes : List Value) {names : List String} {last : Assembly}
    (added : ObsClassic.addScenes platform present scenes assembly = (names, last)) :
    last.Consistent present [] ∧ names.length = scenes.length ∧
      last.scenes.map (·.name) = assembly.scenes.map (·.name) ++ names := by
  induction scenes generalizing assembly names with
  | nil =>
      cases added
      exact ⟨consistent, rfl, (List.append_nil _).symm⟩
  | cons scene rest induction =>
      have first := consistent.addScene platform scene.members rfl
      cases added
      have others := induction first.1 rfl
      refine ⟨others.1, by simpa using others.2.1, ?_⟩
      rw [others.2.2, first.2, List.append_assoc]
      rfl

end Assembly

/-! ## A whole scene text -/

def withShared (platform : Platform) (present : List String) (blocks : Members) : Assembly :=
  ((blocks.elementsAt "globals").map Value.members).foldl (addShared platform present)
    { roster := ⟨present⟩ }

def assembled (platform : Platform) (present : List String) (blocks : Members) :
    List String × Assembly :=
  addScenes platform present (blocks.elementsAt "scenes") (withShared platform present blocks)

theorem additions_eq (platform : Platform) (present : List String) (blocks : Members) :
    additions platform present blocks =
      { records := (assembled platform present blocks).2.records
        firstScene := (assembled platform present blocks).1.head? } := rfl

theorem start_consistent (present : List String) :
    ({ roster := ⟨present⟩ } : Assembly).Consistent present [] where
  names := Roster.hasAdded_nil present
  shared := by simp
  places := by
    intro before scene after split _
    cases before <;> cases split

theorem Assembly.Consistent.foldl_addShared {assembly : Assembly} {present : List String}
    (consistent : assembly.Consistent present []) (platform : Platform)
    (entries : List Members) :
    (entries.foldl (ObsClassic.addShared platform present) assembly).Consistent present [] ∧
      (entries.foldl (ObsClassic.addShared platform present) assembly).scenes =
        assembly.scenes := by
  induction entries generalizing assembly with
  | nil => exact ⟨consistent, rfl⟩
  | cons entry rest induction =>
      have step := consistent.addShared platform entry
      have others := induction step.1
      exact ⟨others.1, others.2.trans step.2⟩

theorem assembled_consistent (platform : Platform) (present : List String) (blocks : Members) :
    (assembled platform present blocks).2.Consistent present [] ∧
      (assembled platform present blocks).1.length = (blocks.elementsAt "scenes").length ∧
      (assembled platform present blocks).2.scenes.map (·.name) =
        (assembled platform present blocks).1 := by
  have shared := (start_consistent present).foldl_addShared platform
    ((blocks.elementsAt "globals").map Value.members)
  have scenes := shared.1.addScenes platform (blocks.elementsAt "scenes") rfl
  rw [shared.2] at scenes
  exact scenes

theorem areNew_additions (platform : Platform) (present : List String) (blocks : Members) :
    AreNew present ((additions platform present blocks).records.map (·.name)) :=
  (assembled_consistent platform present blocks).1.names.toAreNew

theorem placesEarlier_additions (platform : Platform) (present : List String)
    (blocks : Members) :
    PlacesEarlier present (additions platform present blocks).records :=
  (assembled_consistent platform present blocks).1.places

theorem length_filter_additions (platform : Platform) (present : List String)
    (blocks : Members) :
    ((additions platform present blocks).records.filter (·.isScene)).length =
      (blocks.elementsAt "scenes").length := by
  have consistent := assembled_consistent platform present blocks
  have lengths := congrArg List.length consistent.2.2
  rw [List.length_map, consistent.2.1] at lengths
  exact lengths

end BroadcastScenes.ObsClassic
