import BroadcastScenes.Proofs.AssignedNames
import BroadcastScenes.Proofs.NameTables
import BroadcastScenes.Proofs.PlacedScenes
import BroadcastScenes.Proofs.SetupIdentifiers
import BroadcastScenes.XSplit.Import

/-!
# Assembling a presentation

The invariant of an assembly: its roster holds the names of the scenes and of the sources that items
have brought in, all of them new, and its table leads to no other names. Each item keeps it, and so
does a whole presentation.
-/

namespace BroadcastScenes.XSplit

/-! ## What items become -/

open Source (IsSetupId isSetupId_of_common Setup)

theorem isSetupId_mediaSetup (platform : Platform) (attributes : Members) :
    IsSetupId platform (mediaSetup attributes).id := by
  unfold mediaSetup
  dsimp only
  split
  · exact isSetupId_of_common platform (by simp [Source.commonIds])
  · split
    · split <;> exact isSetupId_of_common platform (by simp [Source.commonIds])
    · exact isSetupId_of_common platform (by simp [Source.commonIds])

theorem isSetupId_of_setup? {platform : Platform} {attributes : Members}
    {setup : Setup} (found : setup? platform attributes = some setup) :
    IsSetupId platform setup.id := by
  unfold setup? at found
  cases type : ItemType.ofCode (attributes.integerAt "type") with
  | media =>
      rw [type] at found
      cases found
      exact isSetupId_mediaSetup platform attributes
  | device =>
      rw [type] at found
      dsimp only [deviceSetup?] at found
      split at found <;> exact Setup.isSetupId_of_ofKind? found
  | image =>
      rw [type] at found
      cases found
      exact isSetupId_of_common platform (by simp [Source.commonIds])
  | capture =>
      rw [type] at found
      dsimp only [captureSetup?] at found
      split at found <;> exact Setup.isSetupId_of_ofKind? found
  | game =>
      rw [type] at found
      exact Setup.isSetupId_of_ofKind? found
  | page =>
      rw [type] at found
      dsimp only [pageSetup?] at found
      split at found
      · cases found
        exact isSetupId_of_common platform (by simp [Source.commonIds])
      · split at found
        · exact Setup.isSetupId_of_ofKind? found
        · split at found <;> cases found
          exact isSetupId_of_common platform (by simp [Source.commonIds])
  | scene => rw [type] at found; cases found
  | other => rw [type] at found; cases found

theorem isSetupId_sourceRecord (platform : Platform) (attributes : Members) (name : String) :
    IsSetupId platform (sourceRecord platform attributes name).id := by
  rw [sourceRecord]
  cases found : setup? platform attributes with
  | none => exact isSetupId_of_common platform (by simp [Source.commonIds])
  | some setup => exact isSetupId_of_setup? found

theorem sourceRecord_id_ne_sceneId (platform : Platform) (attributes : Members)
    (name : String) : (sourceRecord platform attributes name).id ≠ Source.sceneId :=
  (isSetupId_sourceRecord platform attributes name).ne_sceneId

/-! ## The runs over scenes and items -/

def sceneNames (inUse : List String) (root : Markup.Tag) : List String :=
  ((Roster.mk inUse).assignAll
    ((root.childrenOfKind "placement").map fun placement => placement.attributes.textAt "name")).1

def start (inUse : List String) (root : Markup.Tag) : Assembly where
  roster := ((Roster.mk inUse).assignAll
    ((root.childrenOfKind "placement").map fun placement => placement.attributes.textAt "name")).2
  table := NameTable.enterAll {}
    (((root.childrenOfKind "placement").map fun placement =>
      placement.attributes.textAt "id").zip (sceneNames inUse root))
  sources := []

def placed (setting : Setting) (inUse : List String) (root : Markup.Tag) :
    List Source.Record × Assembly :=
  placeScenes setting ((sceneNames inUse root).zip (root.childrenOfKind "placement"))
    (start inUse root)

theorem additions_eq (setting : Setting) (inUse : List String) (root : Markup.Tag) :
    additions setting inUse root =
      { records := (placed setting inUse root).1 ++ (placed setting inUse root).2.sources
        firstScene := (sceneNames inUse root).head? } := rfl

theorem length_sceneNames (inUse : List String) (root : Markup.Tag) :
    (sceneNames inUse root).length = (root.childrenOfKind "placement").length := by
  simp [sceneNames]

theorem placeItems_cons (setting : Setting) (number : Nat) (tag : Markup.Tag)
    (rest : List Markup.Tag) (assembly : Assembly) :
    placeItems setting number (tag :: rest) assembly =
      (sceneItem setting.canvas tag.attributes number
          (placedName setting.platform tag.attributes assembly).1 ::
        (placeItems setting (number + 1) rest
          (placedName setting.platform tag.attributes assembly).2).1,
        (placeItems setting (number + 1) rest
          (placedName setting.platform tag.attributes assembly).2).2) := rfl

theorem placeScenes_cons (setting : Setting) (name : String) (placement : Markup.Tag)
    (rest : List (String × Markup.Tag)) (assembly : Assembly) :
    placeScenes setting ((name, placement) :: rest) assembly =
      ((Source.Record.scene name).withItems
          (placeItems setting 1 placement.children assembly).1 ::
        (placeScenes setting rest (placeItems setting 1 placement.children assembly).2).1,
        (placeScenes setting rest (placeItems setting 1 placement.children assembly).2).2) := rfl

/-- What an item can do: show a source that its identifier is known for, show the scene that it
names, or bring in a source under a new name. -/
theorem placedName_cases (platform : Platform) (attributes : Members) (assembly : Assembly) :
    (∃ name, assembly.table.name? (attributes.textAt "srcid") = some name ∧
      placedName platform attributes assembly = (some name, assembly)) ∨
    (assembly.table.name? (attributes.textAt "srcid") = none ∧
      ItemType.ofCode (attributes.integerAt "type") = .scene ∧
      placedName platform attributes assembly =
        (assembly.table.name? (attributes.textAt "item"), assembly)) ∨
    (assembly.table.name? (attributes.textAt "srcid") = none ∧
      ItemType.ofCode (attributes.integerAt "type") ≠ .scene ∧
      ∃ name roster, assembly.roster.assign (wantedName attributes) = (name, roster) ∧
        placedName platform attributes assembly =
          (some name,
            { roster := roster
              table := assembly.table.enter (attributes.textAt "srcid") name
              sources := assembly.sources ++ [sourceRecord platform attributes name] })) := by
  cases known : assembly.table.name? (attributes.textAt "srcid") with
  | some name => exact .inl ⟨name, rfl, by simp [placedName, known]⟩
  | none =>
      by_cases isScene : ItemType.ofCode (attributes.integerAt "type") = .scene
      · exact .inr (.inl ⟨rfl, isScene, by simp [placedName, known, isScene]⟩)
      · exact .inr (.inr ⟨rfl, isScene, _, _, rfl, by simp [placedName, known, isScene]⟩)

namespace Assembly

def recordNames (assembly : Assembly) (scenes : List String) : List String :=
  scenes ++ assembly.sources.map (·.name)

structure Consistent (assembly : Assembly) (inUse scenes : List String) : Prop where
  names : assembly.roster.HasAdded inUse (assembly.recordNames scenes)
  table : ∀ id name, assembly.table.name? id = some name → name ∈ assembly.recordNames scenes

/-- Placing an item keeps the invariant and all names, and what it shows is among them. -/
theorem Consistent.placedName {assembly : Assembly} {inUse scenes : List String}
    (consistent : assembly.Consistent inUse scenes) (platform : Platform)
    (attributes : Members) {name : Option String} {next : Assembly}
    (placed : XSplit.placedName platform attributes assembly = (name, next)) :
    next.Consistent inUse scenes ∧ assembly.recordNames scenes ⊆ next.recordNames scenes ∧
      ∀ shown, name = some shown → shown ∈ next.recordNames scenes := by
  rcases placedName_cases platform attributes assembly with
    ⟨known, found, equal⟩ | ⟨_, _, equal⟩ | ⟨_, _, assigned, roster, assignment, equal⟩
  · cases placed.symm.trans equal
    refine ⟨consistent, List.Subset.refl _, ?_⟩
    rintro shown ⟨⟩
    exact consistent.table _ _ found
  · cases placed.symm.trans equal
    exact ⟨consistent, List.Subset.refl _, fun shown found => consistent.table _ _ found⟩
  · cases placed.symm.trans equal
    have names : recordNames
        { roster := roster
          table := assembly.table.enter (attributes.textAt "srcid") assigned
          sources := assembly.sources ++ [sourceRecord platform attributes assigned] } scenes =
        assembly.recordNames scenes ++ [assigned] := by
      simp [recordNames, sourceRecord]
    refine ⟨⟨?_, ?_⟩, ?_, ?_⟩
    · have added := consistent.names.assign (wantedName attributes)
      rw [assignment] at added
      rw [names]
      exact added
    · intro id found lookup
      rw [names, List.mem_append, List.mem_singleton]
      rcases NameTable.eq_or_eq_of_name?_enter lookup with earlier | new
      · exact .inl (consistent.table _ _ earlier)
      · exact .inr new
    · rw [names]
      exact List.subset_append_left _ _
    · rintro shown ⟨⟩
      rw [names]
      simp

theorem Consistent.placeItems {assembly : Assembly} {inUse scenes : List String}
    (consistent : assembly.Consistent inUse scenes) (setting : Setting) (number : Nat)
    (tags : List Markup.Tag) {items : List Scene.Item} {last : Assembly}
    (placed : XSplit.placeItems setting number tags assembly = (items, last)) :
    last.Consistent inUse scenes ∧ assembly.recordNames scenes ⊆ last.recordNames scenes ∧
      ∀ item ∈ items, item.Resolves (last.recordNames scenes) := by
  induction tags generalizing number assembly items with
  | nil =>
      cases placed
      exact ⟨consistent, List.Subset.refl _, by simp⟩
  | cons head tail induction =>
      have step := consistent.placedName setting.platform head.attributes rfl
      rw [placeItems_cons] at placed
      cases placed
      have rest := induction step.1 (number + 1) rfl
      refine ⟨rest.1, List.Subset.trans step.2.1 rest.2.1, ?_⟩
      intro item member
      -- What an item shows is still a name when the later items have brought in their sources.
      rcases List.mem_cons.mp member with rfl | member
      · exact fun shown named => rest.2.1 (step.2.2 shown named)
      · exact rest.2.2 item member

theorem Consistent.placeScenes {assembly : Assembly} {inUse scenes : List String}
    (consistent : assembly.Consistent inUse scenes) (setting : Setting)
    (named : List (String × Markup.Tag)) {records : List Source.Record} {last : Assembly}
    (placed : XSplit.placeScenes setting named assembly = (records, last)) :
    last.Consistent inUse scenes ∧ assembly.recordNames scenes ⊆ last.recordNames scenes ∧
      ∀ scene ∈ records, scene.IsSceneOf fun item =>
        item.Resolves (last.recordNames scenes) := by
  induction named generalizing assembly records with
  | nil =>
      cases placed
      exact ⟨consistent, List.Subset.refl _, by simp⟩
  | cons head tail induction =>
      rcases head with ⟨name, placement⟩
      have items := consistent.placeItems setting 1 placement.children rfl
      rw [placeScenes_cons] at placed
      cases placed
      have rest := induction items.1 rfl
      refine ⟨rest.1, List.Subset.trans items.2.1 rest.2.1, ?_⟩
      intro scene member
      rcases List.mem_cons.mp member with rfl | member
      · apply Source.Record.isSceneOf_withItems rfl
        exact fun item itemMember => (items.2.2 item itemMember).mono rest.2.1
      · exact rest.2.2 scene member

end Assembly

/-! ## A whole presentation -/

theorem start_consistent (inUse : List String) (root : Markup.Tag) :
    (start inUse root).Consistent inUse (sceneNames inUse root) where
  names := by
    have added := (Roster.hasAdded_nil inUse).assignAll
      ((root.childrenOfKind "placement").map fun placement => placement.attributes.textAt "name")
    simpa [Assembly.recordNames, start, sceneNames] using added
  table := by
    intro id name found
    exact List.mem_append_left _ (NameTable.mem_of_name?_enterAll found)

theorem map_name_placeScenes (setting : Setting) (names : List String)
    (placements : List Markup.Tag) (assembly : Assembly)
    (lengths : names.length = placements.length) :
    (placeScenes setting (names.zip placements) assembly).1.map (·.name) = names := by
  induction names generalizing placements assembly with
  | nil => rfl
  | cons name rest induction =>
      cases placements with
      | nil => cases lengths
      | cons placement others =>
          rw [List.zip_cons_cons, placeScenes_cons, List.map_cons,
            induction others _ (Nat.succ.inj lengths)]
          rfl

theorem map_name_placed (setting : Setting) (inUse : List String) (root : Markup.Tag) :
    (placed setting inUse root).1.map (·.name) = sceneNames inUse root :=
  map_name_placeScenes setting _ _ _ (length_sceneNames inUse root)

theorem map_name_additions (setting : Setting) (inUse : List String) (root : Markup.Tag) :
    (additions setting inUse root).records.map (·.name) =
      (placed setting inUse root).2.recordNames (sceneNames inUse root) := by
  rw [additions_eq, List.map_append, map_name_placed]
  rfl

theorem areNew_additions (setting : Setting) (inUse : List String) (root : Markup.Tag) :
    AreNew inUse ((additions setting inUse root).records.map (·.name)) := by
  rw [map_name_additions]
  exact ((start_consistent inUse root).placeScenes setting _ rfl).1.names.toAreNew

theorem length_placed (setting : Setting) (inUse : List String) (root : Markup.Tag) :
    (placed setting inUse root).1.length = (root.childrenOfKind "placement").length := by
  rw [← length_sceneNames inUse root, ← map_name_placed setting, List.length_map]

theorem take_additions (setting : Setting) (inUse : List String) (root : Markup.Tag) :
    (additions setting inUse root).records.take (root.childrenOfKind "placement").length =
      (placed setting inUse root).1 := by
  rw [additions_eq, ← length_placed setting inUse root, List.take_left]

theorem resolves_placed (setting : Setting) (inUse : List String) (root : Markup.Tag) :
    ∀ scene ∈ (placed setting inUse root).1, scene.IsSceneOf fun item =>
      item.Resolves ((additions setting inUse root).records.map (·.name)) := by
  rw [map_name_additions]
  exact ((start_consistent inUse root).placeScenes setting _ rfl).2.2

end BroadcastScenes.XSplit
