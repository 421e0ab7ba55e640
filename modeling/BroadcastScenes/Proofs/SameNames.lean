import BroadcastScenes.Proofs.KeptMembers

/-!
# Collections with the same names

Of the collection that is open, an import that appends looks at nothing but the names of its
records, and not at their order or number either. Two imports of one file are therefore run side by
side: as long as the same names are in use, they do the same, and the same names are in use after
it.
-/

namespace BroadcastScenes

/-! ## Presentations -/

namespace XSplit

structure Assembly.Agrees (left right : Assembly) : Prop where
  roster : SameNames left.roster.taken right.roster.taken
  table : left.table = right.table
  sources : left.sources = right.sources

variable {left right : Assembly}

theorem Assembly.Agrees.placedName (agrees : left.Agrees right) (platform : Platform)
    (attributes : Members) :
    (XSplit.placedName platform attributes left).1 =
        (XSplit.placedName platform attributes right).1 ∧
      (XSplit.placedName platform attributes left).2.Agrees
        (XSplit.placedName platform attributes right).2 := by
  rcases left with ⟨leftRoster, table, sources⟩
  rcases right with ⟨rightRoster, _, _⟩
  obtain ⟨roster, rfl, rfl⟩ := agrees
  have assigned := Roster.assign_of_sameNames leftRoster rightRoster roster
    (wantedName attributes)
  unfold XSplit.placedName
  dsimp only
  split
  · exact ⟨rfl, roster, rfl, rfl⟩
  · split
    · exact ⟨rfl, roster, rfl, rfl⟩
    · rw [assigned.1]
      exact ⟨rfl, assigned.2, rfl, rfl⟩

theorem Assembly.Agrees.placeItems (agrees : left.Agrees right) (setting : Setting)
    (number : Nat) (tags : List Markup.Tag) :
    (XSplit.placeItems setting number tags left).1 =
        (XSplit.placeItems setting number tags right).1 ∧
      (XSplit.placeItems setting number tags left).2.Agrees
        (XSplit.placeItems setting number tags right).2 := by
  induction tags generalizing number left right with
  | nil => exact ⟨rfl, agrees⟩
  | cons tag rest induction =>
      have step := agrees.placedName setting.platform tag.attributes
      have others := induction step.2 (number + 1)
      rw [placeItems_cons, placeItems_cons, step.1, others.1]
      exact ⟨rfl, others.2⟩

theorem Assembly.Agrees.placeScenes (agrees : left.Agrees right) (setting : Setting)
    (named : List (String × Markup.Tag)) :
    (XSplit.placeScenes setting named left).1 = (XSplit.placeScenes setting named right).1 ∧
      (XSplit.placeScenes setting named left).2.Agrees
        (XSplit.placeScenes setting named right).2 := by
  induction named generalizing left right with
  | nil => exact ⟨rfl, agrees⟩
  | cons head rest induction =>
      rcases head with ⟨name, placement⟩
      have items := agrees.placeItems setting 1 placement.children
      have others := induction items.2
      rw [placeScenes_cons, placeScenes_cons, items.1, others.1]
      exact ⟨rfl, others.2⟩

theorem additions_of_sameNames {inUse others : List String} (same : SameNames inUse others)
    (setting : Setting) (root : Markup.Tag) :
    additions setting inUse root = additions setting others root := by
  have names := Roster.assignAll_of_sameNames ⟨inUse⟩ ⟨others⟩ same
    ((root.childrenOfKind "placement").map fun placement => placement.attributes.textAt "name")
  have scenes : sceneNames inUse root = sceneNames others root := names.1
  have started : (start inUse root).Agrees (start others root) :=
    ⟨names.2, by rw [start, start, scenes], rfl⟩
  have run := started.placeScenes setting
    ((sceneNames others root).zip (root.childrenOfKind "placement"))
  rw [additions_eq, additions_eq, placed, placed, scenes, run.1, run.2.sources]

end XSplit

/-! ## Trees -/

theorem Streamlabs.additions_of_sameNames {inUse others : List String}
    (same : SameNames inUse others) (root : Members) :
    additions inUse root = additions others root := by
  have names : nodeNames inUse root = nodeNames others root :=
    (Roster.assignAll_of_sameNames ⟨inUse⟩ ⟨others⟩ same _).1
  rw [additions_eq, additions_eq, sourceRecords, sourceRecords, sceneRecords, sceneRecords,
    nodeTable, nodeTable, names]

/-! ## Scene texts -/

namespace ObsClassic

structure Assembly.Agrees (left right : Assembly) : Prop where
  roster : SameNames left.roster.taken right.roster.taken
  shared : left.shared = right.shared
  records : left.records = right.records

variable {left right : Assembly} {present others : List String}

theorem Assembly.Agrees.referent?_eq (agrees : left.Agrees right)
    (same : SameNames present others) (name : String) :
    referent? present left name = referent? others right name := by
  have there : present.contains name = others.contains name := by
    rw [Bool.eq_iff_iff, List.contains_iff_mem, List.contains_iff_mem, same name]
  rw [referent?, referent?, agrees.shared, agrees.records, there]

theorem Assembly.Agrees.outcome (agrees : left.Agrees right) (same : SameNames present others)
    (platform : Platform) (entry : Members) :
    ∃ outcome leftRoster rightRoster,
      ObsClassic.outcome platform present left entry = (outcome, leftRoster) ∧
      ObsClassic.outcome platform others right entry = (outcome, rightRoster) ∧
      SameNames leftRoster.taken rightRoster.taken := by
  have assigned := Roster.assign_of_sameNames left.roster right.roster agrees.roster
    (entry.stringAt "name")
  rw [ObsClassic.outcome, ObsClassic.outcome, agrees.referent?_eq same]
  dsimp only
  split
  · exact ⟨_, _, _, rfl, rfl, agrees.roster⟩
  · split
    · exact ⟨_, _, _, rfl, rfl, agrees.roster⟩
    · rw [assigned.1]
      exact ⟨_, _, _, rfl, rfl, assigned.2⟩

theorem Assembly.Agrees.addShared (agrees : left.Agrees right)
    (same : SameNames present others) (platform : Platform) (entry : Members) :
    (ObsClassic.addShared platform present left entry).Agrees
      (ObsClassic.addShared platform others right entry) := by
  rcases agrees.outcome same platform entry with
    ⟨outcome, leftRoster, rightRoster, leftEqual, rightEqual, roster⟩
  rw [ObsClassic.addShared, ObsClassic.addShared, leftEqual, rightEqual]
  cases outcome with
  | existing name => exact ⟨roster, agrees.shared, agrees.records⟩
  | unsupported => exact ⟨roster, agrees.shared, agrees.records⟩
  | new record =>
      have shared := congrArg ((entry.stringAt "name", record.name) :: ·) agrees.shared
      exact ⟨roster, shared, congrArg (· ++ [record]) agrees.records⟩

theorem Assembly.Agrees.foldl_addShared (agrees : left.Agrees right)
    (same : SameNames present others) (platform : Platform) (entries : List Members) :
    (entries.foldl (ObsClassic.addShared platform present) left).Agrees
      (entries.foldl (ObsClassic.addShared platform others) right) := by
  induction entries generalizing left right with
  | nil => exact agrees
  | cons entry rest induction => exact induction (agrees.addShared same platform entry)

theorem Assembly.Agrees.placeEntries (agrees : left.Agrees right)
    (same : SameNames present others) (platform : Platform) (entries : List Value)
    (items : List Scene.Item) :
    (ObsClassic.placeEntries platform present entries items left).1 =
        (ObsClassic.placeEntries platform others entries items right).1 ∧
      (ObsClassic.placeEntries platform present entries items left).2.Agrees
        (ObsClassic.placeEntries platform others entries items right).2 := by
  induction entries generalizing items left right with
  | nil => exact ⟨rfl, agrees⟩
  | cons entry rest induction =>
      rcases agrees.outcome same platform entry.members with
        ⟨outcome, leftRoster, rightRoster, leftEqual, rightEqual, roster⟩
      have unchanged : Assembly.Agrees { left with roster := leftRoster }
          { right with roster := rightRoster } := ⟨roster, agrees.shared, agrees.records⟩
      rw [ObsClassic.placeEntries, ObsClassic.placeEntries, leftEqual, rightEqual]
      cases outcome with
      | existing name => exact induction unchanged _
      | unsupported => exact induction unchanged _
      | new record =>
          have added : (left.add leftRoster record).Agrees (right.add rightRoster record) :=
            ⟨roster, agrees.shared, congrArg (· ++ [record]) agrees.records⟩
          exact induction added _

theorem Assembly.Agrees.addScene (agrees : left.Agrees right)
    (same : SameNames present others) (platform : Platform) (scene : Members) :
    (ObsClassic.addScene platform present left scene).1 =
        (ObsClassic.addScene platform others right scene).1 ∧
      (ObsClassic.addScene platform present left scene).2.Agrees
        (ObsClassic.addScene platform others right scene).2 := by
  have assigned := Roster.assign_of_sameNames left.roster right.roster agrees.roster
    (scene.stringAt "name")
  have filling : Assembly.Agrees
      { left with roster := (left.roster.assign (scene.stringAt "name")).2 }
      { right with roster := (right.roster.assign (scene.stringAt "name")).2 } :=
    ⟨assigned.2, agrees.shared, agrees.records⟩
  have entries := filling.placeEntries same platform (scene.elementsAt "sources") []
  refine ⟨assigned.1, entries.2.roster, entries.2.shared, ?_⟩
  rw [ObsClassic.addScene, ObsClassic.addScene]
  dsimp only
  rw [entries.2.records, entries.1, assigned.1]

theorem Assembly.Agrees.addScenes (agrees : left.Agrees right)
    (same : SameNames present others) (platform : Platform) (scenes : List Value) :
    (ObsClassic.addScenes platform present scenes left).1 =
        (ObsClassic.addScenes platform others scenes right).1 ∧
      (ObsClassic.addScenes platform present scenes left).2.Agrees
        (ObsClassic.addScenes platform others scenes right).2 := by
  induction scenes generalizing left right with
  | nil => exact ⟨rfl, agrees⟩
  | cons scene rest induction =>
      have first := agrees.addScene same platform scene.members
      have remaining := induction first.2
      rw [ObsClassic.addScenes, ObsClassic.addScenes]
      dsimp only
      rw [first.1, remaining.1]
      exact ⟨rfl, remaining.2⟩

theorem additions_of_sameNames (same : SameNames present others) (platform : Platform)
    (blocks : Members) :
    additions platform present blocks = additions platform others blocks := by
  have start : Assembly.Agrees { roster := ⟨present⟩ } { roster := ⟨others⟩ } := ⟨same, rfl, rfl⟩
  have shared := start.foldl_addShared same platform
    ((blocks.elementsAt "globals").map Value.members)
  have scenes := shared.addScenes same platform (blocks.elementsAt "scenes")
  rw [additions_eq, additions_eq, assembled, assembled, withShared, withShared, scenes.1,
    scenes.2.records]

end ObsClassic

/-! ## Imports -/

theorem Content.additions_of_sameNames {inUse others : List String}
    (same : SameNames inUse others) (content : Content) (setting : Setting) :
    content.additions setting inUse = content.additions setting others := by
  cases content with
  | presentation root => exact XSplit.additions_of_sameNames same setting root
  | tree root => exact Streamlabs.additions_of_sameNames same root
  | sceneText blocks => exact ObsClassic.additions_of_sameNames same setting.platform blocks

/-- Imports of a file into two collections fail alike, or append the same records and show the same
scene if the file has one. For this the names of the records have to be the same in both; everything
else in the collections may differ. -/
theorem same_names_lead_to_same_records (program : Program) (request : Request)
    (left right : Collection) (appends : program.Appends)
    (same : SameNames left.recordNames right.recordNames) :
    (∃ error, program.importFile request left = .error error ∧
      program.importFile request right = .error error) ∨
    ∃ content leftResult rightResult, Content.read program request.input = .ok content ∧
      program.importFile request left = .ok leftResult ∧
      program.importFile request right = .ok rightResult ∧
      left.newRecords leftResult = right.newRecords rightResult ∧
      (0 < content.sceneCount →
        ∃ scene, leftResult.IsShowing scene ∧ rightResult.IsShowing scene) := by
  rw [program.importFile_eq_map_read appends, program.importFile_eq_map_read appends]
  cases reading : Content.read program request.input with
  | error error => exact .inl ⟨error, rfl, rfl⟩
  | ok content =>
      have additions := content.additions_of_sameNames same request.setting
      refine .inr ⟨content, _, _, rfl, rfl, rfl, ?_, ?_⟩
      · rw [Content.newRecords_importInto, Content.newRecords_importInto, additions]
      · intro hasScene
        rcases Content.exists_firstScene_additions hasScene request.setting
          left.recordNames with ⟨scene, first⟩
        refine ⟨scene, Content.isShowing_importInto first, ?_⟩
        rw [additions] at first
        exact Content.isShowing_importInto first

def referringText : Request where
  path := ⟨"/referring.xconfig"⟩
  input := "scenes : \x7b\r\n Main : \x7b\r\n  sources : \x7b\r\n" ++
    "   Cam : \x7b\r\n    class : \"GlobalSource\"\r\n   \x7d\r\n   Mic : \x7b\r\n   \x7d\r\n" ++
    "  \x7d\r\n \x7d\r\n\x7d\r\n"

theorem same_names_lead_to_same_records_reordered :
    let cam : Value := .object [("name", .string "Cam")]
    let mic : Value := .object [("name", .string "Mic")]
    let left : Collection := ⟨[("sources", .array [cam, mic])]⟩
    let right : Collection := ⟨[("name", .string "Other"), ("sources", .array [mic, cam, mic])]⟩
    SameNames left.recordNames right.recordNames ∧
    ∃ leftResult rightResult,
      Program.obsClassic.importFile referringText left = .ok leftResult ∧
      Program.obsClassic.importFile referringText right = .ok rightResult ∧
      leftResult.shownNames =
        [("Cam", []), ("Mic", []), ("Mic 0", []), ("Main", [some "Mic 0", some "Cam"])] ∧
      left.newRecords leftResult = right.newRecords rightResult ∧
      ∃ content, Content.read .obsClassic referringText.input = .ok content ∧
        0 < content.sceneCount ∧
        ∃ scene, leftResult.IsShowing scene ∧ rightResult.IsShowing scene := by
  intro cam mic left right
  have same : SameNames left.recordNames right.recordNames := by
    intro name
    change name ∈ ["Cam", "Mic"] ↔ name ∈ ["Mic", "Cam", "Mic"]
    simp only [List.mem_cons, List.not_mem_nil, or_false]
    tauto
  have names : (Program.obsClassic.importFile referringText left).map Collection.shownNames =
      .ok [("Cam", []), ("Mic", []), ("Mic 0", []), ("Main", [some "Mic 0", some "Cam"])] := by
    decide +kernel
  have count : (Content.read .obsClassic referringText.input).map Content.sceneCount =
      .ok 1 := by
    decide +kernel
  rcases exists_of_map_eq_ok names with ⟨leftResult, imported, shown⟩
  rcases exists_of_map_eq_ok count with ⟨content, reading, scenes⟩
  refine ⟨same, ?_⟩
  rcases same_names_lead_to_same_records .obsClassic referringText left right (by decide) same with
    ⟨error, failed, _⟩ | ⟨_, _, rightResult, sameReading, sameImported, rightImported, records,
      shows⟩
  · cases imported.symm.trans failed
  · cases imported.symm.trans sameImported
    cases reading.symm.trans sameReading
    have hasScene : 0 < content.sceneCount := by omega
    exact ⟨leftResult, rightResult, imported, rightImported, shown, records, content, reading,
      hasScene, shows hasScene⟩

end BroadcastScenes
