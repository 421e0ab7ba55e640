import BroadcastScenes.Proofs.ObsClassic.UnsupportedEntries
import BroadcastScenes.Proofs.PlacedNames

/-!
# Skipped captures

Linux has no game capture, so a shared entry that is one is left out, and its name stays free. A
record can still come to have this name: another name may be numbered, and what refers to the
capture has its name as well.
-/

namespace BroadcastScenes

/-! ## Where names come from -/

theorem freeName_eq_or (taken : List String) (name : String) :
    freeName taken name = name ∨ ∃ number, freeName taken name = numbered name number := by
  by_cases member : name ∈ taken
  · rcases freeName_of_mem member with ⟨number, _, equal, _⟩
    exact .inr ⟨number, equal⟩
  · exact .inl (freeName_of_not_mem member)

/-- A name that is given is one that was asked for, or such a name with a number. -/
theorem Roster.exists_wanted_of_mem_assignAll {roster : Roster} {wanted : List String}
    {given : String} (member : given ∈ (roster.assignAll wanted).1) :
    ∃ name ∈ wanted, given = name ∨ ∃ number, given = numbered name number := by
  induction wanted generalizing roster with
  | nil => cases member
  | cons name rest induction =>
      rw [assignAll_cons] at member
      rcases List.mem_cons.mp member with equal | later
      · rw [assign_fst] at equal
        rw [equal]
        exact ⟨name, List.mem_cons_self, freeName_eq_or _ _⟩
      · rcases induction later with ⟨other, otherMember, origin⟩
        exact ⟨other, List.mem_cons_of_mem _ otherMember, origin⟩

namespace ObsClassic

variable {platform : Platform} {shared : List (String × String)}

theorem SettlesAll.exists_of_mem_wanted {entries : List Value} {settled : Settled}
    (settles : SettlesAll platform shared entries settled) {name : String}
    (member : name ∈ settled.wanted) :
    ∃ entry ∈ entries, IsSupported platform entry ∧ entry.members.stringAt "name" = name := by
  rcases List.mem_filterMap.mp member with ⟨⟨entry, outcome⟩, pairMember, asked⟩
  have inEntries : entry ∈ entries.map Value.members := by
    rw [← settles.entries]
    exact List.mem_map_of_mem pairMember
  rcases List.mem_map.mp inEntries with ⟨value, valueMember, rfl⟩
  rcases Option.map_eq_some_iff.mp asked with ⟨record, found, named⟩
  refine ⟨value, valueMember, ?_, named⟩
  rw [IsSupported, Option.isSome_iff_ne_none]
  intro missing
  have unsupported := ((settles.settles _ pairMember).unsupported_iff).mpr missing
  simp only at unsupported found
  rw [unsupported] at found
  cases found

namespace Report

theorem name_mem_given {report : Report} {record : Source.Record}
    (member : record ∈ report.records) : record.name ∈ report.given := by
  rcases List.mem_append.mp member with isShared | inScenes
  · exact List.mem_append_left _ (List.mem_map_of_mem isShared)
  · rcases List.mem_flatMap.mp inScenes with ⟨scene, sceneMember, recordMember⟩
    apply List.mem_append_right
    apply List.mem_flatMap.mpr
    refine ⟨scene, sceneMember, ?_⟩
    rcases List.mem_append.mp recordMember with isSource | isScene
    · exact List.mem_cons_of_mem _ (List.mem_map_of_mem isSource)
    · rw [List.mem_singleton.mp isScene]
      exact List.mem_cons_self

theorem IsOf.exists_of_mem_wanted {report : Report} {present : List String} {blocks : Members}
    (isOf : report.IsOf platform present blocks) {name : String} (member : name ∈ report.wanted) :
    (∃ entry ∈ blocks.elementsAt "globals", IsSupported platform entry ∧
      entry.members.stringAt "name" = name) ∨
    ∃ scene ∈ blocks.elementsAt "scenes", scene.members.stringAt "name" = name ∨
      ∃ entry ∈ scene.members.elementsAt "sources", entry.members.stringAt "name" = name := by
  rcases List.mem_append.mp member with isShared | inScenes
  · exact .inl (isOf.shared.exists_of_mem_wanted isShared)
  · rcases List.mem_flatMap.mp inScenes with ⟨settled, settledMember, asked⟩
    rcases Streamlabs.exists_of_mem_of_forall₂ isOf.scenes settledMember with
      ⟨scene, sceneMember, settles⟩
    refine .inr ⟨scene, sceneMember, ?_⟩
    rcases List.mem_cons.mp asked with equal | byEntry
    · rw [equal, settles.isScene]
      exact .inl rfl
    · rcases settles.entries.exists_of_mem_wanted byEntry with ⟨entry, entryMember, _, named⟩
      exact .inr ⟨entry, entryMember, named⟩

end Report

/-! ## A capture that nothing else is named like -/

instance : DecidablePred IsReference :=
  fun entry => inferInstanceAs (Decidable (entry.stringAt "class" = "GlobalSource"))

def sharedNamed (blocks : Members) (name : String) : List Value :=
  (blocks.elementsAt "globals").filter fun entry => entry.members.stringAt "name" == name

/-- The only shared entry with the name is a game capture, and nothing in the scenes has the name
but references. -/
structure IsLoneCapture (blocks : Members) (name : String) : Prop where
  shared : (sharedNamed blocks name).map (fun entry => entry.members.stringAt "class") =
    ["GraphicsCapture"]
  scenes : ∀ scene ∈ blocks.elementsAt "scenes", scene.members.stringAt "name" ≠ name
  sources : ∀ scene ∈ blocks.elementsAt "scenes", ∀ entry ∈ scene.members.elementsAt "sources",
    ¬ IsReference entry.members → entry.members.stringAt "name" ≠ name

instance (blocks : Members) (name : String) : Decidable (IsLoneCapture blocks name) :=
  decidable_of_iff
    ((sharedNamed blocks name).map (fun entry => entry.members.stringAt "class") =
      ["GraphicsCapture"] ∧
    (∀ scene ∈ blocks.elementsAt "scenes", scene.members.stringAt "name" ≠ name) ∧
    ∀ scene ∈ blocks.elementsAt "scenes", ∀ entry ∈ scene.members.elementsAt "sources",
      ¬ IsReference entry.members → entry.members.stringAt "name" ≠ name)
    ⟨fun ⟨shared, scenes, sources⟩ => ⟨shared, scenes, sources⟩,
      fun lone => ⟨lone.shared, lone.scenes, lone.sources⟩⟩

def withoutShared (blocks : Members) (name : String) : Members :=
  blocks.insert "globals" (.array ((blocks.elementsAt "globals").filter fun entry =>
    entry.members.stringAt "name" != name))

theorem not_isSupported_of_isCapture {entry : Value}
    (isCapture : entry.members.stringAt "class" = "GraphicsCapture") :
    ¬ IsSupported .linux entry := by
  have none : ownSetup? .linux entry.members = none := by
    rw [ownSetup?, isCapture]
    rfl
  simp [IsSupported, none]

theorem IsLoneCapture.not_isSupported {blocks : Members} {name : String}
    (lone : IsLoneCapture blocks name) {entry : Value}
    (member : entry ∈ blocks.elementsAt "globals")
    (named : entry.members.stringAt "name" = name) : ¬ IsSupported .linux entry := by
  have inNamed : entry ∈ sharedNamed blocks name :=
    List.mem_filter.mpr ⟨member, beq_iff_eq.mpr named⟩
  have isCapture : entry.members.stringAt "class" ∈ ["GraphicsCapture"] := by
    rw [← lone.shared]
    exact List.mem_map_of_mem inNamed
  exact not_isSupported_of_isCapture (List.mem_singleton.mp isCapture)

theorem IsLoneCapture.additions_withoutShared {blocks : Members} {name : String}
    (lone : IsLoneCapture blocks name) (present : List String) :
    additions .linux present (withoutShared blocks name) = additions .linux present blocks := by
  have others : (withoutShared blocks name).elementsAt "globals" =
      (blocks.elementsAt "globals").filter fun entry => entry.members.stringAt "name" != name :=
    Members.elementsAt_insert_self _ _ _
  have scenes : (withoutShared blocks name).elementsAt "scenes" = blocks.elementsAt "scenes" :=
    Members.elementsAt_insert_of_ne (by decide) _ _
  have same : supported .linux ((withoutShared blocks name).elementsAt "globals") =
      supported .linux (blocks.elementsAt "globals") := by
    rw [others, supported, supported, List.filter_filter]
    apply List.filter_congr
    intro entry member
    by_cases has : IsSupported .linux entry
    · have other : entry.members.stringAt "name" ≠ name := fun named =>
        lone.not_isSupported member named has
      simp [has, other]
    · simp [has]
  rw [additions, additions, scenes, ← foldl_addShared_supported, same, foldl_addShared_supported]

def IsNumberedName (blocks : Members) (name : String) : Prop :=
  ∃ named ∈ entries blocks ++ blocks.elementsAt "scenes", ∃ number,
    name = numbered (named.members.stringAt "name") number

def IsReferredTo (blocks : Members) (name : String) : Prop :=
  ∃ scene ∈ blocks.elementsAt "scenes", ∃ entry ∈ scene.members.elementsAt "sources",
    IsReference entry.members ∧ entry.members.stringAt "name" = name

/-- A record with the name of a capture is not the capture. -/
theorem IsLoneCapture.isNumberedName_or_isReferredTo {blocks : Members} {name : String}
    (lone : IsLoneCapture blocks name) {present : List String}
    (member : name ∈ (additions .linux present blocks).records.map (·.name)) :
    IsNumberedName blocks name ∨ IsReferredTo blocks name := by
  rcases exists_report .linux present blocks with ⟨report, isOf, records⟩
  rw [records] at member
  rcases List.mem_map.mp member with ⟨record, recordMember, rfl⟩
  have given := Report.name_mem_given recordMember
  rw [← isOf.names] at given
  rcases Roster.exists_wanted_of_mem_assignAll given with ⟨wanted, wantedMember, origin⟩
  rcases isOf.exists_of_mem_wanted wantedMember with
    ⟨entry, entryMember, has, rfl⟩ | ⟨scene, sceneMember, rfl | ⟨entry, entryMember, rfl⟩⟩
  · have inEntries : entry ∈ entries blocks := List.mem_append_left _ entryMember
    rcases origin with equal | ⟨number, equal⟩
    · exact absurd has (lone.not_isSupported entryMember equal.symm)
    · exact .inl ⟨entry, List.mem_append_left _ inEntries, number, equal⟩
  · rcases origin with equal | ⟨number, equal⟩
    · exact absurd equal.symm (lone.scenes scene sceneMember)
    · exact .inl ⟨scene, List.mem_append_right _ sceneMember, number, equal⟩
  · have inEntries : entry ∈ entries blocks :=
      List.mem_append_right _ (List.mem_flatMap.mpr ⟨scene, sceneMember, entryMember⟩)
    rcases origin with equal | ⟨number, equal⟩
    · by_cases reference : IsReference entry.members
      · exact .inr ⟨scene, sceneMember, entry, entryMember, reference, equal.symm⟩
      · exact absurd equal.symm (lone.sources scene sceneMember entry entryMember reference)
    · exact .inl ⟨entry, List.mem_append_left _ inEntries, number, equal⟩

end ObsClassic

open ObsClassic (IsLoneCapture IsNumberedName IsReferredTo withoutShared)

/-- The import has made nothing of the capture. If there is a record with its name, or an item that
shows one, then the name was made by numbering or a scene refers to it. -/
structure SkipsCapture (request : Request) (blocks : Members) (name : String)
    (result : Collection) : Prop where
  without : (Content.sceneText (withoutShared blocks name)).importInto request {} = result
  records : ∀ record ∈ result.records, Collection.recordName record = name →
    IsNumberedName blocks name ∨ IsReferredTo blocks name
  items : ∀ scene ∈ (Content.sceneText blocks).newScenes {} result,
    ∀ item ∈ scene.members.itemsAt "settings", item.member? "name" = some (.string name) →
    IsNumberedName blocks name ∨ IsReferredTo blocks name

/-- On Linux a shared game capture that nothing but references is named like is left out of an
import. -/
theorem skipped_captures_leave_their_names (request : Request) (blocks : Members) (name : String)
    (isLinux : request.setting.platform = .linux)
    (reading : SceneText.read request.input = .ok blocks) (lone : IsLoneCapture blocks name) :
    ∃ result, Program.obsClassic.importFile request {} = .ok result ∧
      SkipsCapture request blocks name result := by
  have named : ∀ other ∈ ((Content.sceneText blocks).importInto request {}).recordNames,
      other = name → IsNumberedName blocks name ∨ IsReferredTo blocks name := by
    rintro other member rfl
    rw [Content.recordNames_importInto] at member
    have added : other ∈ (ObsClassic.additions .linux [] blocks).records.map (·.name) := by
      rw [← isLinux]
      exact member
    exact lone.isNumberedName_or_isReferredTo added
  refine ⟨_, ObsClassic.importFile_of_read reading {}, ?_, ?_, ?_⟩
  · apply Content.importInto_sceneText_congr
    rw [isLinux]
    exact lone.additions_withoutShared _
  · intro record member
    exact named _ (List.mem_map_of_mem member)
  · intro scene sceneMember item itemMember shown
    rcases Content.exists_shows_of_mem_newScenes sceneMember itemMember with ⟨item, rfl, shows⟩
    rw [Scene.Item.member?_name_toValue] at shown
    rcases Option.map_eq_some_iff.mp shown with ⟨other, itemName, equal⟩
    exact named other (shows.resolves other itemName) (Value.string.inj equal)

def numberedCaptureText : Request where
  path := ⟨"/numbered.xconfig"⟩
  input := "global sources : \x7b\nCam 0 : \x7b\nclass : GraphicsCapture\n\x7d\n\x7d\n" ++
    "scenes : \x7b\nMain : \x7b\nsources : \x7b\nCam : \x7b\n\x7d\nCam : \x7b\n\x7d\n" ++
    "\x7d\n\x7d\n\x7d\n"

def referredCaptureText : Request where
  path := ⟨"/referred.xconfig"⟩
  input := "global sources : \x7b\nGame : \x7b\nclass : GraphicsCapture\n\x7d\n\x7d\n" ++
    "scenes : \x7b\nMain : \x7b\nsources : \x7b\nGame : \x7b\nclass : GlobalSource\n\x7d\n" ++
    "\x7d\n\x7d\n\x7d\n"

theorem skipped_captures_leave_their_names_numbered :
    ∃ blocks result, SceneText.read numberedCaptureText.input = .ok blocks ∧
      IsLoneCapture blocks "Cam 0" ∧
      Program.obsClassic.importFile numberedCaptureText {} = .ok result ∧
      SkipsCapture numberedCaptureText blocks "Cam 0" result := by
  have lone : (SceneText.read numberedCaptureText.input).map
      (fun blocks => decide (IsLoneCapture blocks "Cam 0")) = .ok true := by
    decide +kernel
  rcases exists_of_map_eq_ok lone with ⟨blocks, reading, isLone⟩
  have isLone : IsLoneCapture blocks "Cam 0" := of_decide_eq_true isLone
  rcases skipped_captures_leave_their_names numberedCaptureText blocks "Cam 0" rfl reading isLone
    with ⟨result, imported, skips⟩
  exact ⟨blocks, result, reading, isLone, imported, skips⟩

/-- The name of a skipped capture can be that of a record all the same. -/
theorem skipped_captures_do_not_reserve_names :
    (∃ blocks result, SceneText.read numberedCaptureText.input = .ok blocks ∧
      IsLoneCapture blocks "Cam 0" ∧
      Program.obsClassic.importFile numberedCaptureText {} = .ok result ∧
      result.shownNames = [("Cam", []), ("Cam 0", []), ("Main", [some "Cam 0", some "Cam"])]) ∧
    ∃ blocks result, SceneText.read referredCaptureText.input = .ok blocks ∧
      IsLoneCapture blocks "Game" ∧
      Program.obsClassic.importFile referredCaptureText {} = .ok result ∧
      result.shownNames = [("Game", []), ("Main", [some "Game"])] := by
  have read : ∀ {request : Request} {name : String} {names : List (String × List (Option String))},
      (SceneText.read request.input).map (fun blocks => decide (IsLoneCapture blocks name)) =
        .ok true →
      (Program.obsClassic.importFile request {}).map Collection.shownNames = .ok names →
      ∃ blocks result, SceneText.read request.input = .ok blocks ∧ IsLoneCapture blocks name ∧
        Program.obsClassic.importFile request {} = .ok result ∧ result.shownNames = names := by
    intro request name names lone shown
    rcases exists_of_map_eq_ok lone with ⟨blocks, reading, isLone⟩
    rcases exists_of_map_eq_ok shown with ⟨result, imported, equal⟩
    exact ⟨blocks, result, reading, of_decide_eq_true isLone, imported, equal⟩
  constructor
  · apply read
    · decide +kernel
    · decide +kernel
  · apply read
    · decide +kernel
    · decide +kernel

end BroadcastScenes
