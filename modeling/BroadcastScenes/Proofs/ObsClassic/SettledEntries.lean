import BroadcastScenes.Proofs.ObsClassic.AddedRecords

/-!
# What becomes of entries

A scene text is imported entry by entry, and what becomes of one hangs on those before it. A report
says of each entry what has become of it. The records, the items and the names in use can then be
read off the report, without going through the import again.
-/

namespace BroadcastScenes.ObsClassic

def IsReference (entry : Members) : Prop := entry.stringAt "class" = "GlobalSource"

theorem EntryClass.ofName_eq_shared_iff (name : String) :
    EntryClass.ofName name = .shared ↔ name = "GlobalSource" := by
  constructor
  · intro isShared
    by_contra different
    rw [EntryClass.ofName, List.lookup_cons, beq_false_of_ne different] at isShared
    simp only [List.lookup_cons] at isShared
    repeat' split at isShared
    all_goals cases isShared
  · rintro rfl
    rfl

namespace Outcome

def shown? : Outcome → Option String
  | existing name => some name
  | new record => some record.name
  | unsupported => none

def record? : Outcome → Option Source.Record
  | existing _ => none
  | new record => some record
  | unsupported => none

end Outcome

/-- Entries with what has become of them, in the order of the file. -/
abbrev Settled := List (Members × Outcome)

namespace Settled

def records (settled : Settled) : List Source.Record := settled.filterMap (·.2.record?)

def wanted (settled : Settled) : List String :=
  settled.filterMap fun (entry, outcome) => outcome.record?.map fun _ => entry.stringAt "name"

/-- The names that the records of entries were given, each behind the name of its entry. A name that
several entries have leads to the last of them. -/
def assigned (settled : Settled) : List (String × String) :=
  (settled.filterMap fun (entry, outcome) =>
    outcome.record?.map fun record => (entry.stringAt "name", record.name)).reverse

/-- The entries that are shown, each with the name that it is shown under. -/
def placed (settled : Settled) : List (Members × String) :=
  settled.filterMap fun (entry, outcome) => outcome.shown?.map fun name => (entry, name)

def itemsFrom (first : Nat) (settled : Settled) : List Scene.Item :=
  ((settled.placed.zipIdx first).map fun ((entry, name), number) =>
    sceneItem entry name number).reverse

theorem records_append (front back : Settled) :
    records (front ++ back) = front.records ++ back.records :=
  List.filterMap_append

theorem wanted_append (front back : Settled) :
    wanted (front ++ back) = front.wanted ++ back.wanted :=
  List.filterMap_append

end Settled

structure Settles (platform : Platform) (shared : List (String × String)) (entry : Members)
    (outcome : Outcome) : Prop where
  unsupported_iff : outcome = .unsupported ↔ ownSetup? platform entry = none
  isReference : ∀ name, outcome = .existing name → IsReference entry
  setup : ∀ record, outcome = .new record →
    ∃ setup, ownSetup? platform entry = some setup ∧ record = entryRecord setup record.name
  /-- A reference to a shared entry shows that entry, and does not become a record of its own. -/
  referent : IsReference entry → ∀ name, shared.lookup (entry.stringAt "name") = some name →
    outcome = .existing name

theorem Settles.without_shared {platform : Platform} {shared : List (String × String)}
    {entry : Members} {outcome : Outcome} (settles : Settles platform shared entry outcome) :
    Settles platform [] entry outcome :=
  ⟨settles.unsupported_iff, settles.isReference, settles.setup, fun _ _ found => nomatch found⟩

/-- The next assembly has these records behind those of an assembly, and its roster has been asked
for names and has given out others in turn. -/
structure Assembly.Grows (assembly : Assembly) (records : List Source.Record)
    (wanted given : List String) (next : Assembly) : Prop where
  records : next.records = assembly.records ++ records
  names : assembly.roster.assignAll wanted = (given, next.roster)

namespace Assembly

def after (assembly : Assembly) (outcome : Outcome) (roster : Roster) : Assembly :=
  { assembly with roster := roster, records := assembly.records ++ outcome.record?.toList }

theorem Grows.nil (assembly : Assembly) : assembly.Grows [] [] [] assembly :=
  ⟨(List.append_nil _).symm, rfl⟩

theorem Grows.append {assembly middle next : Assembly} {front back : List Source.Record}
    {wanted given wantedLater givenLater : List String}
    (first : assembly.Grows front wanted given middle)
    (second : middle.Grows back wantedLater givenLater next) :
    assembly.Grows (front ++ back) (wanted ++ wantedLater) (given ++ givenLater) next where
  records := by rw [second.records, first.records, List.append_assoc]
  names := by rw [Roster.assignAll_append, first.names, second.names]

def Takes (assembly : Assembly) (settled : Settled) (next : Assembly) : Prop :=
  assembly.Grows settled.records settled.wanted (settled.records.map (·.name)) next

theorem Takes.append {assembly middle next : Assembly} {front back : Settled}
    (first : assembly.Takes front middle) (second : middle.Takes back next) :
    assembly.Takes (front ++ back) next := by
  rw [Takes, Settled.records_append, Settled.wanted_append, List.map_append]
  exact Grows.append first second

end Assembly

/-! ## One entry -/

variable {platform : Platform} {present : List String} {assembly : Assembly} {entry : Members}

theorem ownSetup?_of_isReference (platform : Platform) (reference : IsReference entry) :
    ownSetup? platform entry = some ⟨"", []⟩ := by
  have isShared : EntryClass.ofName (entry.stringAt "class") = .shared :=
    (EntryClass.ofName_eq_shared_iff _).mpr reference
  rw [ownSetup?, isShared]
  rfl

theorem isReference_of_target? {name : String}
    (target : target? present assembly entry = some name) : IsReference entry := by
  rw [target?] at target
  split at target
  · rename_i isShared
    exact (EntryClass.ofName_eq_shared_iff _).mp isShared
  · cases target

theorem target?_of_lookup {name : String} (reference : IsReference entry)
    (found : assembly.shared.lookup (entry.stringAt "name") = some name) :
    target? present assembly entry = some name := by
  have isShared : EntryClass.ofName (entry.stringAt "class") = .shared :=
    (EntryClass.ofName_eq_shared_iff _).mpr reference
  rw [target?, if_pos isShared, referent?, found]

theorem exists_settles_outcome (platform : Platform) (present : List String) (assembly : Assembly)
    (entry : Members) :
    ∃ outcome roster, ObsClassic.outcome platform present assembly entry = (outcome, roster) ∧
      Settles platform assembly.shared entry outcome ∧
      assembly.Takes [(entry, outcome)] (assembly.after outcome roster) := by
  rcases outcome_cases platform present assembly entry with
    ⟨name, target, equal⟩ | ⟨target, own, equal⟩ |
    ⟨target, setup, name, roster, own, assignment, equal⟩
  · have reference := isReference_of_target? target
    have own := ownSetup?_of_isReference platform reference
    refine ⟨_, _, equal, ⟨by simp [own], fun _ _ => reference, fun _ isNew => (nomatch isNew), ?_⟩,
      ⟨rfl, rfl⟩⟩
    intro _ other found
    rw [target?_of_lookup reference found] at target
    rw [Option.some.inj target]
  · refine ⟨_, _, equal, ⟨by simp [own], fun _ isOld => (nomatch isOld),
      fun _ isNew => (nomatch isNew), ?_⟩, ⟨rfl, rfl⟩⟩
    intro reference
    rw [ownSetup?_of_isReference platform reference] at own
    cases own
  · refine ⟨_, _, equal, ⟨by simp [own], fun _ isOld => (nomatch isOld), ?_, ?_⟩, ⟨rfl, ?_⟩⟩
    · rintro _ ⟨⟩
      exact ⟨setup, own, rfl⟩
    · intro reference other found
      rw [target?_of_lookup reference found] at target
      cases target
    · have wanted : Settled.wanted [(entry,
          .new { name := name, id := setup.id, settings := setup.settings })] =
          [entry.stringAt "name"] := rfl
      rw [wanted, Roster.assignAll_cons, assignment]
      rfl

/-! ## Entries in turn -/

namespace Settled

theorem assigned_append (front back : Settled) :
    assigned (front ++ back) = back.assigned ++ front.assigned := by
  rw [assigned, List.filterMap_append, List.reverse_append]
  rfl

theorem length_itemsFrom (first : Nat) (settled : Settled) :
    (settled.itemsFrom first).length = settled.placed.length := by
  rw [itemsFrom, List.length_reverse, List.length_map, List.length_zipIdx]

theorem itemsFrom_append (first : Nat) (front back : Settled) :
    itemsFrom first (front ++ back) =
      back.itemsFrom (first + front.placed.length) ++ front.itemsFrom first := by
  have placed : placed (front ++ back) = front.placed ++ back.placed := List.filterMap_append
  rw [itemsFrom, placed, List.zipIdx_append, List.map_append, List.reverse_append]
  rfl

end Settled

structure SettlesAll (platform : Platform) (shared : List (String × String)) (entries : List Value)
    (settled : Settled) : Prop where
  entries : settled.map Prod.fst = entries.map Value.members
  settles : ∀ pair ∈ settled, Settles platform shared pair.1 pair.2

theorem SettlesAll.nil (platform : Platform) (shared : List (String × String)) :
    SettlesAll platform shared [] [] :=
  ⟨rfl, List.forall_mem_nil _⟩

theorem SettlesAll.cons {shared : List (String × String)} {entry : Value} {rest : List Value}
    {outcome : Outcome} {settled : Settled}
    (first : Settles platform shared entry.members outcome)
    (others : SettlesAll platform shared rest settled) :
    SettlesAll platform shared (entry :: rest) ((entry.members, outcome) :: settled) :=
  ⟨by rw [List.map_cons, List.map_cons, others.entries],
    List.forall_mem_cons.mpr ⟨first, others.settles⟩⟩

theorem addShared_eq {outcome : Outcome} {roster : Roster}
    (equal : ObsClassic.outcome platform present assembly entry = (outcome, roster)) :
    addShared platform present assembly entry =
      { assembly.after outcome roster with
        shared := Settled.assigned [(entry, outcome)] ++ assembly.shared } := by
  rw [addShared, equal]
  cases outcome <;> simp [Assembly.after, Outcome.record?, Settled.assigned]

theorem placeEntries_cons {entry : Value} {outcome : Outcome} {roster : Roster}
    (equal : ObsClassic.outcome platform present assembly entry.members = (outcome, roster))
    (rest : List Value) (items : List Scene.Item) :
    placeEntries platform present (entry :: rest) items assembly =
      placeEntries platform present rest
        (Settled.itemsFrom (items.length + 1) [(entry.members, outcome)] ++ items)
        (assembly.after outcome roster) := by
  rw [placeEntries, equal]
  cases outcome <;>
    simp [Assembly.after, Outcome.record?, Outcome.shown?, Settled.itemsFrom, Settled.placed]

theorem exists_settled_foldl_addShared (platform : Platform) (present : List String)
    (assembly : Assembly) (entries : List Value) :
    ∃ settled, SettlesAll platform [] entries settled ∧
      assembly.Takes settled
        ((entries.map Value.members).foldl (addShared platform present) assembly) ∧
      ((entries.map Value.members).foldl (addShared platform present) assembly).shared =
        settled.assigned ++ assembly.shared := by
  induction entries generalizing assembly with
  | nil => exact ⟨[], .nil platform [], .nil assembly, rfl⟩
  | cons entry rest induction =>
      rcases exists_settles_outcome platform present assembly entry.members with
        ⟨outcome, roster, equal, settles, takes⟩
      rcases induction (addShared platform present assembly entry.members) with
        ⟨settled, all, takesRest, shared⟩
      have step := addShared_eq equal
      have first : assembly.Takes [(entry.members, outcome)]
          (addShared platform present assembly entry.members) := by
        rcases takes with ⟨records, names⟩
        rw [step]
        exact ⟨records, names⟩
      refine ⟨(entry.members, outcome) :: settled, all.cons settles.without_shared,
        first.append takesRest, ?_⟩
      have assigned := Settled.assigned_append [(entry.members, outcome)] settled
      rw [List.singleton_append] at assigned
      rw [List.map_cons, List.foldl_cons, shared, step, assigned, List.append_assoc]

theorem exists_settled_placeEntries (platform : Platform) (present : List String)
    (assembly : Assembly) (items : List Scene.Item) (entries : List Value) :
    ∃ settled, SettlesAll platform assembly.shared entries settled ∧
      assembly.Takes settled (placeEntries platform present entries items assembly).2 ∧
      (placeEntries platform present entries items assembly).2.shared = assembly.shared ∧
      (placeEntries platform present entries items assembly).1 =
        settled.itemsFrom (items.length + 1) ++ items := by
  induction entries generalizing assembly items with
  | nil => exact ⟨[], .nil platform _, .nil assembly, rfl, rfl⟩
  | cons entry rest induction =>
      rcases exists_settles_outcome platform present assembly entry.members with
        ⟨outcome, roster, equal, settles, takes⟩
      rw [placeEntries_cons equal]
      rcases induction (assembly.after outcome roster)
          (Settled.itemsFrom (items.length + 1) [(entry.members, outcome)] ++ items) with
        ⟨settled, all, takesRest, shared, placed⟩
      refine ⟨(entry.members, outcome) :: settled, all.cons settles, takes.append takesRest, shared,
        ?_⟩
      have items := Settled.itemsFrom_append (items.length + 1) [(entry.members, outcome)] settled
      rw [List.singleton_append] at items
      rw [placed, items, List.length_append, Settled.length_itemsFrom, List.append_assoc]
      congr 2
      omega

/-! ## Scenes -/

structure SettledScene where
  scene : Members
  name : String
  entries : Settled

namespace SettledScene

def record (settled : SettledScene) : Source.Record :=
  (Source.Record.scene settled.name).withItems (settled.entries.itemsFrom 1)

def records (settled : SettledScene) : List Source.Record :=
  settled.entries.records ++ [settled.record]

def wanted (settled : SettledScene) : List String :=
  settled.scene.stringAt "name" :: settled.entries.wanted

def given (settled : SettledScene) : List String :=
  settled.name :: settled.entries.records.map (·.name)

end SettledScene

structure SettlesScene (platform : Platform) (shared : List (String × String)) (scene : Value)
    (settled : SettledScene) : Prop where
  isScene : settled.scene = scene.members
  entries : SettlesAll platform shared (scene.members.elementsAt "sources") settled.entries

theorem exists_settled_addScene (platform : Platform) (present : List String)
    (assembly : Assembly) (scene : Value) :
    ∃ settled, SettlesScene platform assembly.shared scene settled ∧
      assembly.Grows settled.records settled.wanted settled.given
        (addScene platform present assembly scene.members).2 ∧
      (addScene platform present assembly scene.members).2.shared = assembly.shared := by
  let assigned := assembly.roster.assign (scene.members.stringAt "name")
  let named : Assembly := { assembly with roster := assigned.2 }
  let filled := placeEntries platform present (scene.members.elementsAt "sources") [] named
  rcases exists_settled_placeEntries platform present named []
    (scene.members.elementsAt "sources") with ⟨entries, all, ⟨records, names⟩, shared, items⟩
  let settled : SettledScene := ⟨scene.members, assigned.1, entries⟩
  have isRecord : (Source.Record.scene assigned.1).withItems filled.1 = settled.record :=
    congrArg _ (items.trans (List.append_nil _))
  refine ⟨settled, ⟨rfl, all⟩, ⟨?_, ?_⟩, shared⟩
  · have added : (addScene platform present assembly scene.members).2.records =
        filled.2.records ++ [(Source.Record.scene assigned.1).withItems filled.1] := rfl
    rw [added, isRecord, records, List.append_assoc]
    rfl
  · have asked : settled.wanted = scene.members.stringAt "name" :: entries.wanted := rfl
    rw [asked, Roster.assignAll_cons, names]
    rfl

theorem exists_settled_addScenes (platform : Platform) (present : List String)
    (assembly : Assembly) (scenes : List Value) :
    ∃ settled, List.Forall₂ (SettlesScene platform assembly.shared) scenes settled ∧
      assembly.Grows (settled.flatMap SettledScene.records) (settled.flatMap SettledScene.wanted)
        (settled.flatMap SettledScene.given) (addScenes platform present scenes assembly).2 := by
  induction scenes generalizing assembly with
  | nil => exact ⟨[], .nil, .nil assembly⟩
  | cons scene rest induction =>
      rcases exists_settled_addScene platform present assembly scene with
        ⟨first, settles, grows, shared⟩
      rcases induction (addScene platform present assembly scene.members).2 with
        ⟨others, settleOthers, growsRest⟩
      rw [shared] at settleOthers
      exact ⟨first :: others, .cons settles settleOthers, grows.append growsRest⟩

/-! ## Reports -/

/-- What has become of the shared entries and of the scenes of a scene text. -/
structure Report where
  shared : Settled
  scenes : List SettledScene

namespace Report

def records (report : Report) : List Source.Record :=
  report.shared.records ++ report.scenes.flatMap SettledScene.records

def wanted (report : Report) : List String :=
  report.shared.wanted ++ report.scenes.flatMap SettledScene.wanted

def given (report : Report) : List String :=
  report.shared.records.map (·.name) ++ report.scenes.flatMap SettledScene.given

structure IsOf (report : Report) (platform : Platform) (present : List String)
    (blocks : Members) : Prop where
  shared : SettlesAll platform [] (blocks.elementsAt "globals") report.shared
  scenes : List.Forall₂ (SettlesScene platform report.shared.assigned)
    (blocks.elementsAt "scenes") report.scenes
  names : ((Roster.mk present).assignAll report.wanted).1 = report.given

end Report

/-- Every import can be reported, and the report says which records it adds. -/
theorem exists_report (platform : Platform) (present : List String) (blocks : Members) :
    ∃ report : Report, report.IsOf platform present blocks ∧
      (additions platform present blocks).records = report.records := by
  rcases exists_settled_foldl_addShared platform present { roster := ⟨present⟩ }
    (blocks.elementsAt "globals") with ⟨shared, settlesShared, takes, assigned⟩
  rcases exists_settled_addScenes platform present (withShared platform present blocks)
    (blocks.elementsAt "scenes") with ⟨scenes, settlesScenes, grows⟩
  have table : (withShared platform present blocks).shared = shared.assigned := by
    rw [withShared, assigned, List.append_nil]
  have whole := Assembly.Grows.append takes grows
  rw [table] at settlesScenes
  exact ⟨⟨shared, scenes⟩, ⟨settlesShared, settlesScenes, congrArg Prod.fst whole.names⟩,
    whole.records⟩

end BroadcastScenes.ObsClassic
