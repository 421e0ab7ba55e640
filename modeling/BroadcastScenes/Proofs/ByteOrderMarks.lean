import BroadcastScenes.Proofs.DisplayedNames
import BroadcastScenes.Proofs.Json.FirstCharacters

/-!
# Byte-order marks

A file may start with a byte-order mark, which an importer takes away when it reads the file. The
file that Streamlabs lists its collections in is read on another way, on which the mark stays. It is
no JSON then, and an import does not find the name of its collection.
-/

namespace BroadcastScenes

/-! ## Marked disks -/

def withByteOrderMark (text : String) : String :=
  if text.toList.head? = some '\uFEFF' then text else String.ofList ('\uFEFF' :: text.toList)

theorem head?_withByteOrderMark (text : String) :
    (withByteOrderMark text).toList.head? = some '\uFEFF' := by
  rw [withByteOrderMark]
  split
  · assumption
  · rw [String.toList_ofList, List.head?_cons]

theorem Importer.dropByteOrderMark_withByteOrderMark (text : String) :
    dropByteOrderMark (withByteOrderMark text) = dropByteOrderMark text := by
  rw [withByteOrderMark]
  split
  · rfl
  · rename_i unmarked
    have kept : dropByteOrderMark text = text := by
      rw [dropByteOrderMark]
      split
      · rename_i rest equal
        rw [equal] at unmarked
        exact absurd rfl unmarked
      · rfl
    rw [kept, dropByteOrderMark, String.toList_ofList]
    exact String.ofList_toList

def Contents.marked : Contents → Contents
  | .text written => .text (withByteOrderMark written)
  | .unreadable reason => .unreadable reason

namespace Disk

def marking (chosen : Path → Bool) (disk : Disk) : Disk :=
  { disk with files := disk.files.map fun file =>
      (file.1, if chosen file.1 then file.2.marked else file.2) }

theorem contents?_marking (chosen : Path → Bool) (disk : Disk) (path : Path) :
    (disk.marking chosen).contents? path = (disk.contents? path).map fun contents =>
      if chosen path then contents.marked else contents := by
  rw [contents?, contents?, marking]
  induction disk.files with
  | nil => rfl
  | cons file rest induction =>
      rw [List.map_cons, List.lookup_cons, List.lookup_cons]
      by_cases equal : path = file.1
      · rw [equal, beq_self_eq_true]
        rfl
      · rw [beq_false_of_ne equal]
        exact induction

theorem text?_marking (chosen : Path → Bool) (disk : Disk) (path : Path) :
    (disk.marking chosen).text? path = (disk.text? path).map fun text =>
      if chosen path then withByteOrderMark text else text := by
  rw [text?, text?, contents?_marking]
  rcases disk.contents? path with _ | (text | reason)
  · rfl
  · cases chosen path <;> rfl
  · cases chosen path <;> rfl

end Disk

/-- No JSON starts with a byte-order mark, not even a blank one. -/
theorem Value.parse?_of_head?_eq {text : String} (marked : text.toList.head? = some '\uFEFF') :
    Value.parse? text = none := parse?_eq_none_of_head? marked (by decide) (by decide)

theorem Streamlabs.manifestName?_marking (chosen : Path → Bool) (path : Path) (disk : Disk) :
    manifestName? path (disk.marking chosen) =
      if (path.parent?.any fun directory => chosen (directory.join manifestFile)) then none
      else manifestName? path disk := by
  rw [manifestName?, manifestName?]
  cases path.parent? with
  | none => rfl
  | some directory =>
      change ((disk.marking chosen).text? (directory.join manifestFile) >>= _) =
        if chosen (directory.join manifestFile) then none
        else disk.text? (directory.join manifestFile) >>= _
      rw [Disk.text?_marking]
      cases isChosen : chosen (directory.join manifestFile) with
      | false =>
          cases disk.text? (directory.join manifestFile) <;> rfl
      | true =>
          cases disk.text? (directory.join manifestFile) with
          | none => rfl
          | some text =>
              change (Value.parse? (withByteOrderMark text) >>= _) = none
              rw [Value.parse?_of_head?_eq (head?_withByteOrderMark text)]
              rfl

/-! ## Lost names -/

namespace Streamlabs

/-- The file that lists the collections is one of those that get a mark, and it has a name for the
file other than the one that a file without a name gets. -/
def LosesName (chosen : Path → Bool) (path : Path) (disk : Disk) : Prop :=
  (path.parent?.any fun directory => chosen (directory.join manifestFile)) = true ∧
    collectionName path disk ≠ unknownName

variable {chosen : Path → Bool} {path : Path} {disk : Disk}

theorem collectionName_marking_of_losesName (loses : LosesName chosen path disk) :
    collectionName path (disk.marking chosen) = unknownName := by
  rw [collectionName, manifestName?_marking, if_pos loses.1]
  rfl

theorem collectionName_marking_of_not_losesName (keeps : ¬LosesName chosen path disk) :
    collectionName path (disk.marking chosen) = collectionName path disk := by
  by_cases listMarked : (path.parent?.any fun directory =>
      chosen (directory.join manifestFile)) = true
  · have unknown : collectionName path disk = unknownName :=
      not_not.mp fun known => keeps ⟨listMarked, known⟩
    rw [unknown, collectionName, manifestName?_marking, if_pos listMarked]
    rfl
  · rw [collectionName, manifestName?_marking, if_neg listMarked, collectionName]

end Streamlabs

namespace Program

theorem importFile_congr {program : Program} (appends : program.Appends) (request other : Request)
    (input : other.input = request.input) (setting : other.setting = request.setting)
    (named : ∀ content : Content, content.program = program →
      other.name.getD (content.defaultName other) = request.name.getD (content.defaultName request))
    (collection : Collection) :
    program.importFile other collection = program.importFile request collection := by
  rw [importFile_eq_map_read appends, importFile_eq_map_read appends, input]
  cases reading : Content.read program request.input with
  | error error => rw [Except.map, Except.map]
  | ok content =>
      have sameName := named content (Content.program_eq_of_read reading)
      have sameResult : content.importInto other collection =
          content.importInto request collection := by
        rw [Content.importInto, Content.importInto, setting, sameName]
      rw [Except.map, Except.map, sameResult]

variable {chosen : Path → Bool} {request : Request}

theorem importFile_marking (program : Program)
    (keeps : ¬(Streamlabs.LosesName chosen request.path request.disk ∧ request.name = none ∧
      program = .streamlabs)) (collection : Collection) :
    program.importFile { request with disk := request.disk.marking chosen } collection =
      program.importFile request collection := by
  by_cases appends : program.Appends
  · apply importFile_congr appends request { request with disk := request.disk.marking chosen }
      rfl rfl
    intro content isContent
    cases content with
    | presentation root => rfl
    | sceneText blocks => rfl
    | tree root =>
        cases isChosen : request.name with
        | some name => rfl
        | none =>
            have kept := Streamlabs.collectionName_marking_of_not_losesName
              fun loses => keeps ⟨loses, isChosen, isContent.symm⟩
            exact kept
  · obtain rfl : program = .obsStudio := not_not.mp appends
    rfl

theorem importFile_marking_of_losesName
    (loses : Streamlabs.LosesName chosen request.path request.disk)
    (isNotNamed : request.name = none) (collection : Collection) :
    streamlabs.importFile { request with disk := request.disk.marking chosen } collection =
      streamlabs.importFile { request with name := some Streamlabs.unknownName } collection := by
  apply importFile_congr (by decide) { request with name := some Streamlabs.unknownName }
    { request with disk := request.disk.marking chosen } rfl rfl
  intro content isContent
  cases content with
  | presentation root => cases isContent
  | sceneText blocks => cases isContent
  | tree root =>
      rw [isNotNamed]
      exact Streamlabs.collectionName_marking_of_losesName loses

theorem name_eq_of_importFile_streamlabs {collection result : Collection}
    (imported : streamlabs.importFile request collection = .ok result) :
    result.name = request.name.getD (Streamlabs.collectionName request.path request.disk) := by
  rcases exists_name_of_importFile imported with ⟨found, displayed, named⟩
  cases displayed
  exact named

/-- The marks make a difference to an import only if it would have taken up the name that is lost.
One that fails does so with the same error. -/
theorem importFile_marking_eq_iff (program : Program) (chosen : Path → Bool) (request : Request)
    (collection : Collection) :
    program.importFile { request with disk := request.disk.marking chosen } collection =
        program.importFile request collection ↔
      ¬(Streamlabs.LosesName chosen request.path request.disk ∧ request.name = none ∧
        program = .streamlabs ∧ ∃ result, program.importFile request collection = .ok result) := by
  constructor
  · rintro same ⟨loses, isNotNamed, rfl, result, imported⟩
    rw [importFile_marking_of_losesName loses isNotNamed, imported] at same
    have unnamed : result.name = Streamlabs.unknownName := name_eq_of_importFile_streamlabs same
    have named := name_eq_of_importFile_streamlabs imported
    rw [isNotNamed, unnamed] at named
    exact loses.2 named.symm
  · intro keeps
    by_cases changes : Streamlabs.LosesName chosen request.path request.disk ∧
        request.name = none ∧ program = .streamlabs
    · rcases changes with ⟨loses, isNotNamed, rfl⟩
      rw [importFile_eq_map_read (by decide), importFile_eq_map_read (by decide)]
      cases reading : Content.read .streamlabs request.input with
      | error error => rw [Except.map, Except.map]
      | ok content =>
          have imported : streamlabs.importFile request collection =
              .ok (content.importInto request collection) := by
            rw [importFile_eq_map_read (by decide), reading, Except.map]
          exact absurd ⟨loses, isNotNamed, rfl, _, imported⟩ keeps
    · exact importFile_marking program changes collection

end Program

theorem Edit.answering_eq_answering_iff {answer : α}
    {attempt other : Collection → Except ImportError Collection} {collection : Collection} :
    answering answer attempt collection = answering answer other collection ↔
      attempt collection = other collection := by
  rw [answering, answering]
  cases attempt collection <;> cases other collection <;> simp [bind, Except.bind]

theorem Edit.answering_eq_ok_iff {answer found : α}
    {attempt : Collection → Except ImportError Collection} {collection result : Collection} :
    answering answer attempt collection = .ok (found, result) ↔
      answer = found ∧ attempt collection = .ok result := by
  rw [answering]
  cases attempt collection <;> simp [bind, Except.bind]

namespace Importer

def marking (chosen : Path → Bool) (importer : Importer) : Importer :=
  { importer with disk := importer.disk.marking chosen }

variable (importer : Importer) (chosen : Path → Bool) (path : Path)

theorem read_marking : (importer.marking chosen).read path = importer.read path := by
  have contents : (importer.marking chosen).disk.contents? path =
      (importer.disk.contents? path).map fun contents =>
        if chosen path then contents.marked else contents :=
    Disk.contents?_marking chosen importer.disk path
  rw [read, read, contents]
  rcases importer.disk.contents? path with _ | (text | reason)
  · rfl
  · cases chosen path with
    | false => rfl
    | true => exact congrArg Except.ok (dropByteOrderMark_withByteOrderMark text)
  · cases chosen path <;> rfl

theorem detect_marking : (importer.marking chosen).detect path = importer.detect path := by
  rw [detect, read_marking, detect]
  rfl

theorem collectionName_marking_of_losesName
    (loses : Streamlabs.LosesName chosen path importer.disk) :
    (importer.marking chosen).collectionName path .streamlabs =
      (importer.collectionName path .streamlabs).map fun _ => Streamlabs.unknownName := by
  have has : (importer.marking chosen).has .streamlabs = importer.has .streamlabs := rfl
  rw [collectionName, collectionName, read_marking, has]
  cases importer.has .streamlabs with
  | false => rfl
  | true =>
      cases importer.read path with
      | error error => rfl
      | ok input =>
          exact congrArg Except.ok (Streamlabs.collectionName_marking_of_losesName loses)

theorem collectionName_marking {program : Program}
    (keeps : ¬(Streamlabs.LosesName chosen path importer.disk ∧ program = .streamlabs)) :
    (importer.marking chosen).collectionName path program =
      importer.collectionName path program := by
  have found : ∀ input, program.collectionName? path input (importer.disk.marking chosen) =
      program.collectionName? path input importer.disk := by
    intro input
    cases program with
    | obsStudio => rfl
    | xsplitBroadcaster => rfl
    | obsClassic => rfl
    | streamlabs =>
        have kept := Streamlabs.collectionName_marking_of_not_losesName
          fun loses => keeps ⟨loses, rfl⟩
        exact congrArg some kept
  have has : (importer.marking chosen).has program = importer.has program := rfl
  have disk : (importer.marking chosen).disk = importer.disk.marking chosen := rfl
  simp only [collectionName, read_marking, has, disk, found]

theorem eq_of_collectionName_streamlabs {importer : Importer} {path : Path} {name : String}
    (displayed : importer.collectionName path .streamlabs = .ok name) :
    name = Streamlabs.collectionName path importer.disk := by
  rw [collectionName] at displayed
  split at displayed
  · rcases exists_of_bind_eq_ok displayed with ⟨input, _, equal⟩
    exact (Except.ok.inj equal).symm
  · cases displayed

theorem collectionName_marking_eq_iff (program : Program) :
    (importer.marking chosen).collectionName path program =
        importer.collectionName path program ↔
      ¬(Streamlabs.LosesName chosen path importer.disk ∧ program = .streamlabs ∧
        ∃ name, importer.collectionName path program = .ok name) := by
  by_cases changes : Streamlabs.LosesName chosen path importer.disk ∧ program = .streamlabs
  · rcases changes with ⟨loses, rfl⟩
    rw [importer.collectionName_marking_of_losesName chosen path loses]
    cases displayed : importer.collectionName path .streamlabs with
    | error error => simp [Except.map]
    | ok name =>
        have known : name ≠ Streamlabs.unknownName := by
          rw [eq_of_collectionName_streamlabs displayed]
          exact loses.2
        simp [Except.map, loses, known.symm]
  · rw [importer.collectionName_marking chosen path changes]
    simp only [true_iff]
    rintro ⟨loses, isStreamlabs, _⟩
    exact changes ⟨loses, isStreamlabs⟩

theorem importScenes_marking_eq_iff (name : Option String) (collection : Collection) :
    (importer.marking chosen).importScenes path name collection =
        importer.importScenes path name collection ↔
      ¬(Streamlabs.LosesName chosen path importer.disk ∧ name = none ∧
        ∃ result, importer.importScenes path name collection = .ok (.streamlabs, result)) := by
  have sameDetection := importer.detect_marking chosen path
  cases detected : importer.detect path with
  | error error =>
      rw [importScenes_of_detect_error detected,
        importScenes_of_detect_error (sameDetection.trans detected)]
      simp
  | ok program =>
      rcases exists_read_of_detect detected with ⟨input, reading, found⟩
      have sameReading := (importer.read_marking chosen path).trans reading
      have marks := program.importFile_marking_eq_iff chosen (importer.request path input name)
        collection
      rw [importScenes_of_detectInput? reading found,
        importScenes_of_detectInput? sameReading found,
        Edit.answering_eq_answering_iff]
      simp only [Edit.answering_eq_ok_iff, exists_and_left]
      exact marks

theorem name_eq_of_program {importer : Importer} {programName : String} {program : Program}
    (named : importer.program programName = .ok program) : program.name = programName := by
  rw [Importer.program] at named
  rcases exists_of_bind_eq_ok named with ⟨known, isName, registered⟩
  have equal : known = program := by
    split at registered
    · exact Except.ok.inj registered
    · cases registered
  rw [Program.ofName] at isName
  split at isName
  · rename_i first found
    have matching := List.find?_some found
    rw [← equal, ← Except.ok.inj isName]
    exact beq_iff_eq.mp matching
  · cases isName

theorem importScenesAs_marking_eq_iff (programName : String) (name : Option String)
    (collection : Collection) :
    (importer.marking chosen).importScenesAs path programName name collection =
        importer.importScenesAs path programName name collection ↔
      ¬(Streamlabs.LosesName chosen path importer.disk ∧ name = none ∧
        programName = Program.streamlabs.name ∧
        ∃ result, importer.importScenesAs path programName name collection = .ok result) := by
  have sameProgram : (importer.marking chosen).program programName =
      importer.program programName := rfl
  rw [importScenesAs, importScenesAs, read_marking, sameProgram]
  cases reading : importer.read path with
  | error error => simp [bind, Except.bind]
  | ok input =>
      cases named : importer.program programName with
      | error error => simp [bind, Except.bind]
      | ok program =>
          have marks := program.importFile_marking_eq_iff chosen
            (importer.request path input name) collection
          have isStreamlabs : programName = Program.streamlabs.name ↔ program = .streamlabs := by
            rw [← name_eq_of_program named]
            cases program <;> decide
          rw [isStreamlabs]
          exact marks

theorem importScenesAs_marking_of_losesName
    (loses : Streamlabs.LosesName chosen path importer.disk) (collection : Collection) :
    (importer.marking chosen).importScenesAs path Program.streamlabs.name none collection =
      importer.importScenesAs path Program.streamlabs.name (some Streamlabs.unknownName)
        collection := by
  have sameProgram : (importer.marking chosen).program Program.streamlabs.name =
      importer.program Program.streamlabs.name := rfl
  rw [importScenesAs, importScenesAs, read_marking, sameProgram]
  cases importer.read path with
  | error error => rfl
  | ok input =>
      cases named : importer.program Program.streamlabs.name with
      | error error => rfl
      | ok program =>
          obtain rfl : program = .streamlabs := by
            have name := name_eq_of_program named
            cases program <;> first | rfl | exact absurd name (by decide)
          have isNotNamed : (importer.request path input none).name = none := rfl
          have lost :=
            Program.importFile_marking_of_losesName (by exact loses) isNotNamed collection
          exact lost

/-- How the other importer, whose files have byte-order marks, deals with a file: it finds the
program as before, and it takes up the name of a file without one where the name has been lost. All
else is as without the marks. -/
structure LosesNameOnly (other : Importer) (loses : Prop) : Prop where
  detection : other.detect path = importer.detect path
  display : ∀ program, other.collectionName path program = importer.collectionName path program ↔
    ¬(loses ∧ program = .streamlabs ∧ ∃ name, importer.collectionName path program = .ok name)
  scenes : ∀ name collection,
    other.importScenes path name collection = importer.importScenes path name collection ↔
      ¬(loses ∧ name = none ∧
        ∃ result, importer.importScenes path name collection = .ok (.streamlabs, result))
  scenesAs : ∀ programName name collection,
    other.importScenesAs path programName name collection =
        importer.importScenesAs path programName name collection ↔
      ¬(loses ∧ name = none ∧ programName = Program.streamlabs.name ∧
        ∃ result, importer.importScenesAs path programName name collection = .ok result)
  lostDisplay : loses → other.collectionName path .streamlabs =
    (importer.collectionName path .streamlabs).map fun _ => Streamlabs.unknownName
  lostScenes : loses → ∀ collection,
    other.importScenesAs path Program.streamlabs.name none collection =
      importer.importScenesAs path Program.streamlabs.name (some Streamlabs.unknownName) collection

end Importer

/-- Byte-order marks make no difference to which program a file belongs to, to the name that is
displayed, or to an import, except for this: a tree whose name stands in a list that gets a mark is
displayed and imported as a tree without a name. -/
theorem byte_order_marks_lose_listed_names (importer : Importer) (chosen : Path → Bool)
    (path : Path) :
    importer.LosesNameOnly path (importer.marking chosen)
      (Streamlabs.LosesName chosen path importer.disk) where
  detection := importer.detect_marking chosen path
  display := importer.collectionName_marking_eq_iff chosen path
  scenes := importer.importScenes_marking_eq_iff chosen path
  scenesAs := importer.importScenesAs_marking_eq_iff chosen path
  lostDisplay := importer.collectionName_marking_of_losesName chosen path
  lostScenes := importer.importScenesAs_marking_of_losesName chosen path

def listedShow : Disk where
  files := [(⟨"/c/abc.json"⟩, .text "\x7b\"nodeType\":\"RootNode\"\x7d"),
    (⟨"/c/manifest.json"⟩, .text ("\x7b\"collections\":[" ++
      "\x7b\"id\":\"abc\",\"name\":\"Show\"\x7d]\x7d"))]

theorem byte_order_marks_lose_listed_names_show :
    let importer : Importer := { disk := listedShow }
    let onTree := importer.marking fun path => path == ⟨"/c/abc.json"⟩
    let onList := importer.marking fun path => path == ⟨"/c/manifest.json"⟩
    onTree.collectionName ⟨"/c/abc.json"⟩ .streamlabs = .ok "Show" ∧
      onList.collectionName ⟨"/c/abc.json"⟩ .streamlabs = .ok Streamlabs.unknownName ∧
      importer.LosesNameOnly ⟨"/c/abc.json"⟩ onList
        (Streamlabs.LosesName (fun path => path == ⟨"/c/manifest.json"⟩) ⟨"/c/abc.json"⟩
          importer.disk) := by
  intro importer onTree onList
  exact ⟨by decide +kernel, by decide +kernel, byte_order_marks_lose_listed_names importer _ _⟩

end BroadcastScenes
