import BroadcastScenes.Importer
import BroadcastScenes.Proofs.CollectionRecords

/-!
# Imports that append

Three of the four programs add to the collection that is open. Their imports have the same shape:
the text is read, what is read adds records behind those that are there, the collection gets its
name, and Streamlabs adapts all records at the end. What holds of the additions holds of all
imports.
-/

namespace BroadcastScenes

namespace Program

/-- Imports of the program add to a collection, where OBS Studio replaces it. -/
def Appends (program : Program) : Prop := program ≠ .obsStudio

instance (program : Program) : Decidable program.Appends :=
  inferInstanceAs (Decidable (program ≠ .obsStudio))

end Program

def Collection.newRecords (earlier later : Collection) : List Value :=
  later.records.drop earlier.records.length

inductive Content where
  | presentation (root : Markup.Tag)
  | tree (root : Members)
  | sceneText (blocks : Members)

namespace Content

def read (program : Program) (input : String) : Except ImportError Content :=
  match program with
  | .obsStudio => .error (.unknownProgram Program.obsStudio.name)
  | .xsplitBroadcaster =>
      match Markup.read input with
      | .error error => .error (.conversion error)
      | .ok none => .error (.invalid Program.xsplitBroadcaster.name "no configuration element")
      | .ok (some root) => .ok (.presentation root)
  | .streamlabs =>
      match Value.parse? input with
      | none => .error .json
      | some root =>
          if Streamlabs.isRoot root then .ok (.tree root.members)
          else .error (.invalid Program.streamlabs.name "top-level nodeType is not RootNode")
  | .obsClassic =>
      match SceneText.read input with
      | .error error => .error (.conversion error)
      | .ok blocks => .ok (.sceneText blocks)

def program : Content → Program
  | presentation _ => .xsplitBroadcaster
  | tree _ => .streamlabs
  | sceneText _ => .obsClassic

theorem program_eq_of_read {program : Program} {input : String} {content : Content}
    (reading : read program input = .ok content) : content.program = program := by
  cases program with
  | obsStudio => cases reading
  | xsplitBroadcaster =>
      rw [read] at reading
      split at reading <;> cases reading
      rfl
  | streamlabs =>
      rw [read] at reading
      split at reading
      · cases reading
      · split at reading <;> cases reading
        rfl
  | obsClassic =>
      rw [read] at reading
      split at reading <;> cases reading
      rfl

def additions (setting : Setting) (inUse : List String) : Content → Additions
  | presentation root => XSplit.additions setting inUse root
  | tree root => Streamlabs.additions inUse root
  | sceneText blocks => ObsClassic.additions setting.platform inUse blocks

def sceneCount : Content → Nat
  | presentation root => (root.childrenOfKind "placement").length
  | tree root => (root.itemsAt "scenes").length
  | sceneText blocks => (blocks.elementsAt "scenes").length

/-- Of the records that an import appends, those that stand for the scenes of the file: the first
ones for a presentation, those behind the sources for a tree, and the scenes among them for a scene
text, whose sources stand between them. -/
def sceneRecords (appended : List Value) : Content → List Value
  | presentation root => appended.take (root.childrenOfKind "placement").length
  | tree root => appended.drop (root.itemsAt "sources").length
  | sceneText _ => appended.filter fun record => record.members.stringAt "id" == Source.sceneId

def newScenes (content : Content) (collection result : Collection) : List Value :=
  content.sceneRecords (collection.newRecords result)

def defaultName (request : Request) : Content → String
  | presentation _ => XSplit.defaultName
  | tree _ => Streamlabs.collectionName request.path request.disk
  | sceneText _ => request.path.stem

def finish (setting : Setting) (collection : Collection) : Content → Collection
  | presentation _ => collection
  | tree _ => collection.adapt setting.platform
  | sceneText _ => collection

def importInto (request : Request) (collection : Collection) (content : Content) : Collection :=
  content.finish request.setting
    ((collection.extend (content.additions request.setting collection.recordNames)).rename
      (request.name.getD (content.defaultName request)))

def finishRecord (setting : Setting) (record : Value) : Content → Value
  | presentation _ => record
  | tree _ => adaptRecord setting.platform record
  | sceneText _ => record

@[simp] theorem recordName_finishRecord (content : Content) (setting : Setting) (record : Value) :
    Collection.recordName (content.finishRecord setting record) =
      Collection.recordName record := by
  cases content with
  | presentation root => rfl
  | tree root => exact recordName_adaptRecord _ _
  | sceneText blocks => rfl

theorem finishRecord_scene (content : Content) (setting : Setting) {scene : Source.Record}
    (isScene : scene.id = Source.sceneId) :
    content.finishRecord setting scene.toValue = scene.toValue := by
  cases content with
  | presentation root => rfl
  | tree root => exact adaptRecord_scene _ isScene
  | sceneText blocks => rfl

theorem records_finish (content : Content) (setting : Setting) (collection : Collection) :
    (content.finish setting collection).records =
      collection.records.map fun record => content.finishRecord setting record := by
  cases content with
  | presentation root => exact (List.map_id _).symm
  | tree root => exact Collection.records_adapt _ _
  | sceneText blocks => exact (List.map_id _).symm

theorem records_importInto (content : Content) (request : Request) (collection : Collection) :
    (content.importInto request collection).records =
      (collection.records.map fun record => content.finishRecord request.setting record) ++
      ((content.additions request.setting collection.recordNames).records.map fun record =>
        content.finishRecord request.setting record.toValue) := by
  rw [importInto, records_finish, Collection.records_rename, Collection.records_extend,
    List.map_append, List.map_map]
  rfl

theorem newRecords_importInto (content : Content) (request : Request)
    (collection : Collection) :
    collection.newRecords (content.importInto request collection) =
      (content.additions request.setting collection.recordNames).records.map fun record =>
        content.finishRecord request.setting record.toValue := by
  rw [Collection.newRecords, records_importInto]
  apply List.drop_left'
  exact List.length_map _

theorem map_recordName_newRecords (content : Content) (request : Request)
    (collection : Collection) :
    (collection.newRecords (content.importInto request collection)).map Collection.recordName =
      (content.additions request.setting collection.recordNames).records.map (·.name) := by
  rw [newRecords_importInto, List.map_map]
  apply List.map_congr_left
  intro record _
  exact recordName_finishRecord _ _ _

theorem recordNames_importInto (content : Content) (request : Request) (collection : Collection) :
    (content.importInto request collection).recordNames =
      collection.recordNames ++
      (content.additions request.setting collection.recordNames).records.map (·.name) := by
  rw [Collection.recordNames, records_importInto, List.map_append, List.map_map, List.map_map]
  congr 1
  · apply List.map_congr_left
    intro record _
    exact recordName_finishRecord _ _ _
  · apply List.map_congr_left
    intro record _
    exact recordName_finishRecord _ _ _

end Content

theorem exists_of_map_eq_ok {attempt : Except ε α} {change : α → β} {changed : β}
    (equal : attempt.map change = .ok changed) :
    ∃ value, attempt = .ok value ∧ change value = changed := by
  cases attempt with
  | error error => cases equal
  | ok value => exact ⟨value, rfl, Except.ok.inj equal⟩

theorem exists_of_bind_eq_ok {attempt : Except ε α} {next : α → Except ε β} {result : β}
    (succeeded : attempt >>= next = .ok result) :
    ∃ value, attempt = .ok value ∧ next value = .ok result := by
  cases attempt with
  | error error => cases succeeded
  | ok value => exact ⟨value, rfl, succeeded⟩

theorem eq_error_or_exists_of_bind {attempt : Except ε α} {next : α → Except ε β} {error : ε}
    (failed : attempt >>= next = .error error) :
    attempt = .error error ∨ ∃ value, attempt = .ok value ∧ next value = .error error := by
  cases attempt with
  | error other => exact .inl (congrArg Except.error (Except.error.inj failed))
  | ok value => exact .inr ⟨value, rfl, failed⟩

/-- An import that appends is its reading step, which alone can fail, and what follows from it. -/
theorem Program.importFile_eq_map_read {program : Program} (appends : program.Appends)
    (request : Request) (collection : Collection) :
    program.importFile request collection =
      (Content.read program request.input).map fun content =>
        content.importInto request collection := by
  cases program with
  | obsStudio => exact absurd rfl appends
  | xsplitBroadcaster =>
      rw [importFile, XSplit.importFile, Content.read]
      rcases Markup.read request.input with error | (_ | root) <;> rfl
  | streamlabs =>
      rw [importFile, Streamlabs.importFile, Content.read]
      rcases Value.parse? request.input with _ | root
      · rfl
      · cases isRoot : Streamlabs.isRoot root <;> simp [isRoot] <;> rfl
  | obsClassic =>
      rw [importFile, ObsClassic.importFile, Content.read]
      rcases SceneText.read request.input with error | blocks <;> rfl

theorem Program.importFile_eq_ok {program : Program} (appends : program.Appends)
    {request : Request} {collection result : Collection}
    (imported : program.importFile request collection = .ok result) :
    ∃ content, Content.read program request.input = .ok content ∧
      content.importInto request collection = result := by
  rw [importFile_eq_map_read appends] at imported
  exact exists_of_map_eq_ok imported

/-! ## Imports of scene texts -/

theorem ObsClassic.importFile_of_read {request : Request} {blocks : Members}
    (reading : SceneText.read request.input = .ok blocks) (collection : Collection) :
    Program.obsClassic.importFile request collection =
      .ok ((Content.sceneText blocks).importInto request collection) := by
  rw [Program.importFile, importFile, reading]
  rfl

theorem ObsClassic.exists_read_of_importFile {request : Request} {collection result : Collection}
    (imported : Program.obsClassic.importFile request collection = .ok result) :
    ∃ blocks, SceneText.read request.input = .ok blocks := by
  cases reading : SceneText.read request.input with
  | error error =>
      rw [Program.importFile, importFile, reading] at imported
      cases imported
  | ok blocks => exact ⟨blocks, rfl⟩

theorem Content.records_importInto_sceneText (blocks : Members) (request : Request)
    (collection : Collection) :
    ((sceneText blocks).importInto request collection).records = collection.records ++
      (ObsClassic.additions request.setting.platform collection.recordNames
        blocks).records.map Source.Record.toValue := by
  have unchanged : (collection.records.map fun record =>
      (sceneText blocks).finishRecord request.setting record) = collection.records :=
    List.map_id _
  rw [records_importInto, unchanged]
  rfl

theorem Content.importInto_sceneText_congr {left right : Members} {request : Request}
    {collection : Collection}
    (same : ObsClassic.additions request.setting.platform collection.recordNames left =
      ObsClassic.additions request.setting.platform collection.recordNames right) :
    (sceneText left).importInto request collection =
      (sceneText right).importInto request collection := by
  have additions : (sceneText left).additions request.setting collection.recordNames =
      (sceneText right).additions request.setting collection.recordNames := same
  rw [importInto, importInto, additions]
  rfl

end BroadcastScenes
