import BroadcastScenes.Proofs.AdaptedRecords
import BroadcastScenes.Proofs.AppendingImport
import BroadcastScenes.Proofs.ObsClassic.AddedRecords
import BroadcastScenes.Proofs.XSplit.AddedRecords

/-!
# Native records

Presentations and scene texts are imported for a platform, so what they bring in is native there
from the start. A tree has the identifiers of the platform that it was saved on, and is adapted for
that reason.
-/

namespace BroadcastScenes

open Source (IsNativeId isNativeId_sceneId)

/-- The identifier of the record belongs to no kind, or the platform handles it as that kind. -/
def IsNative (platform : Platform) (record : Value) : Prop := IsNativeId platform (recordId record)

theorem IsNative.isAdapted {platform : Platform} {record : Value}
    (native : IsNative platform record) : IsAdapted platform record :=
  fun kind isKind _ => native kind isKind

theorem XSplit.isNativeId_of_mem_additions {setting : Setting} {inUse : List String}
    {root : Markup.Tag} {record : Source.Record}
    (member : record ∈ (additions setting inUse root).records) :
    IsNativeId setting.platform record.id := by
  rcases exists_of_mem_additions member with ⟨name, items, rfl⟩ | ⟨attributes, name, rfl⟩
  · exact isNativeId_sceneId _
  · exact (isSetupId_sourceRecord _ attributes name).isNativeId

theorem ObsClassic.isNativeId_of_mem_additions {platform : Platform} {present : List String}
    {blocks : Members} {record : Source.Record}
    (member : record ∈ (additions platform present blocks).records) :
    IsNativeId platform record.id := by
  apply forall_mem_additions _ _ present record member
  · intro entry _ setup name own
    exact (isSetupId_of_setup? own).isNativeId
  · intro name items _
    exact isNativeId_sceneId _

/-- No record that an import brings in from a presentation or from a scene text has to be adapted to
the platform that it was imported for. -/
theorem new_records_are_native (program : Program) (request : Request)
    (collection result : Collection)
    (writesIds : program = .xsplitBroadcaster ∨ program = .obsClassic)
    (imported : program.importFile request collection = .ok result) :
    (∀ record ∈ collection.newRecords result, IsNative request.setting.platform record) ∧
      collection.newRecords (result.adapt request.setting.platform) =
        collection.newRecords result := by
  have appends : program.Appends := by
    rintro rfl
    rcases writesIds with isXSplit | isClassic <;> contradiction
  rcases program.importFile_eq_ok appends imported with ⟨content, reading, rfl⟩
  have native : ∀ record ∈ collection.newRecords (content.importInto request collection),
      IsNative request.setting.platform record := by
    rw [Content.newRecords_importInto, List.forall_mem_map]
    intro record member
    cases content with
    | presentation root => exact XSplit.isNativeId_of_mem_additions member
    | sceneText blocks => exact ObsClassic.isNativeId_of_mem_additions member
    | tree root =>
        rw [← Content.program_eq_of_read reading] at writesIds
        rcases writesIds with isXSplit | isClassic <;> contradiction
  refine ⟨native, ?_⟩
  rw [Collection.newRecords, Collection.records_adapt, ← List.map_drop]
  refine Eq.trans (List.map_congr_left ?_) (List.map_id _)
  intro record member
  exact (native record member).isAdapted.adaptRecord_eq

def presentationRequest : Request where
  path := ⟨"/show.bpres"⟩
  input := "<configuration>\n<placement>\n<item type=\"7\"/>\n" ++
    "<item type=\"2\" itemaudio=\"mic\"/>\n</placement>\n</configuration>"
  setting := { platform := .linux }

theorem new_records_are_native_presentation :
    let collection : Collection :=
      ⟨[("sources", .array [.object [("id", .string "dshow_input")]])]⟩
    ∃ result, Program.xsplitBroadcaster.importFile presentationRequest collection = .ok result ∧
      result.records.map recordId = ["dshow_input", "scene", "", "pulse_input_capture"] ∧
      (∀ record ∈ collection.newRecords result, IsNative .linux record) ∧
      collection.newRecords (result.adapt .linux) = collection.newRecords result := by
  intro collection
  have ids : (Program.xsplitBroadcaster.importFile presentationRequest collection).map
      (fun result => result.records.map recordId) =
        .ok ["dshow_input", "scene", "", "pulse_input_capture"] := by
    decide +kernel
  rcases exists_of_map_eq_ok ids with ⟨result, imported, resultIds⟩
  exact ⟨result, imported, resultIds,
    new_records_are_native .xsplitBroadcaster presentationRequest collection result (.inl rfl)
      imported⟩

end BroadcastScenes
