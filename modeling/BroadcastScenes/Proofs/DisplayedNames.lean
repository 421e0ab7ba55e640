import BroadcastScenes.Proofs.Dispatch
import BroadcastScenes.Proofs.KeptMembers

/-!
# Displayed names

A file can be shown with the name of its collection before it is imported. The import looks for the
name again, on a way of its own, and adds records and adapts them around the place where it writes
the name. A name that is chosen for the import comes in the place of the one that was shown.
-/

namespace BroadcastScenes

namespace Collection

theorem name_rename (collection : Collection) (name : String) :
    (collection.rename name).name = name := by
  rw [Collection.name, Members.stringAt, rename, Entries.find?_insert_self]
  rfl

theorem WritesOnly.name_eq {keys : List String} {earlier later : Collection}
    (writes : earlier.WritesOnly keys later) (notWritten : "name" ∉ keys) :
    later.name = earlier.name := by
  rw [name, Members.stringAt, writes.members _ notWritten, ← Members.stringAt, ← name]

theorem parse?_of_parse {text : String} {document : Collection}
    (parsed : parse text = .ok document) : Value.parse? text = some (.object document.root) := by
  rw [parse] at parsed
  split at parsed
  · cases parsed
  · rename_i value reading
    cases value with
    | object root =>
        cases parsed
        exact reading
    | _ => cases parsed

theorem writesOnly_adapt (collection : Collection) (platform : Platform) :
    collection.WritesOnly ["sources"] (collection.adapt platform) :=
  collection.writesOnly_insert List.mem_cons_self _

end Collection

namespace Content

variable {content : Content} {request : Request}

/-- The name is written between the additions and the last step, which writes records only. -/
theorem name_importInto (collection : Collection) :
    (content.importInto request collection).name =
      request.name.getD (content.defaultName request) := by
  rw [importInto, (content.writesOnly_finish _ _).name_eq (by decide), Collection.name_rename]

theorem collectionName?_of_read {program : Program}
    (reading : Content.read program request.input = .ok content) :
    program.collectionName? request.path request.input request.disk =
      some (content.defaultName request) := by
  rw [← program_eq_of_read reading]
  cases content with
  | presentation root => rfl
  | tree root => rfl
  | sceneText blocks => rfl

end Content

theorem ObsStudio.exists_name_of_importFile {request : Request} {result : Collection}
    (imported : importFile request = .ok result) :
    ∃ found, collectionName? request.input = some found ∧
      result.name = request.name.getD found := by
  rw [importFile] at imported
  rcases exists_of_bind_eq_ok imported with ⟨document, parsed, checked⟩
  refine ⟨document.name, ?_, ?_⟩
  · rw [collectionName?, Collection.parse?_of_parse parsed]
    rfl
  · split at checked <;> cases checked
    rw [(Collection.writesOnly_adapt _ _).name_eq (by decide)]
    cases request.name with
    | none => rfl
    | some chosen => exact Collection.name_rename _ _

theorem Program.exists_name_of_importFile {program : Program} {request : Request}
    {collection result : Collection}
    (imported : program.importFile request collection = .ok result) :
    ∃ found, program.collectionName? request.path request.input request.disk = some found ∧
      result.name = request.name.getD found := by
  by_cases appends : program.Appends
  · rcases importFile_eq_ok appends imported with ⟨content, reading, rfl⟩
    exact ⟨content.defaultName request, Content.collectionName?_of_read reading,
      Content.name_importInto collection⟩
  · obtain rfl : program = .obsStudio := not_not.mp appends
    exact ObsStudio.exists_name_of_importFile imported

/-- An import without a chosen name leaves the name that the file was displayed with, and an import
with a chosen one leaves that. -/
theorem displayed_name_is_imported (importer : Importer) (path : Path) (program : Program)
    (collection : Collection) :
    (∀ result, importer.importScenesAs path program.name none collection = .ok result →
      importer.collectionName path program = .ok result.name) ∧
    ∀ chosen result,
      importer.importScenesAs path program.name (some chosen) collection = .ok result →
        result.name = chosen := by
  constructor
  · intro result imported
    rcases Importer.exists_read_of_importScenesAs imported with
      ⟨input, reading, member, filed⟩
    rcases Program.exists_name_of_importFile filed with ⟨found, displayed, named⟩
    change program.collectionName? path input importer.disk = some found at displayed
    have registered : importer.has program = true := List.contains_iff_mem.mpr member
    rw [Importer.collectionName, if_pos registered, reading]
    change Except.ok ((program.collectionName? path input importer.disk).getD "") = _
    rw [displayed, named]
    rfl
  · intro chosen result imported
    rcases Importer.exists_read_of_importScenesAs imported with ⟨input, _, _, filed⟩
    rcases Program.exists_name_of_importFile filed with ⟨found, _, named⟩
    exact named

def listedTree : Disk where
  files := [(⟨"/shows/late.json"⟩, .text "\x7b\"nodeType\":\"RootNode\",\"name\":\"Late\"\x7d"),
    (⟨"/shows/manifest.json"⟩, .text ("\x7b\"collections\":[" ++
      "\x7b\"id\":\"late\",\"name\":\"Evening\"\x7d," ++
      "\x7b\"id\":\"late\",\"name\":\"Night\"\x7d]\x7d"))]

theorem displayed_name_is_imported_listed_tree :
    let importer : Importer := { disk := listedTree }
    (∃ result, result.name = "Evening" ∧
      importer.importScenesAs ⟨"/shows/late.json"⟩ "Streamlabs" none {} = .ok result ∧
      importer.collectionName ⟨"/shows/late.json"⟩ .streamlabs = .ok result.name) ∧
    ∃ result, importer.importScenesAs ⟨"/shows/late.json"⟩ "Streamlabs" (some "Dawn") {} =
        .ok result ∧ result.name = "Dawn" := by
  intro importer
  constructor
  · have names : (importer.importScenesAs ⟨"/shows/late.json"⟩ "Streamlabs" none {}).map
        Collection.name = .ok "Evening" := by decide +kernel
    rcases exists_of_map_eq_ok names with ⟨result, imported, named⟩
    exact ⟨result, named, imported,
      (displayed_name_is_imported importer _ .streamlabs {}).1 result imported⟩
  · have succeeds : (importer.importScenesAs ⟨"/shows/late.json"⟩ "Streamlabs" (some "Dawn")
        {}).map (fun _ => ()) = .ok () := by decide +kernel
    rcases exists_of_map_eq_ok succeeds with ⟨result, imported, _⟩
    exact ⟨result, imported,
      (displayed_name_is_imported importer _ .streamlabs {}).2 "Dawn" result imported⟩

end BroadcastScenes
