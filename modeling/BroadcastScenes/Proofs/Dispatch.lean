import BroadcastScenes.Proofs.Sessions

/-!
# Dispatch

A file is imported as one of the program that recognizes it, or as one of a program that is named.
Several programs may recognize the same text; then the first of the importer counts. Whichever it
is, to name it makes no difference to what an import gives.
-/

namespace BroadcastScenes

namespace Importer

variable {importer : Importer} {path : Path} {input : String} {program : Program}
  {error : ImportError}

theorem mem_programs_of_detectInput? (found : importer.detectInput? input = some program) :
    program ∈ importer.programs := List.mem_of_find?_eq_some found

theorem recognizes_of_detectInput? (found : importer.detectInput? input = some program) :
    program.recognizes input = true :=
  List.find?_some (p := fun candidate : Program => candidate.recognizes input) found

theorem program_name_of_mem (member : program ∈ importer.programs) :
    importer.program program.name = .ok program := by
  rw [Importer.program, Program.ofName_name]
  exact if_pos (List.contains_iff_mem.mpr member)

theorem exists_read_of_detect (detected : importer.detect path = .ok program) :
    ∃ input, importer.read path = .ok input ∧ importer.detectInput? input = some program := by
  rw [detect] at detected
  rcases exists_of_bind_eq_ok detected with ⟨input, reading, recognized⟩
  refine ⟨input, reading, ?_⟩
  rw [recognize] at recognized
  split at recognized
  · rename_i first found
    cases recognized
    exact found
  · cases recognized

theorem importScenes_of_detectInput? (reading : importer.read path = .ok input)
    (found : importer.detectInput? input = some program) (name : Option String) :
    importer.importScenes path name =
      Edit.answering program (program.importFile (importer.request path input name)) := by
  funext collection
  rw [importScenes, reading]
  change (importer.recognize path input >>= _) = _
  rw [recognize, found]
  rfl

theorem importScenesAs_of_mem (reading : importer.read path = .ok input)
    (member : program ∈ importer.programs) (name : Option String) :
    importer.importScenesAs path program.name name =
      program.importFile (importer.request path input name) := by
  funext collection
  rw [importScenesAs, reading]
  change (importer.program program.name >>= _) = _
  rw [program_name_of_mem member]
  rfl

theorem importScenes_of_detect_error (undetected : importer.detect path = .error error)
    (name : Option String) (collection : Collection) :
    importer.importScenes path name collection = .error error := by
  rw [detect] at undetected
  rcases eq_error_or_exists_of_bind undetected with unread | ⟨input, reading, unrecognized⟩
  · rw [importScenes, unread]
    rfl
  · rw [importScenes, reading]
    change (importer.recognize path input >>= _) = _
    rw [unrecognized]
    rfl

theorem exists_read_of_importScenesAs {name : Option String} {collection result : Collection}
    (imported : importer.importScenesAs path program.name name collection = .ok result) :
    ∃ input, importer.read path = .ok input ∧ program ∈ importer.programs ∧
      program.importFile (importer.request path input name) collection = .ok result := by
  rw [importScenesAs] at imported
  rcases exists_of_bind_eq_ok imported with ⟨input, reading, unnamed⟩
  rcases exists_of_bind_eq_ok unnamed with ⟨named, isNamed, filed⟩
  rw [Importer.program, Program.ofName_name] at isNamed
  change (if importer.has program then _ else _) = _ at isNamed
  split at isNamed
  · rename_i registered
    cases isNamed
    exact ⟨input, reading, List.contains_iff_mem.mp registered, filed⟩
  · cases isNamed

end Importer

/-- If a file is found to belong to a program, importing it and importing it as one of that program
leave the same collection or fail with the same error. If the program cannot be found out, an import
fails for the same reason. No import that fails changes the collection. -/
theorem detection_agrees_with_dispatch (importer : Importer) (path : Path) (name : Option String)
    (collection : Collection) :
    (∀ program, importer.detect path = .ok program →
      (∃ result, (importer.editScenes path name).run collection = .ok program result ∧
        (importer.editScenesAs path program.name name).run collection = .ok () result) ∨
      ∃ error, (importer.editScenes path name).run collection = .error error collection ∧
        (importer.editScenesAs path program.name name).run collection =
          .error error collection) ∧
    ∀ error, importer.detect path = .error error →
      (importer.editScenes path name).run collection = .error error collection := by
  constructor
  · intro program detected
    rcases Importer.exists_read_of_detect detected with ⟨input, reading, found⟩
    have member := Importer.mem_programs_of_detectInput? found
    rw [importer.settlesAs_editScenes, importer.settlesAs_editScenesAs,
      Importer.importScenes_of_detectInput? reading found,
      Importer.importScenesAs_of_mem reading member, Edit.answering, Edit.answering]
    cases program.importFile (importer.request path input name) collection with
    | ok result => exact .inl ⟨result, rfl, rfl⟩
    | error error => exact .inr ⟨error, rfl, rfl⟩
  · intro error undetected
    rw [importer.settlesAs_editScenes, Importer.importScenes_of_detect_error undetected,
      Edit.settle]

def threeTexts : Disk where
  files := [(⟨"/both.json"⟩, .text "\x7b\"nodeType\":\"RootNode\",\"sources\":[]\x7d"),
    (⟨"/half.xconfig"⟩, .text halfText), (⟨"/notes.txt"⟩, .text "some notes")]

/-- The programs are in an order of their own, and one of them is there twice. -/
theorem detection_agrees_with_dispatch_three_texts :
    let importer : Importer :=
      { programs := [.obsClassic, .streamlabs, .obsStudio, .streamlabs], disk := threeTexts }
    let collection : Collection := ⟨[("name", .string "Morning")]⟩
    (∃ result, (importer.editScenes ⟨"/both.json"⟩ none).run collection =
        .ok .streamlabs result ∧
      (importer.editScenesAs ⟨"/both.json"⟩ "Streamlabs" none).run collection =
        .ok () result) ∧
    (∃ error, (importer.editScenes ⟨"/half.xconfig"⟩ none).run collection =
        .error error collection ∧
      (importer.editScenesAs ⟨"/half.xconfig"⟩ "OBSClassic" none).run collection =
        .error error collection) ∧
    (importer.editScenes ⟨"/notes.txt"⟩ none).run collection =
      .error (.fileNotRecognized ⟨"/notes.txt"⟩) collection := by
  intro importer collection
  refine ⟨?_, ?_, ?_⟩
  · have detected : importer.detect ⟨"/both.json"⟩ = .ok .streamlabs := by decide +kernel
    have answer : (Edit.outcome ((importer.editScenes ⟨"/both.json"⟩ none).run collection)).1 =
        .ok .streamlabs := by decide +kernel
    rcases (detection_agrees_with_dispatch importer ⟨"/both.json"⟩ none collection).1 _ detected
      with succeeds | ⟨error, failed, _⟩
    · exact succeeds
    · rw [failed] at answer
      cases answer
  · have detected : importer.detect ⟨"/half.xconfig"⟩ = .ok .obsClassic := by decide +kernel
    have answer : (Edit.outcome ((importer.editScenes ⟨"/half.xconfig"⟩ none).run collection)).1 =
        .error (.conversion (.unexpectedEnd 2)) := by decide +kernel
    rcases (detection_agrees_with_dispatch importer ⟨"/half.xconfig"⟩ none collection).1 _ detected
      with ⟨result, succeeded, _⟩ | fails
    · rw [succeeded] at answer
      cases answer
    · exact fails
  · have undetected : importer.detect ⟨"/notes.txt"⟩ =
        .error (.fileNotRecognized ⟨"/notes.txt"⟩) := by decide +kernel
    exact (detection_agrees_with_dispatch importer ⟨"/notes.txt"⟩ none collection).2 _ undetected

end BroadcastScenes
