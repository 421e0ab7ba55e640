import BroadcastScenes.Proofs.Dispatch

/-!
# Recognized files

A program looks at little of a text before it claims the file, and each import has conditions of
its own. The conditions are met by every text that has been claimed: what is left to go wrong is a
line that cannot be read, and JSON has been read as a whole by then.
-/

namespace BroadcastScenes

/-- The error is about the file at this path, or about a line in it. It is none that blames a text
for not being JSON or a document for its kind, and none that knows no such program. -/
inductive ImportError.IsOfFile (path : Path) : ImportError → Prop where
  | notFound : IsOfFile path (.fileNotFound path)
  | wontOpen (reason : String) : IsOfFile path (.fileWontOpen path reason)
  | notRecognized : IsOfFile path (.fileNotRecognized path)
  | conversion (fault : ReadError) : IsOfFile path (.conversion fault)

/-! ## JSON -/

namespace ObsStudio

theorem exists_document_of_recognizes {input : String} (recognized : recognizes input = true) :
    ∃ document, Value.parse? input = some (.object document) ∧ hasRecords document = true := by
  rw [recognizes] at recognized
  split at recognized
  · rename_i document parsed
    exact ⟨document, parsed, recognized⟩
  · cases recognized

theorem exists_importFile {request : Request} (recognized : recognizes request.input = true) :
    ∃ result, importFile request = .ok result := by
  rcases exists_document_of_recognizes recognized with ⟨document, parsed, records⟩
  have found : Collection.parse request.input = .ok ⟨document⟩ := by
    rw [Collection.parse, parsed]
    rfl
  rw [importFile, found]
  exact ⟨_, if_pos records⟩

end ObsStudio

namespace Streamlabs

theorem exists_root_of_recognizes {input : String} (recognized : recognizes input = true) :
    ∃ root, Value.parse? input = some root ∧ isRoot root = true := by
  rw [recognizes] at recognized
  split at recognized
  · rename_i root parsed
    exact ⟨root, parsed, recognized⟩
  · cases recognized

theorem exists_importFile {request : Request} (recognized : recognizes request.input = true)
    (collection : Collection) : ∃ result, importFile request collection = .ok result := by
  rcases exists_root_of_recognizes recognized with ⟨root, parsed, atRoot⟩
  rw [importFile, parsed]
  exact ⟨_, if_pos atRoot⟩

end Streamlabs

/-! ## Lines -/

namespace Markup

def StartsTag (line : List Char) : Prop := ∃ c rest, line = '<' :: c :: rest ∧ c ≠ '/'

theorem startsTag_of_isPrefixOf {mark : List Char} {c : Char} {line : List Char}
    (notSlash : c ≠ '/') (begins : ('<' :: c :: mark).isPrefixOf line = true) :
    StartsTag line := by
  rcases List.isPrefixOf_iff_prefix.mp begins with ⟨rest, rfl⟩
  exact ⟨c, mark ++ rest, rfl, notSlash⟩

theorem opening?_ne_none {line : Text.NumberedLine} (starts : StartsTag line.text) :
    opening? line ≠ .ok none := by
  rcases starts with ⟨c, rest, text, notSlash⟩
  have kept : Text.dropIndent line.text = '<' :: c :: rest := by
    rw [text]
    rfl
  rw [opening?, kept]
  split
  · rename_i closing
    cases closing
    exact absurd rfl notSlash
  · split <;> simp
  · rename_i noTag
    exact absurd rfl (noTag _)

theorem read_ne_none {text : String} {line : Text.NumberedLine} {rest : List Text.NumberedLine}
    (first : skipDeclaration (Text.numberedLines text.toList) = line :: rest)
    (starts : StartsTag line.text) : read text ≠ .ok none := by
  rw [read, first]
  dsimp only
  cases opened : opening? line with
  | error fault =>
      intro nothing
      cases nothing
  | ok opening =>
      cases opening with
      | none => exact absurd opened (opening?_ne_none starts)
      | some opening =>
          cases childless : opening.childless with
          | true => simp [childless, bind, Except.bind]
          | false =>
              cases readTags rest <;> simp [childless, bind, Except.bind]

end Markup

namespace XSplit

open Markup (StartsTag)

theorem exists_startsTag_of_find? {lines : List (List Char)} {found : List Char}
    (search : lines.find? (fun line => !"<?xml".toList.isPrefixOf line) = some found)
    (starts : StartsTag found) : ∃ first rest, lines = first :: rest ∧ StartsTag first := by
  cases lines with
  | nil => cases search
  | cons first rest =>
      refine ⟨first, rest, rfl, ?_⟩
      cases declares : "<?xml".toList.isPrefixOf first with
      | true => exact Markup.startsTag_of_isPrefixOf (by decide) declares
      | false =>
          rw [List.find?_cons_of_pos (by rw [declares]; rfl)] at search
          cases search
          exact starts

/-- An import skips one declaration only. Then it comes upon a tag or upon a second declaration. -/
theorem exists_startsTag_of_recognizes {input : String} (recognized : recognizes input = true) :
    ∃ line rest, Markup.skipDeclaration (Text.numberedLines input.toList) = line :: rest ∧
      StartsTag line.text := by
  rw [recognizes] at recognized
  split at recognized
  · rename_i found search
    have starts : StartsTag found := Markup.startsTag_of_isPrefixOf (by decide) recognized
    rw [Text.numberedLines]
    cases all : Text.lines input.toList with
    | nil =>
        rw [all] at search
        cases search
    | cons first rest =>
        rw [all] at search
        rw [Text.numberFrom, Markup.skipDeclaration]
        cases declares : "<?xml".toList.isPrefixOf first with
        | true =>
            rw [List.find?_cons_of_neg (by rw [declares]; decide)] at search
            rcases exists_startsTag_of_find? search starts with ⟨second, more, rfl, starts⟩
            exact ⟨_, _, rfl, starts⟩
        | false =>
            rw [List.find?_cons_of_pos (by rw [declares]; rfl)] at search
            cases search
            exact ⟨_, _, rfl, starts⟩
  · cases recognized

theorem exists_fault_of_importFile {request : Request} {collection : Collection}
    {error : ImportError} (recognized : recognizes request.input = true)
    (failed : importFile request collection = .error error) :
    ∃ fault, error = .conversion fault := by
  rcases exists_startsTag_of_recognizes recognized with ⟨line, rest, first, starts⟩
  rw [importFile] at failed
  split at failed
  · cases failed
    exact ⟨_, rfl⟩
  · rename_i nothing
    exact absurd nothing (Markup.read_ne_none first starts)
  · cases failed

end XSplit

theorem ObsClassic.exists_fault_of_importFile {request : Request} {collection : Collection}
    {error : ImportError} (failed : importFile request collection = .error error) :
    ∃ fault, error = .conversion fault := by
  rw [importFile] at failed
  split at failed
  · cases failed
    exact ⟨_, rfl⟩
  · cases failed

/-! ## Files -/

/-- Files of the program are JSON, so that to recognize one is to have read it. -/
def Program.KeepsJson (program : Program) : Prop :=
  program = .obsStudio ∨ program = .streamlabs

instance (program : Program) : Decidable program.KeepsJson :=
  inferInstanceAs (Decidable (program = .obsStudio ∨ program = .streamlabs))

theorem Program.exists_importFile {program : Program} {request : Request}
    (keepsJson : program.KeepsJson) (recognized : program.recognizes request.input = true)
    (collection : Collection) :
    ∃ result, program.importFile request collection = .ok result := by
  rcases keepsJson with rfl | rfl
  · exact ObsStudio.exists_importFile recognized
  · exact Streamlabs.exists_importFile recognized collection

theorem Program.exists_fault_of_importFile {program : Program} {request : Request}
    {collection : Collection} {error : ImportError}
    (recognized : program.recognizes request.input = true)
    (failed : program.importFile request collection = .error error) :
    ∃ fault, error = .conversion fault := by
  by_cases keepsJson : program.KeepsJson
  · rcases exists_importFile keepsJson recognized collection with ⟨result, imported⟩
    rw [imported] at failed
    cases failed
  · cases program with
    | obsStudio => exact absurd (.inl rfl) keepsJson
    | streamlabs => exact absurd (.inr rfl) keepsJson
    | xsplitBroadcaster => exact XSplit.exists_fault_of_importFile recognized failed
    | obsClassic => exact ObsClassic.exists_fault_of_importFile failed

namespace Importer

variable {importer : Importer} {path : Path} {error : ImportError}

theorem isOfFile_of_read (failed : importer.read path = .error error) :
    error.IsOfFile path := by
  rw [read] at failed
  split at failed <;> cases failed
  · exact .notFound
  · exact .wontOpen _

theorem isOfFile_of_detect (failed : importer.detect path = .error error) :
    error.IsOfFile path := by
  rw [detect] at failed
  rcases eq_error_or_exists_of_bind failed with unread | ⟨input, _, unrecognized⟩
  · exact isOfFile_of_read unread
  · rw [recognize] at unrecognized
    split at unrecognized <;> cases unrecognized
    exact .notRecognized

end Importer

/-- Whatever is at the path, an import that finds out the program fails only for the file or for a
line of it. If the program keeps JSON, such an import does not fail at all. -/
theorem recognized_files_are_imported (importer : Importer) (path : Path) (name : Option String)
    (collection : Collection) :
    (∀ error, importer.importScenes path name collection = .error error → error.IsOfFile path) ∧
    ∀ program, importer.detect path = .ok program → program.KeepsJson →
      ∃ result, importer.importScenes path name collection = .ok (program, result) := by
  constructor
  · intro error failed
    cases detected : importer.detect path with
    | error undetected =>
        rw [Importer.importScenes_of_detect_error detected] at failed
        cases failed
        exact Importer.isOfFile_of_detect detected
    | ok program =>
        rcases Importer.exists_read_of_detect detected with ⟨input, reading, found⟩
        have recognized := Importer.recognizes_of_detectInput? found
        rw [Importer.importScenes_of_detectInput? reading found, Edit.answering] at failed
        rcases eq_error_or_exists_of_bind failed with unfiled | ⟨result, _, succeeded⟩
        · rcases Program.exists_fault_of_importFile recognized unfiled with ⟨fault, rfl⟩
          exact .conversion fault
        · cases succeeded
  · intro program detected keepsJson
    rcases Importer.exists_read_of_detect detected with ⟨input, reading, found⟩
    have recognized := Importer.recognizes_of_detectInput? found
    have imports : ∃ result,
        program.importFile (importer.request path input name) collection = .ok result :=
      Program.exists_importFile keepsJson recognized collection
    rcases imports with ⟨result, imported⟩
    rw [Importer.importScenes_of_detectInput? reading found, Edit.answering, imported]
    exact ⟨result, rfl⟩

def oddFiles : Disk where
  files := [(⟨"/declared.bpres"⟩, .text
      "<?xml version=\"1.0\"?>\n<?xml version=\"1.0\"?>\n<configuration>\n</configuration>"),
    (⟨"/tree.json"⟩, .text
      "\x7b\"nodeType\":\"RootNode\",\"sources\":7,\"scenes\":\x7b\"items\":[null,[]]\x7d\x7d")]

theorem recognized_files_are_imported_odd_files :
    let importer : Importer := { disk := oddFiles }
    let twice : ImportError :=
      .conversion (.malformedAttribute 2 "<?xml version=\"1.0\"?>")
    (importer.detect ⟨"/declared.bpres"⟩ = .ok .xsplitBroadcaster ∧
      importer.importScenes ⟨"/declared.bpres"⟩ none {} = .error twice ∧
      twice.IsOfFile ⟨"/declared.bpres"⟩) ∧
    ∃ result, importer.importScenes ⟨"/tree.json"⟩ none {} = .ok (.streamlabs, result) := by
  intro importer twice
  refine ⟨⟨by decide +kernel, ?_⟩, ?_⟩
  · have answer : (importer.importScenes ⟨"/declared.bpres"⟩ none {}).map Prod.fst =
        .error twice := by decide +kernel
    cases failed : importer.importScenes ⟨"/declared.bpres"⟩ none {} with
    | ok result =>
        rw [failed] at answer
        cases answer
    | error error =>
        rw [failed] at answer
        cases answer
        exact ⟨rfl, (recognized_files_are_imported importer _ none {}).1 _ failed⟩
  · exact (recognized_files_are_imported importer ⟨"/tree.json"⟩ none {}).2 .streamlabs
      (by decide +kernel) (by decide)

end BroadcastScenes
