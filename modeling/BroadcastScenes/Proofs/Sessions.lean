import BroadcastScenes.Proofs.Editing
import BroadcastScenes.Session
import Mathlib.Control.Monad.Basic

/-!
# Sessions without failed calls

An importer edits a copy of the open collection and puts it in place when the import has succeeded.
So a call that fails changes nothing, and a session comes to the same without such calls.
-/

namespace BroadcastScenes

/-! ## Edits in turn -/

namespace Edit

def outcome : EStateM.Result ImportError Collection α → Except ImportError α × Collection
  | .ok answer later => (.ok answer, later)
  | .error error later => (.error error, later)

theorem exists_of_outcome_eq_error {result : EStateM.Result ImportError Collection α}
    {error : ImportError} (failed : (outcome result).1 = .error error) :
    ∃ later, result = .error error later := by
  cases result with
  | ok answer later => cases failed
  | error other later =>
      cases failed
      exact ⟨later, rfl⟩

/-- The answers to edits that calls ask for, made in turn, and the collection after the last one. An
edit goes on from what the one before it has left, whether that has failed or not. -/
def inTurn (edit : β → Edit α) :
    Collection → List β → List (Except ImportError α) × Collection
  | collection, [] => ([], collection)
  | collection, call :: rest =>
      let (answer, next) := outcome ((edit call).run collection)
      let (answers, last) := inTurn edit next rest
      (answer :: answers, last)

def succeeding (calls : List β) (answers : List (Except ImportError α)) : List β :=
  ((calls.zip answers).filter fun made => made.2.isOk).map Prod.fst

variable {edit : β → Edit α}

theorem inTurn_cons_of_ok {call : β} {collection later : Collection} {answer : α}
    (succeeds : (edit call).run collection = .ok answer later) (rest : List β) :
    inTurn edit collection (call :: rest) =
      (.ok answer :: (inTurn edit later rest).1, (inTurn edit later rest).2) := by
  rw [inTurn, succeeds, outcome]

theorem inTurn_cons_of_error {call : β} {collection later : Collection} {error : ImportError}
    (fails : (edit call).run collection = .error error later) (rest : List β) :
    inTurn edit collection (call :: rest) =
      (.error error :: (inTurn edit later rest).1, (inTurn edit later rest).2) := by
  rw [inTurn, fails, outcome]

/-- If no edit leaves a trace when it fails, those that have failed can be left out: the others are
answered as before, and the same collection is open in the end. -/
theorem inTurn_succeeding (noTrace : ∀ call, (edit call).LeavesNoTrace) (collection : Collection)
    (calls : List β) :
    inTurn edit collection (succeeding calls (inTurn edit collection calls).1) =
      ((inTurn edit collection calls).1.filter Except.isOk, (inTurn edit collection calls).2) := by
  induction calls generalizing collection with
  | nil => rfl
  | cons call rest induction =>
      cases made : (edit call).run collection with
      | ok answer later =>
          have others := induction later
          have kept : succeeding (call :: rest) (.ok answer :: (inTurn edit later rest).1) =
              call :: succeeding rest (inTurn edit later rest).1 := rfl
          rw [inTurn_cons_of_ok made, kept, inTurn_cons_of_ok made, others]
          rfl
      | error error later =>
          have unchanged : later = collection := noTrace call collection error later made
          subst unchanged
          have dropped : succeeding (call :: rest) (.error error :: (inTurn edit later rest).1) =
              succeeding rest (inTurn edit later rest).1 := rfl
          rw [inTurn_cons_of_error made, dropped, induction]
          rfl

end Edit

/-! ## Calls to importers -/

namespace Importer

def editText (importer : Importer) (program : Program) (path : Path) (input : String)
    (name : Option String) : Edit Unit :=
  (program.edit (importer.request path input name)).onCopy

def select (importer : Importer) (test : Program → Bool) (otherwise : ImportError) :
    Except ImportError Program :=
  match importer.programs.find? test with
  | some program => .ok program
  | none => .error otherwise

def editScenes (importer : Importer) (path : Path) (name : Option String) : Edit Program := do
  let input ← Edit.take (importer.read path)
  let program ← Edit.take
    (importer.select (fun program => program.recognizes input) (.fileNotRecognized path))
  importer.editText program path input name
  pure program

def editScenesAs (importer : Importer) (path : Path) (programName : String)
    (name : Option String) : Edit Unit := do
  let input ← Edit.take (importer.read path)
  let named ← Edit.take (Program.ofName programName)
  let program ← Edit.take
    (importer.select (fun program => program == named) (.unknownProgram programName))
  importer.editText program path input name

def edit (importer : Importer) : ImportCall → Edit (Option Program)
  | .detected path name => do
      let program ← importer.editScenes path name
      pure (some program)
  | .named path programName name => do
      importer.editScenesAs path programName name
      pure none

theorem select_eq (importer : Importer) (named : Program) (otherwise : ImportError) :
    importer.select (fun program => program == named) otherwise =
      if importer.has named then .ok named else .error otherwise := by
  rw [select, has]
  cases found : importer.programs.find? fun program => program == named with
  | some program =>
      have equal : program = named := by simpa using List.find?_some found
      have member : named ∈ importer.programs := equal ▸ List.mem_of_find?_eq_some found
      rw [if_pos (List.contains_iff_mem.mpr member), equal]
  | none =>
      have absent : named ∉ importer.programs := fun member =>
        List.find?_eq_none.mp found named member (beq_self_eq_true named)
      rw [if_neg fun there => absent (List.contains_iff_mem.mp there)]

theorem settlesAs_editText (importer : Importer) (program : Program) (path : Path)
    (input : String) (name : Option String) :
    (importer.editText program path input name).SettlesAs
      (Edit.answering () (program.importFile (importer.request path input name))) :=
  (program.settlesAs_edit _).onCopy

theorem settlesAs_editScenes (importer : Importer) (path : Path) (name : Option String) :
    (importer.editScenes path name).SettlesAs (importer.importScenes path name) :=
  -- To select a program by the text that it recognizes is `recognize`, by definition.
  Edit.settlesAs_take_bind _ fun input =>
    Edit.settlesAs_take_bind _ fun program =>
      (importer.settlesAs_editText program path input name).bind_answer program

theorem settlesAs_editScenesAs (importer : Importer) (path : Path) (programName : String)
    (name : Option String) :
    (importer.editScenesAs path programName name).SettlesAs
      (Edit.answering () (importer.importScenesAs path programName name)) := by
  have settles := Edit.settlesAs_take_bind (importer.read path) fun input =>
    Edit.settlesAs_take_bind (Program.ofName programName) fun named =>
      Edit.settlesAs_take_bind
        (importer.select (fun program => program == named) (.unknownProgram programName))
        fun program => importer.settlesAs_editText program path input name
  intro collection
  rw [Edit.answering, importScenesAs, program]
  simp only [bind_assoc, ← select_eq]
  exact settles collection

theorem settlesAs_edit (importer : Importer) (call : ImportCall) :
    (importer.edit call).SettlesAs fun collection => importer.attempt collection call := by
  cases call with
  | detected path name => exact (importer.settlesAs_editScenes path name).bind_pure some
  | named path programName name =>
      exact (importer.settlesAs_editScenesAs path programName name).bind_answer none

theorem inTurn_edit (importer : Importer) (collection : Collection) (calls : List ImportCall) :
    Edit.inTurn importer.edit collection calls = importer.performAll collection calls := by
  induction calls generalizing collection with
  | nil => rfl
  | cons call rest induction =>
      have first : Edit.outcome ((importer.edit call).run collection) =
          importer.perform collection call := by
        rw [importer.settlesAs_edit call, perform]
        dsimp only
        cases importer.attempt collection call <;> rfl
      rw [Edit.inTurn, first, performAll]
      dsimp only
      rw [induction]

end Importer

/-- A call that fails leaves the collection as it was, and so does the import of any program when it
works on the collection itself. A session therefore comes to the same without the calls that have
failed: it ends with the same collection, and the other calls are answered as before. -/
theorem failures_leave_no_trace (importer : Importer) :
    (∀ call, (importer.edit call).LeavesNoTrace) ∧
    (∀ (collection : Collection) (calls : List ImportCall),
      let session := Edit.inTurn importer.edit collection calls
      Edit.inTurn importer.edit collection (Edit.succeeding calls session.1) =
        (session.1.filter Except.isOk, session.2)) ∧
    ∀ (program : Program) (request : Request), (program.edit request).LeavesNoTrace := by
  have noTrace : ∀ call, (importer.edit call).LeavesNoTrace :=
    fun call => (importer.settlesAs_edit call).leavesNoTrace
  refine ⟨noTrace, ?_, ?_⟩
  · intro collection calls
    exact Edit.inTurn_succeeding noTrace collection calls
  · intro program request
    exact (program.settlesAs_edit request).leavesNoTrace

def halfText : String := "scenes : \x7b\r\n Main : \x7b\r\n"

def textsImporter : Importer where
  disk :=
    { files := [(⟨"/half.xconfig"⟩, .text halfText),
        (⟨"/whole.xconfig"⟩, .text (halfText ++ " \x7d\r\n\x7d\r\n"))] }

theorem failures_leave_no_trace_half_text :
    let whole : ImportCall := .detected ⟨"/whole.xconfig"⟩ none
    let half : ImportCall := .detected ⟨"/half.xconfig"⟩ none
    let again : ImportCall := .named ⟨"/whole.xconfig"⟩ "OBSClassic" (some "Evening")
    let calls := [whole, half, .named ⟨"/none.json"⟩ "OBSStudio" none,
      .named ⟨"/whole.xconfig"⟩ "Wirecast" none, again]
    let collection : Collection := ⟨[("sources", .array []), ("name", .string "Morning")]⟩
    let halfRead : ImportError := .conversion (.unexpectedEnd 2)
    (∃ last, last.recordNames = ["Main", "Main 0"] ∧ last.name = "Evening" ∧
      Edit.inTurn textsImporter.edit collection calls =
        ([.ok (some .obsClassic), .error halfRead, .error (.fileNotFound ⟨"/none.json"⟩),
          .error (.unknownProgram "Wirecast"), .ok none], last) ∧
      Edit.inTurn textsImporter.edit collection [whole, again] =
        ([.ok (some .obsClassic), .ok none], last)) ∧
    (textsImporter.edit half).run collection = .error halfRead collection ∧
    (Program.obsClassic.edit ⟨⟨"/half.xconfig"⟩, halfText, none, {}, {}⟩).run collection =
      .error halfRead collection := by
  intro whole half again calls collection halfRead
  rcases failures_leave_no_trace textsImporter with ⟨callLeaves, sessions, programLeaves⟩
  refine ⟨?_, ?_, ?_⟩
  · have answers : (Edit.inTurn textsImporter.edit collection calls).1 =
        [.ok (some .obsClassic), .error halfRead, .error (.fileNotFound ⟨"/none.json"⟩),
          .error (.unknownProgram "Wirecast"), .ok none] := by
      decide +kernel
    have names : (Edit.inTurn textsImporter.edit collection calls).2.recordNames =
          ["Main", "Main 0"] ∧
        (Edit.inTurn textsImporter.edit collection calls).2.name = "Evening" := by
      decide +kernel
    have shorter := sessions collection calls
    dsimp only at shorter
    rw [answers] at shorter
    exact ⟨_, names.1, names.2, Prod.ext answers rfl, shorter⟩
  · have failed : (Edit.outcome ((textsImporter.edit half).run collection)).1 =
        .error halfRead := by
      decide +kernel
    rcases Edit.exists_of_outcome_eq_error failed with ⟨later, run⟩
    rw [run, callLeaves half collection halfRead later run]
  · have failed : (Edit.outcome ((Program.obsClassic.edit
        ⟨⟨"/half.xconfig"⟩, halfText, none, {}, {}⟩).run collection)).1 = .error halfRead := by
      decide +kernel
    rcases Edit.exists_of_outcome_eq_error failed with ⟨later, run⟩
    rw [run, programLeaves _ _ collection halfRead later run]

end BroadcastScenes
