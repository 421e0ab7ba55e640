import BroadcastScenes.Proofs.AppendingImport
import BroadcastScenes.Proofs.WrittenEntries

/-!
# Editing in place

An import can be told as the writes that it makes to the collection that is open. What has been
written stays when a later step fails, so an import leaves no trace of a failure only if it fails
before its first write, or if it writes to a copy. The programs read the whole text before they
write anything, and from then on nothing can fail.
-/

namespace BroadcastScenes

/-- Steps that read and write the open collection and end with an answer or an error. An error does
not take back what has been written. -/
abbrev Edit (α : Type) := EStateM ImportError Collection α

namespace Edit

/-- What an attempt comes to that works on a value of its own: its result takes the place of the
collection, and its error leaves the collection alone. -/
def settle (collection : Collection) :
    Except ImportError (α × Collection) → EStateM.Result ImportError Collection α
  | .ok (answer, result) => .ok answer result
  | .error error => .error error collection

def SettlesAs (edit : Edit α) (attempt : Collection → Except ImportError (α × Collection)) :
    Prop :=
  ∀ collection, edit.run collection = settle collection (attempt collection)

def LeavesNoTrace (edit : Edit α) : Prop :=
  ∀ collection error later, edit.run collection = .error error later → later = collection

variable {attempt : Collection → Except ImportError (α × Collection)} {edit : Edit α}

theorem SettlesAs.leavesNoTrace (settles : edit.SettlesAs attempt) : edit.LeavesNoTrace := by
  intro collection error later failed
  rw [settles] at failed
  cases equal : attempt collection with
  | ok result =>
      rw [equal] at failed
      cases failed
  | error other =>
      rw [equal] at failed
      cases failed
      rfl

theorem run_bind (edit : Edit α) (next : α → Edit β) (collection : Collection) :
    (edit >>= next).run collection =
      match edit.run collection with
      | .ok answer later => (next answer).run later
      | .error error later => .error error later := by
  change EStateM.bind edit next collection = _
  rw [EStateM.bind, EStateM.run]
  cases edit collection <;> rfl

def answering (answer : α) (attempt : Collection → Except ImportError Collection)
    (collection : Collection) : Except ImportError (α × Collection) := do
  let result ← attempt collection
  .ok (answer, result)

theorem SettlesAs.bind_pure (settles : edit.SettlesAs attempt) (change : α → β) :
    SettlesAs (do
        let answer ← edit
        pure (change answer))
      (fun collection => do
        let (answer, result) ← attempt collection
        .ok (change answer, result)) := by
  intro collection
  rw [run_bind, settles]
  dsimp only
  cases attempt collection <;> rfl

theorem SettlesAs.bind_answer {edit : Edit Unit}
    {attempt : Collection → Except ImportError Collection}
    (settles : edit.SettlesAs (answering () attempt)) (answer : α) :
    SettlesAs (do
        edit
        pure answer)
      (answering answer attempt) := by
  intro collection
  rw [settles.bind_pure fun _ => answer]
  dsimp only [answering]
  cases attempt collection <;> rfl

/-! ## Looking before writing -/

def take (found : Except ImportError α) : Edit α := MonadExcept.ofExcept found

theorem settlesAs_take_bind (found : Except ImportError α) {next : α → Edit β}
    {attempt : α → Collection → Except ImportError (β × Collection)}
    (settles : ∀ value, (next value).SettlesAs (attempt value)) :
    SettlesAs (take found >>= next) fun collection =>
      found >>= fun value => attempt value collection := by
  intro collection
  cases found with
  | error error => rfl
  | ok value => exact settles value collection

/-! ## Writing to a copy -/

def onCopy (edit : Edit α) : Edit α := do
  match edit.run (← get) with
  | .ok answer copy =>
      set copy
      pure answer
  | .error error _ => throw error

def committed (edit : Edit α) (collection : Collection) : Except ImportError (α × Collection) :=
  match edit.run collection with
  | .ok answer later => .ok (answer, later)
  | .error error _ => .error error

theorem settlesAs_onCopy (edit : Edit α) : edit.onCopy.SettlesAs edit.committed := by
  intro collection
  rw [Edit.onCopy, run_bind, committed]
  change EStateM.run (match edit.run collection with
    | .ok answer copy => do set copy; pure answer
    | .error error _ => throw error) collection = _
  cases edit.run collection <;> rfl

theorem SettlesAs.onCopy (settles : edit.SettlesAs attempt) :
    edit.onCopy.SettlesAs attempt := by
  intro collection
  rw [settlesAs_onCopy, committed, settles]
  cases attempt collection <;> rfl

/-! ## Writing additions -/

def push (record : Source.Record) : Edit Unit :=
  modify fun collection => collection.push record.toValue

def add (additions : Additions) : Edit Unit := do
  additions.records.forM push
  match additions.firstScene with
  | some scene => modify (·.showScene scene)
  | none => pure ()

theorem withRecords_push (collection : Collection) (record : Value) (records : List Value) :
    (collection.push record).withRecords records = collection.withRecords records := by
  rw [Collection.push, Collection.withRecords, Collection.withRecords, Collection.withRecords,
    Entries.insert_insert_self]

theorem run_forM_push (records : List Source.Record) (collection : Collection) :
    (records.forM push).run collection =
      .ok () (if records.isEmpty then collection else
        collection.withRecords (collection.records ++ records.map Source.Record.toValue)) := by
  induction records generalizing collection with
  | nil => rfl
  | cons head tail induction =>
      have step : (List.forM (head :: tail) push).run collection =
          (tail.forM push).run (collection.push head.toValue) := rfl
      rw [step, induction]
      cases tail with
      | nil => rfl
      | cons second others =>
          rw [withRecords_push]
          simp [Collection.push]

theorem run_add (additions : Additions) (collection : Collection) :
    (add additions).run collection = .ok () (collection.extend additions) := by
  rw [add, run_bind, run_forM_push, Collection.extend]
  cases additions.firstScene <;> rfl

end Edit

/-! ## Imports -/

def Content.edit (request : Request) (content : Content) : Edit Unit := do
  Edit.add (content.additions request.setting (← get).recordNames)
  modify (·.rename (request.name.getD (content.defaultName request)))
  modify (content.finish request.setting ·)

def ObsStudio.edit (request : Request) : Edit Unit := do
  let found ← Edit.take (Collection.parse request.input)
  if hasRecords found.root then
    let named :=
      match request.name with
      | some name => found.rename name
      | none => found
    set (named.adapt request.setting.platform)
  else throw (.invalid Program.obsStudio.name "missing `sources` array")

def Program.edit (program : Program) (request : Request) : Edit Unit :=
  match program with
  | .obsStudio => ObsStudio.edit request
  | _ => do
      let content ← Edit.take (Content.read program request.input)
      content.edit request

theorem Content.settlesAs_edit (content : Content) (request : Request) :
    (content.edit request).SettlesAs fun collection =>
      .ok ((), content.importInto request collection) := by
  intro collection
  have added := Edit.run_add (content.additions request.setting collection.recordNames) collection
  rw [Content.edit, Edit.run_bind]
  change (Edit.add _ >>= _).run collection = _
  rw [Edit.run_bind, added]
  rfl

theorem ObsStudio.settlesAs_edit (request : Request) :
    (ObsStudio.edit request).SettlesAs (Edit.answering () fun _ => importFile request) := by
  intro collection
  rw [edit, Edit.answering, importFile, Edit.run_bind]
  cases Collection.parse request.input with
  | error error => rfl
  | ok found =>
      change EStateM.run (ite _ _ _) collection = Edit.settle collection (ite _ _ _ >>= _)
      split <;> rfl

/-- In place, the import of a file succeeds and fails as it does by value, and it has not written
anything when it fails. -/
theorem Program.settlesAs_edit (program : Program) (request : Request) :
    (program.edit request).SettlesAs (Edit.answering () (program.importFile request)) := by
  by_cases appends : program.Appends
  · have looks : program.edit request =
        Edit.take (Content.read program request.input) >>= fun content => content.edit request := by
      cases program with
      | obsStudio => exact absurd rfl appends
      | xsplitBroadcaster => rfl
      | streamlabs => rfl
      | obsClassic => rfl
    have settles := Edit.settlesAs_take_bind (Content.read program request.input)
      fun content => content.settlesAs_edit request
    intro collection
    rw [looks, settles, Edit.answering, importFile_eq_map_read appends]
    cases Content.read program request.input <;> rfl
  · have isObsStudio : program = .obsStudio := Decidable.not_not.mp appends
    rw [isObsStudio]
    exact ObsStudio.settlesAs_edit request

end BroadcastScenes
