import BroadcastScenes.Proofs.Text.JoinedLines
import BroadcastScenes.Proofs.Text.Trimming
import BroadcastScenes.SceneText.Reader

/-!
# Scene texts in one pass

A scene text can be read line by line with a stack of the blocks that are open. Each line opens a
block, closes the innermost one, adds a value to it, or is passed over. This gives the same content
as reading a block within a block, and the same error at the same line.
-/

namespace BroadcastScenes.SceneText

open Text (NumberedLine numberFrom)

/-- The key of a header: a line that, without blanks around it, without one final brace, and without
blanks again, ends in a colon. -/
def trimmedHeaderKey? (line : List Char) : Option (List Char) :=
  let body := Text.trim (Text.dropFinal '\x7b' (Text.trim line))
  if body.getLast? = some ':' then some (Text.trim body.dropLast) else none

inductive Block where
  | list (objects : List Value)
  | object (members : Members)

/-- A block that has not been closed, and where it will be kept: under a key of the object around
it, or under its name in the list around it. -/
structure OpenBlock where
  key : String
  block : Block

/-- What has been read of a text: the blocks that are complete, and those that are open, the
innermost first. -/
structure BlockStack where
  root : Members := []
  openBlocks : List OpenBlock := []

namespace Block

def keep (key : String) (value : Value) : Block → Block
  | list objects => list (objects ++ [value.put "name" (.string key)])
  | object members => object (members.insert key value)

def toValue : Block → Value
  | list objects => .array objects
  | object members => .object members

end Block

namespace BlockStack

def keep (key : String) (value : Value) : BlockStack → BlockStack
  | ⟨root, []⟩ => ⟨root.insert key value, []⟩
  | ⟨root, around :: outer⟩ => ⟨root, ⟨around.key, around.block.keep key value⟩ :: outer⟩

def push (stack : BlockStack) (key : String) (block : Block) : BlockStack :=
  ⟨stack.root, ⟨key, block⟩ :: stack.openBlocks⟩

def pushHeader (stack : BlockStack) (line : NumberedLine)
    (opened : List Char → OpenBlock) : Except ReadError BlockStack :=
  match trimmedHeaderKey? line.text with
  | none => .error (missingColon line)
  | some key => .ok (stack.push (opened key).key (opened key).block)

def topKey (line : List Char) : String :=
  if Text.trimEnd line = sharedHeader then "globals" else "scenes"

def openedInObject (key : List Char) : OpenBlock :=
  if isListKey key then ⟨"sources", .list []⟩ else ⟨String.ofList key, .object []⟩

def stepFilled (stack : BlockStack) (line : NumberedLine) : Except ReadError BlockStack :=
  match stack.openBlocks with
  | [] => stack.pushHeader line fun _ => ⟨topKey line.text, .list []⟩
  | ⟨key, .list objects⟩ :: outer =>
      if closes line.text then .ok (keep key (.array objects) ⟨stack.root, outer⟩)
      else stack.pushHeader line fun name => ⟨String.ofList name, .object []⟩
  | ⟨key, .object members⟩ :: outer =>
      if closes line.text then .ok (keep key (.object members) ⟨stack.root, outer⟩)
      else if opens line.text then stack.pushHeader line openedInObject
      else
        match keyAndValue? line.text with
        | none => .error (missingColon line)
        | some (inner, written) =>
            let more := collect (String.ofList inner) (scalar written) members
            .ok ⟨stack.root, ⟨key, .object more⟩ :: outer⟩

def step (stack : BlockStack) (line : NumberedLine) : Except ReadError BlockStack :=
  if Text.allBlank line.text then .ok stack else stack.stepFilled line

def finish (total : Nat) (stack : BlockStack) : Except ReadError Members :=
  if stack.openBlocks.isEmpty then .ok stack.root else .error (.unexpectedEnd total)

def run (total : Nat) (stack : BlockStack) (lines : List NumberedLine) :
    Except ReadError Members :=
  lines.foldlM step stack >>= finish total

def read (text : String) : Except ReadError Members :=
  let lines := Text.numberedLines text.toList
  run lines.length {} lines

end BlockStack

/-! ## Rows -/

structure IsClosing (row : List Char) : Prop where
  filled : Text.allBlank row = false
  closes : closes row = true

namespace BlockStack

theorem step_of_isBlank {row : List Char} (isBlank : Text.allBlank row = true) (stack : BlockStack)
    (number : Nat) : stack.step ⟨number, row⟩ = .ok stack := if_pos isBlank

theorem step_of_filled {row : List Char} (filled : Text.allBlank row = false) (stack : BlockStack)
    (number : Nat) : stack.step ⟨number, row⟩ = stack.stepFilled ⟨number, row⟩ := by
  rw [step, filled]
  rfl

theorem step_of_isClosing {row : List Char} (isClosing : IsClosing row) (below : BlockStack)
    (key : String) (block : Block) (number : Nat) :
    (below.push key block).step ⟨number, row⟩ = .ok (below.keep key block.toValue) := by
  rw [step_of_filled isClosing.filled]
  cases block with
  | list objects => exact if_pos isClosing.closes
  | object members => exact if_pos isClosing.closes

theorem openedInObject_of_isListKey {key : List Char} (isList : isListKey key = true) :
    openedInObject key = ⟨"sources", .list []⟩ := if_pos isList

theorem openedInObject_of_not_isListKey {key : List Char} (noList : isListKey key = false) :
    openedInObject key = ⟨String.ofList key, .object []⟩ := by
  rw [openedInObject, noList]
  rfl

theorem foldlM_step_of_step {stack middle : BlockStack} {number : Nat} {row : List Char}
    (steps : stack.step ⟨number, row⟩ = .ok middle) (rows : List (List Char)) :
    (numberFrom number (row :: rows)).foldlM step stack =
      (numberFrom (number + 1) rows).foldlM step middle := by
  rw [numberFrom, List.foldlM_cons, steps]
  rfl

def LeadsTo (stack : BlockStack) (rows : List (List Char)) (next : BlockStack) : Prop :=
  ∀ first, (numberFrom first rows).foldlM step stack = .ok next

theorem leadsTo_nil (stack : BlockStack) : stack.LeadsTo [] stack := fun _ => rfl

theorem LeadsTo.cons {stack middle next : BlockStack} {row : List Char} {rows : List (List Char)}
    (stepped : ∀ number, stack.step ⟨number, row⟩ = .ok middle) (rest : middle.LeadsTo rows next) :
    stack.LeadsTo (row :: rows) next := fun first =>
  (foldlM_step_of_step (stepped first) rows).trans (rest (first + 1))

theorem LeadsTo.append {stack middle next : BlockStack} {front back : List (List Char)}
    (inFront : stack.LeadsTo front middle) (inBack : middle.LeadsTo back next) :
    stack.LeadsTo (front ++ back) next := by
  intro first
  rw [Text.numberFrom_append, List.foldlM_append, inFront first]
  exact inBack _

end BlockStack

/-! ## Both ways of reading agree -/

/-- Dropping only the indent in front of a line is enough: what other blanks there are in front of
a key go when the key is trimmed. -/
theorem headerKey?_eq_trimmedHeaderKey? (line : List Char) :
    headerKey? line = trimmedHeaderKey? line := by
  let body := Text.trimEnd (Text.dropFinal '\x7b' (Text.trimEnd (Text.dropIndent line)))
  have trimmed : Text.trim (Text.dropFinal '\x7b' (Text.trim line)) = Text.trimStart body := by
    rw [← Text.trim_dropIndent line, Text.trim_eq_trimStart_trimEnd (Text.dropIndent line),
      Text.dropFinal_trimStart Text.isBlank_openingBrace, Text.trim_trimStart,
      Text.trim_eq_trimStart_trimEnd]
  have unfolded : headerKey? line =
      if body.getLast? = some ':' then some (Text.trim body.dropLast) else none := rfl
  rw [unfolded, trimmedHeaderKey?, trimmed]
  by_cases last : body.getLast? = some ':'
  · rcases List.getLast?_eq_some_iff.mp last with ⟨key, equal⟩
    rw [equal, Text.trimStart_append_cons Text.isBlank_colon]
    simp
  · rw [if_neg last, if_neg]
    rwa [Text.getLast?_trimStart_eq_iff Text.isBlank_colon]

namespace BlockStack

theorem run_cons (total : Nat) (stack : BlockStack) (line : NumberedLine)
    (rest : List NumberedLine) :
    run total stack (line :: rest) = stack.step line >>= fun next => run total next rest := by
  rw [run, List.foldlM_cons, bind_assoc]
  rfl

def resume (total : Nat) (close : α → BlockStack) {lines : List NumberedLine}
    (reading : Except ReadError (Taken α lines)) : Except ReadError Members :=
  reading >>= fun taken => run total (close taken.value) taken.rest

theorem resume_map_widen (total : Nat) (close : α → BlockStack)
    {lines longer : List NumberedLine} (reading : Except ReadError (Taken α lines))
    (growing : lines.length ≤ longer.length) :
    resume total close (reading.map (·.widen growing)) = resume total close reading := by
  cases reading <;> rfl

theorem resume_bind_widen (total : Nat) (close : α → BlockStack)
    {lines longer : List NumberedLine} (reading : Except ReadError (Taken α lines))
    (growing : lines.length ≤ longer.length) :
    resume total close (reading >>= fun taken => .ok (taken.widen growing)) =
      resume total close reading := by
  cases reading <;> rfl

theorem resume_eq_resume_bind {total : Nat} {close : α → BlockStack} {closeOuter : β → BlockStack}
    {lines longer : List NumberedLine} (reading : Except ReadError (Taken α lines))
    {next : Taken α lines → Except ReadError (Taken β longer)}
    (later : ∀ taken, run total (close taken.value) taken.rest =
      resume total closeOuter (next taken)) :
    resume total close reading = resume total closeOuter (reading >>= next) := by
  cases reading with
  | error error => rfl
  | ok taken => exact later taken

-- Reading a block within a block uses up lines exactly as the stack does until the block is off it.
-- The induction is on the number of lines, since what follows an inner block is read on its own.
mutual

theorem run_list (total : Nat) (root : Members) (key : String) (objects : List Value)
    (outer : List OpenBlock) (lines : List NumberedLine) :
    run total ⟨root, ⟨key, .list objects⟩ :: outer⟩ lines =
      resume total (fun objects => keep key (.array objects) ⟨root, outer⟩)
        (readList total objects lines) := by
  cases lines with
  | nil =>
      rw [readList]
      rfl
  | cons line rest =>
      rw [run_cons, step, readList]
      by_cases blank : Text.allBlank line.text = true
      · rw [if_pos blank, if_pos blank, resume_map_widen]
        exact run_list total root key objects outer rest
      rw [if_neg blank, if_neg blank, stepFilled]
      by_cases closing : closes line.text = true
      · simp only [if_pos closing]
        rfl
      simp only [if_neg closing, pushHeader, ← headerKey?_eq_trimmedHeaderKey?]
      cases header : headerKey? line.text with
      | none => rfl
      | some name =>
          have inner := run_object total root (String.ofList name) []
            (⟨key, .list objects⟩ :: outer) rest
          refine inner.trans (resume_eq_resume_bind _ fun body => ?_)
          have := body.shorter
          have later := run_list total root key (objects ++
            [(Value.object body.value).put "name" (.string (String.ofList name))]) outer body.rest
          exact later.trans (resume_bind_widen _ _ _ _).symm
termination_by lines.length

theorem run_object (total : Nat) (root : Members) (key : String) (members : Members)
    (outer : List OpenBlock) (lines : List NumberedLine) :
    run total ⟨root, ⟨key, .object members⟩ :: outer⟩ lines =
      resume total (fun members => keep key (.object members) ⟨root, outer⟩)
        (readObject total members lines) := by
  cases lines with
  | nil =>
      rw [readObject]
      rfl
  | cons line rest =>
      rw [run_cons, step, readObject]
      by_cases blank : Text.allBlank line.text = true
      · rw [if_pos blank, if_pos blank, resume_map_widen]
        exact run_object total root key members outer rest
      rw [if_neg blank, if_neg blank, stepFilled]
      by_cases closing : closes line.text = true
      · simp only [if_pos closing]
        rfl
      by_cases opening : opens line.text = true
      · simp only [if_neg closing, if_pos opening, pushHeader,
          ← headerKey?_eq_trimmedHeaderKey?]
        cases header : headerKey? line.text with
        | none => rfl
        | some name =>
            by_cases lists : isListKey name = true
            · simp only [openedInObject, if_pos lists]
              have inner := run_list total root "sources" []
                (⟨key, .object members⟩ :: outer) rest
              refine inner.trans (resume_eq_resume_bind _ fun block => ?_)
              have := block.shorter
              have later := run_object total root key
                (members.insert "sources" (.array block.value)) outer block.rest
              exact later.trans (resume_bind_widen _ _ _ _).symm
            · simp only [openedInObject, if_neg lists]
              have inner := run_object total root (String.ofList name) []
                (⟨key, .object members⟩ :: outer) rest
              refine inner.trans (resume_eq_resume_bind _ fun block => ?_)
              have := block.shorter
              have later := run_object total root key
                (members.insert (String.ofList name) (.object block.value)) outer block.rest
              exact later.trans (resume_bind_widen _ _ _ _).symm
      · simp only [if_neg closing, if_neg opening]
        cases item : keyAndValue? line.text with
        | none => rfl
        | some pair =>
            have later := run_object total root key
              (collect (String.ofList pair.1) (scalar pair.2) members) outer rest
            exact later.trans (resume_map_widen _ _ _ _).symm
termination_by lines.length

end

theorem run_eq_readBlocks (total : Nat) (root : Members) (lines : List NumberedLine) :
    run total ⟨root, []⟩ lines = readBlocks total root lines := by
  cases lines with
  | nil =>
      rw [readBlocks]
      rfl
  | cons line rest =>
      rw [run_cons, step, readBlocks]
      by_cases blank : Text.allBlank line.text = true
      · rw [if_pos blank, if_pos blank]
        exact run_eq_readBlocks total root rest
      simp only [if_neg blank, stepFilled, pushHeader, ← headerKey?_eq_trimmedHeaderKey?]
      cases header : headerKey? line.text with
      | none => rfl
      | some name =>
          refine (run_list total root (topKey line.text) [] [] rest).trans ?_
          cases reading : readList total [] rest with
          | error error => rfl
          | ok block =>
              have := block.shorter
              exact run_eq_readBlocks total _ block.rest
termination_by lines.length

end BlockStack

/-- Reading a block within a block and reading in one pass with a stack of open blocks give the same
content for every text, and where one fails the other fails with the same error. -/
theorem read_eq_read_blockStack (text : String) : read text = BlockStack.read text :=
  (BlockStack.run_eq_readBlocks _ [] _).symm

end BroadcastScenes.SceneText
