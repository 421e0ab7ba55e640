import BroadcastScenes.Proofs.SceneText.BlockStack

/-!
# Moves

A line of a scene text is passed over, opens a block, closes the innermost one, adds a value to it,
or is refused. Which of these it does is a matter of its text and of the kind of the innermost
block; what has been read so far is changed by the move and in no other way.
-/

namespace BroadcastScenes.SceneText

open Text (NumberedLine)

inductive Move where
  | pass
  | openBlock (opened : OpenBlock)
  | closeBlock
  | addValue (key : String) (value : Value)
  | refuse

namespace Move

def ofHeader (line : List Char) (opened : List Char → OpenBlock) : Move :=
  match trimmedHeaderKey? line with
  | none => refuse
  | some key => openBlock (opened key)

def ofFilled (line : List Char) : Option Block → Move
  | none => ofHeader line fun _ => ⟨BlockStack.topKey line, .list []⟩
  | some (.list _) =>
      if closes line then closeBlock
      else ofHeader line fun name => ⟨String.ofList name, .object []⟩
  | some (.object _) =>
      if closes line then closeBlock
      else if opens line then ofHeader line BlockStack.openedInObject
      else
        match keyAndValue? line with
        | none => refuse
        | some (key, written) => addValue (String.ofList key) (scalar written)

def ofLine (line : List Char) (innermost : Option Block) : Move :=
  if Text.allBlank line then pass else ofFilled line innermost

end Move

def Block.addValue (key : String) (value : Value) : Block → Block
  | .list objects => .list objects
  | .object members => .object (collect key value members)

namespace BlockStack

def innermost? (stack : BlockStack) : Option Block := stack.openBlocks.head?.map OpenBlock.block

theorem innermost?_eq_none_iff {stack : BlockStack} :
    stack.innermost? = none ↔ stack.openBlocks = [] := by
  rw [innermost?, Option.map_eq_none_iff, List.head?_eq_none_iff]

def close : BlockStack → BlockStack
  | ⟨root, []⟩ => ⟨root, []⟩
  | ⟨root, ⟨key, block⟩ :: outer⟩ => keep key block.toValue ⟨root, outer⟩

def addValue (key : String) (value : Value) : BlockStack → BlockStack
  | ⟨root, []⟩ => ⟨root, []⟩
  | ⟨root, ⟨name, block⟩ :: outer⟩ => ⟨root, ⟨name, block.addValue key value⟩ :: outer⟩

def make (stack : BlockStack) (line : NumberedLine) : Move → Except ReadError BlockStack
  | .pass => .ok stack
  | .openBlock opened => .ok (stack.push opened.key opened.block)
  | .closeBlock => .ok stack.close
  | .addValue key value => .ok (stack.addValue key value)
  | .refuse => .error (missingColon line)

theorem pushHeader_eq_make (stack : BlockStack) (line : NumberedLine)
    (opened : List Char → OpenBlock) :
    stack.pushHeader line opened = stack.make line (Move.ofHeader line.text opened) := by
  rw [pushHeader, Move.ofHeader]
  cases trimmedHeaderKey? line.text with
  | none => rfl
  | some key => rfl

theorem stepFilled_eq_make (stack : BlockStack) (line : NumberedLine) :
    stack.stepFilled line = stack.make line (Move.ofFilled line.text stack.innermost?) := by
  rcases stack with ⟨root, _ | ⟨⟨key, objects | members⟩, outer⟩⟩
  · exact pushHeader_eq_make _ _ _
  · simp only [stepFilled, innermost?, Move.ofFilled, List.head?_cons, Option.map_some]
    split
    · rfl
    · exact pushHeader_eq_make _ _ _
  · simp only [stepFilled, innermost?, Move.ofFilled, List.head?_cons, Option.map_some]
    split
    · rfl
    split
    · exact pushHeader_eq_make _ _ _
    · cases keyAndValue? line.text with
      | none => rfl
      | some pair => rfl

/-- A line makes the move that its text and the innermost block call for. -/
theorem step_eq_make (stack : BlockStack) (line : NumberedLine) :
    stack.step line = stack.make line (Move.ofLine line.text stack.innermost?) := by
  rw [step, Move.ofLine]
  split
  · rfl
  · exact stepFilled_eq_make stack line

theorem step_eq_error_iff {stack : BlockStack} {line : NumberedLine} {error : ReadError} :
    stack.step line = .error error ↔
      Move.ofLine line.text stack.innermost? = .refuse ∧ error = missingColon line := by
  rw [step_eq_make]
  cases Move.ofLine line.text stack.innermost? with
  | refuse =>
      constructor
      · rintro ⟨⟩
        exact ⟨rfl, rfl⟩
      · rintro ⟨_, rfl⟩
        rfl
  | _ => exact ⟨nofun, nofun⟩

end BlockStack

end BroadcastScenes.SceneText
