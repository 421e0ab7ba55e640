import BroadcastScenes.ReadError
import BroadcastScenes.Text.Lines

/-!
# Later lines

Behind other lines a line has a higher number, and an error in it names that number. Nothing else of
the line or of the error depends on what stands in front.
-/

namespace BroadcastScenes

open Text (NumberedLine numberFrom)

namespace ReadError

def later (count : Nat) : ReadError → ReadError
  | missingColon line text => missingColon (line + count) text
  | unexpectedEnd line => unexpectedEnd (line + count)
  | malformedAttribute line text => malformedAttribute (line + count) text

def SameKind : ReadError → ReadError → Prop
  | missingColon _ _, missingColon _ _ => True
  | unexpectedEnd _, unexpectedEnd _ => True
  | malformedAttribute _ _, malformedAttribute _ _ => True
  | _, _ => False

theorem sameKind_later (error : ReadError) (count : Nat) :
    (error.later count).SameKind error := by
  cases error <;> trivial

theorem SameKind.refl (error : ReadError) : error.SameKind error := by
  cases error <;> trivial

theorem SameKind.symm {first second : ReadError} (same : first.SameKind second) :
    second.SameKind first := by
  cases first <;> cases second <;> trivial

theorem SameKind.trans {first second third : ReadError} (same : first.SameKind second)
    (further : second.SameKind third) : first.SameKind third := by
  cases first <;> cases second <;> cases third <;> trivial

end ReadError

namespace Text

def NumberedLine.later (count : Nat) (line : NumberedLine) : NumberedLine :=
  { line with number := line.number + count }

theorem numberFrom_add (first count : Nat) (rows : List (List Char)) :
    numberFrom (first + count) rows = (numberFrom first rows).map (NumberedLine.later count) := by
  induction rows generalizing first with
  | nil => rfl
  | cons row rest induction =>
      rw [numberFrom, numberFrom, List.map_cons, ← induction, Nat.add_right_comm]
      rfl

theorem length_numberFrom (first : Nat) (rows : List (List Char)) :
    (numberFrom first rows).length = rows.length := by
  induction rows generalizing first with
  | nil => rfl
  | cons row rest induction => rw [numberFrom, List.length_cons, induction, List.length_cons]

end Text

end BroadcastScenes
