/-!
# Progress through an input

A reading step takes something off the front of its input. That what is left is shorter is part of
the step's result, so that steps can be repeated without a bound set in advance.
-/

namespace BroadcastScenes

/-- Something read off the front of `input`, and the shorter input that is left. -/
structure Taken (α : Type u) {β : Type v} (input : List β) where
  value : α
  rest : List β
  shorter : rest.length < input.length

namespace Taken

def map (change : α → γ) {input : List β} (taken : Taken α input) : Taken γ input :=
  ⟨change taken.value, taken.rest, taken.shorter⟩

def widen {input longer : List β} (taken : Taken α input)
    (growing : input.length ≤ longer.length) : Taken α longer :=
  ⟨taken.value, taken.rest, Nat.lt_of_lt_of_le taken.shorter growing⟩

theorem length_rest_le_cons {input : List β} (taken : Taken α input) (head : β) :
    taken.rest.length ≤ (head :: input).length :=
  Nat.le_succ_of_le (Nat.le_of_lt taken.shorter)

end Taken

structure Passed (α : Type u) {β : Type v} (input : List β) where
  value : α
  rest : List β
  within : rest.length ≤ input.length

end BroadcastScenes
