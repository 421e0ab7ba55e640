import BroadcastScenes.Proofs.LaterLines
import BroadcastScenes.Proofs.SceneText.DistinctKeys
import BroadcastScenes.Proofs.Text.JoinedLines

/-!
# Lines behind other lines

What has been read of a text at the end of a line is a stack of open blocks. The lines behind it go
on from this stack. If it has no open block, they are read as a text of their own: their numbers are
higher, and their blocks are written over those that are there already.
-/

namespace BroadcastScenes.SceneText

open Text (NumberedLine numberFrom)

namespace BlockStack

/-! ## Line numbers -/

/-- The number of a line is for messages only. -/
theorem step_later (stack : BlockStack) (count : Nat) (line : NumberedLine) :
    stack.step (line.later count) = (stack.step line).mapError (ReadError.later count) := by
  rw [step_eq_make, step_eq_make]
  change stack.make _ (Move.ofLine line.text _) = _
  cases Move.ofLine line.text stack.innermost? <;> rfl

theorem run_later (total count : Nat) (stack : BlockStack) (lines : List NumberedLine) :
    run (total + count) stack (lines.map (NumberedLine.later count)) =
      (run total stack lines).mapError (ReadError.later count) := by
  induction lines generalizing stack with
  | nil =>
      change finish (total + count) stack = (finish total stack).mapError _
      rw [finish, finish]
      split <;> rfl
  | cons line rest induction =>
      rw [List.map_cons, run_cons, run_cons, step_later]
      cases stack.step line with
      | error error => rfl
      | ok next => exact induction next

/-! ## Blocks that are there already -/

def behind (base : Members) (stack : BlockStack) : BlockStack :=
  ⟨Entries.insertAll stack.root base, stack.openBlocks⟩

theorem keep_behind {stack : BlockStack} (distinctKeys : stack.HasDistinctKeys) (base : Members)
    (key : String) (value : Value) :
    (stack.behind base).keep key value = (stack.keep key value).behind base := by
  rcases stack with ⟨root, blocks⟩
  cases blocks with
  | nil =>
      have written := Entries.insertAll_insert distinctKeys.root.nodup_keys key value base
      rw [behind, keep, keep, behind, written]
  | cons around outer => rfl

theorem close_behind {stack : BlockStack} (distinctKeys : stack.HasDistinctKeys) (base : Members) :
    (stack.behind base).close = stack.close.behind base := by
  rcases stack with ⟨root, _ | ⟨innermost, outer⟩⟩
  · rfl
  · exact keep_behind distinctKeys.outer base _ _

theorem addValue_behind (stack : BlockStack) (base : Members) (key : String) (value : Value) :
    (stack.behind base).addValue key value = (stack.addValue key value).behind base := by
  rcases stack with ⟨root, _ | ⟨innermost, outer⟩⟩
  · rfl
  · rfl

theorem step_behind {stack : BlockStack} (distinctKeys : stack.HasDistinctKeys) (base : Members)
    (line : NumberedLine) :
    (stack.behind base).step line = (stack.step line).map (behind base) := by
  rw [step_eq_make, step_eq_make]
  change (stack.behind base).make line (Move.ofLine line.text stack.innermost?) = _
  cases Move.ofLine line.text stack.innermost? with
  | closeBlock => exact congrArg Except.ok (close_behind distinctKeys base)
  | addValue key value => exact congrArg Except.ok (addValue_behind stack base key value)
  | _ => rfl

theorem run_behind {stack : BlockStack} (distinctKeys : stack.HasDistinctKeys) (base : Members)
    (total : Nat) (lines : List NumberedLine) :
    run total (stack.behind base) lines =
      (run total stack lines).map fun content => Entries.insertAll content base := by
  induction lines generalizing stack with
  | nil =>
      change finish total (stack.behind base) = (finish total stack).map _
      rw [finish, finish, behind]
      split <;> rfl
  | cons line rest induction =>
      rw [run_cons, run_cons, step_behind distinctKeys]
      cases stepped : stack.step line with
      | error error => rfl
      | ok next => exact induction (distinctKeys.step stepped)

/-! ## Texts by their lines -/

def after (rows : List (List Char)) : Except ReadError BlockStack :=
  (numberFrom 1 rows).foldlM step {}

def readRows (rows : List (List Char)) : Except ReadError Members :=
  after rows >>= finish rows.length

theorem readRows_eq_ok_iff {rows : List (List Char)} {content : Members} :
    readRows rows = .ok content ↔ after rows = .ok ⟨content, []⟩ := by
  rw [readRows]
  rcases after rows with error | ⟨root, _ | ⟨innermost, outer⟩⟩
  · exact ⟨nofun, nofun⟩
  · constructor
    · rintro ⟨⟩
      rfl
    · rintro ⟨⟩
      rfl
  · exact ⟨nofun, nofun⟩

theorem readRows_of_open {rows : List (List Char)} {stack : BlockStack}
    (read : after rows = .ok stack) (isOpen : stack.openBlocks ≠ []) :
    readRows rows = .error (.unexpectedEnd rows.length) := by
  rw [readRows, read]
  change finish rows.length stack = _
  rw [finish, if_neg]
  rwa [List.isEmpty_iff]

theorem readRows_of_closed {rows : List (List Char)} {stack : BlockStack}
    (read : after rows = .ok stack) (closed : stack.openBlocks = []) :
    readRows rows = .ok stack.root := by
  rw [readRows_eq_ok_iff, read, ← closed]

theorem readRows_append (front back : List (List Char)) :
    readRows (front ++ back) = after front >>= fun stack =>
      run (front.length + back.length) stack (numberFrom (1 + front.length) back) := by
  rw [readRows, after, Text.numberFrom_append, List.foldlM_append, bind_assoc, List.length_append]
  rfl

/-- Behind a text that leaves no block open another one is read as on its own. -/
theorem readRows_append_of_ok {front : List (List Char)} {inFront : Members}
    (reading : readRows front = .ok inFront) (back : List (List Char)) :
    readRows (front ++ back) = ((readRows back).map fun inBack =>
      Entries.insertAll inBack inFront).mapError (ReadError.later front.length) := by
  have start : ({} : BlockStack).behind inFront = ⟨inFront, []⟩ := rfl
  rw [readRows_append, readRows_eq_ok_iff.mp reading, Nat.add_comm, Text.numberFrom_add]
  change run _ ⟨inFront, []⟩ _ = _
  rw [run_later, ← start, run_behind hasDistinctKeys_empty]
  rfl

end BlockStack

theorem read_eq_readRows (text : String) :
    read text = BlockStack.readRows (Text.lines text.toList) := by
  have onePass : read text = BlockStack.run _ {} (Text.numberedLines text.toList) :=
    (BlockStack.run_eq_readBlocks _ [] _).symm
  rw [onePass, Text.numberedLines, Text.length_numberFrom]
  rfl

end BroadcastScenes.SceneText
