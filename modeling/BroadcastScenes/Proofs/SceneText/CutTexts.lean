import BroadcastScenes.Proofs.SceneText.LinesBehind

/-!
# Cut texts

There is no error in the first lines of a text that can be read. Where they end, either a block is
still open, and its missing end is noticed, or the text falls into two that can be read one behind
the other.
-/

namespace BroadcastScenes.SceneText

namespace BlockStack

theorem exists_after_of_readRows_append {front back : List (List Char)} {content : Members}
    (reading : readRows (front ++ back) = .ok content) : ∃ stack, after front = .ok stack := by
  rw [readRows_append] at reading
  cases read : after front with
  | error error =>
      rw [read] at reading
      cases reading
  | ok stack => exact ⟨stack, rfl⟩

theorem exists_readRows_of_append {front back : List (List Char)} {inFront content : Members}
    (reading : readRows front = .ok inFront) (whole : readRows (front ++ back) = .ok content) :
    ∃ inBack, readRows back = .ok inBack ∧ content = Entries.insertAll inBack inFront := by
  rw [readRows_append_of_ok reading] at whole
  cases read : readRows back with
  | error error =>
      rw [read] at whole
      cases whole
  | ok inBack =>
      rw [read] at whole
      cases whole
      exact ⟨inBack, rfl, rfl⟩

end BlockStack

/-- The first lines of a text that can be read are refused at their end if a block is open there, at
whatever depth. Otherwise they can be read, the lines behind them can be read as well, and the
blocks of both together are those of the whole text. -/
theorem cut_is_noticed {text : String} {content : Members} (reading : read text = .ok content)
    {count : Nat} (within : count ≤ (Text.lines text.toList).length) {front back : String}
    (inFront : Text.lines front.toList = (Text.lines text.toList).take count)
    (inBack : Text.lines back.toList = (Text.lines text.toList).drop count) :
    ∃ stack, BlockStack.after (Text.lines front.toList) = .ok stack ∧
      (stack.openBlocks ≠ [] → read front = .error (.unexpectedEnd count)) ∧
      (stack.openBlocks = [] → ∃ first rest, read front = .ok first ∧ read back = .ok rest ∧
        content = Entries.insertAll rest first) := by
  have whole : Text.lines text.toList = Text.lines front.toList ++ Text.lines back.toList := by
    rw [inFront, inBack, List.take_append_drop]
  have length : (Text.lines front.toList).length = count := by
    rw [inFront, List.length_take, Nat.min_eq_left within]
  rw [read_eq_readRows, whole] at reading
  rcases BlockStack.exists_after_of_readRows_append reading with ⟨stack, isRead⟩
  refine ⟨stack, isRead, ?_, ?_⟩
  · intro isOpen
    rw [read_eq_readRows, BlockStack.readRows_of_open isRead isOpen, length]
  · intro closed
    have first := BlockStack.readRows_of_closed isRead closed
    rcases BlockStack.exists_readRows_of_append first reading with ⟨rest, second, equal⟩
    refine ⟨stack.root, rest, ?_, ?_, equal⟩
    · rw [read_eq_readRows, first]
    · rw [read_eq_readRows, second]

def twoBlocks : String :=
  "scenes : \x7b\r\nMain : \x7b\r\nsize : 4\r\n\x7d\r\n\x7d\r\nglobal sources : \x7b\r\n\x7d\r\n"

theorem cut_is_noticed_two_blocks :
    read "scenes : \x7b\nMain : \x7b\nsize : 4" = .error (.unexpectedEnd 3) ∧
      ∃ first rest, read "scenes : \x7b\nMain : \x7b\nsize : 4\n\x7d\n\x7d\n" = .ok first ∧
        read "global sources : \x7b\n\x7d\n" = .ok rest ∧
        read twoBlocks = .ok (Entries.insertAll rest first) := by
  have reading : read twoBlocks = .ok [("scenes", .array [.object
      [("size", .integer 4), ("name", .string "Main")]]), ("globals", .array [])] := by
    rw [read_eq_readRows]
    rfl
  constructor
  · have cut := @cut_is_noticed twoBlocks _ reading 3 (by decide)
      "scenes : \x7b\nMain : \x7b\nsize : 4" "\x7d\n\x7d\nglobal sources : \x7b\n\x7d" (by decide)
      (by decide)
    rcases cut with ⟨stack, isRead, isOpen, _⟩
    cases isRead
    exact isOpen (List.cons_ne_nil _ _)
  · have cut := @cut_is_noticed twoBlocks _ reading 5 (by decide)
      "scenes : \x7b\nMain : \x7b\nsize : 4\n\x7d\n\x7d\n" "global sources : \x7b\n\x7d\n"
      (by decide) (by decide)
    rcases cut with ⟨stack, isRead, _, closed⟩
    cases isRead
    rcases closed rfl with ⟨first, rest, readFirst, readRest, equal⟩
    exact ⟨first, rest, readFirst, readRest, equal ▸ reading⟩

end BroadcastScenes.SceneText
