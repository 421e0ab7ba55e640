import BroadcastScenes.Proofs.Text.JoinedLines
import BroadcastScenes.Text.LineReader
import Mathlib.Data.List.Chain

/-!
# Texts by their lines

Whoever puts lines together with terminators gets them back from a reader, in their order and with
their numbers, however the terminators are mixed. Only a carriage return in front of an empty line
that ends in a line feed would be taken for one terminator together with that line feed. Every text
can be put together in this way.
-/

namespace BroadcastScenes.Text

/-! ## Layouts -/

structure LineLayout where
  ended : List (List Char × Terminator)
  unended : List Char
  endedAreLines : ∀ row ∈ ended, IsOneLine row.1
  unendedIsLine : IsOneLine unended
  apart : ended.IsChain fun row next => row.2 = .carriageReturn → next ≠ ([], .lineFeed)

namespace LineLayout

/-- What stands behind the last terminator is a line, unless it is empty. -/
def lines (layout : LineLayout) : List (List Char) :=
  layout.ended.map Prod.fst ++ if layout.unended = [] then [] else [layout.unended]

def text (layout : LineLayout) : List Char :=
  layout.ended.flatMap (fun row => row.1 ++ row.2.toChars) ++ layout.unended

end LineLayout

theorem head?_row_append (row : List Char × Terminator) (isLine : IsOneLine row.1)
    (behind : List Char) :
    (row.1 ++ row.2.toChars ++ behind).head? = some '\n' ↔ row = ([], .lineFeed) := by
  rcases row with ⟨line, terminator⟩
  cases line with
  | nil => cases terminator <;> simp [Terminator.toChars]
  | cons first _ => simpa using (isLine first List.mem_cons_self).2

theorem head?_ne_lineFeed_of_isOneLine {line : List Char} (isLine : IsOneLine line) :
    line.head? ≠ some '\n' := by
  intro feed
  exact (isLine '\n' (List.mem_of_mem_head? feed)).2 rfl

theorem LineLayout.joins (layout : LineLayout) : Joins layout.lines layout.text := by
  rcases layout with ⟨ended, unended, endedAreLines, unendedIsLine, apart⟩
  rw [LineLayout.lines, LineLayout.text]
  induction ended with
  | nil =>
      by_cases empty : unended = []
      · simpa [empty] using Joins.none
      · simpa [empty] using Joins.unended unendedIsLine empty
  | cons row rest induction =>
      have rowIsLine := endedAreLines row List.mem_cons_self
      have restAreLines := fun other member =>
        endedAreLines other (List.mem_cons_of_mem _ member)
      rw [List.isChain_cons] at apart
      have behind := induction restAreLines apart.2
      dsimp only at behind
      rw [List.map_cons, List.cons_append, List.flatMap_cons, List.append_assoc]
      refine .ended rowIsLine row.2 ?_ behind
      intro isReturn
      -- Behind a carriage return stands the next row, or the tail if there is none.
      cases rest with
      | nil => exact head?_ne_lineFeed_of_isOneLine unendedIsLine
      | cons next more =>
          rw [List.flatMap_cons, List.append_assoc, Ne,
            head?_row_append next (restAreLines next List.mem_cons_self)]
          exact apart.1 next rfl isReturn

theorem Joins.exists_layout {rows : List (List Char)} {text : List Char} (joins : Joins rows text) :
    ∃ layout : LineLayout, layout.lines = rows ∧ layout.text = text := by
  induction joins with
  | none => exact ⟨⟨[], [], by simp, by simp [IsOneLine], .nil⟩, rfl, rfl⟩
  | @unended line isLine filled =>
      exact ⟨⟨[], line, by simp, isLine, .nil⟩, if_neg filled, rfl⟩
  | @ended line text rows isLine terminator apart rest induction =>
      rcases induction with ⟨layout, rfl, rfl⟩
      refine ⟨⟨(line, terminator) :: layout.ended, layout.unended, ?_, layout.unendedIsLine, ?_⟩,
        rfl, ?_⟩
      · intro row member
        rcases List.mem_cons.mp member with rfl | later
        · exact isLine
        · exact layout.endedAreLines row later
      · rw [List.isChain_cons]
        refine ⟨?_, layout.apart⟩
        rintro next first isReturn rfl
        rcases List.head?_eq_some_iff.mp first with ⟨more, split⟩
        apply apart isReturn
        rw [LineLayout.text, split]
        rfl
      · rw [LineLayout.text, List.flatMap_cons, List.append_assoc]
        rfl

theorem exists_layout_of_text (text : List Char) : ∃ layout : LineLayout, layout.text = text := by
  rcases (joins_lines text).exists_layout with ⟨layout, _, same⟩
  exact ⟨layout, same⟩

/-! ## Reading -/

theorem dropTerminator_append (terminator : Terminator) {text : List Char}
    (apart : terminator = .carriageReturn → text.head? ≠ some '\n') :
    dropTerminator (terminator.toChars ++ text) = text := by
  cases terminator with
  | lineFeed => rfl
  | both => rfl
  | carriageReturn =>
      rw [Terminator.toChars, List.singleton_append, dropTerminator]
      rintro rest rfl
      exact apart rfl rfl

theorem isLineBreak_eq_false {c : Char} (plain : c ≠ '\r' ∧ c ≠ '\n') :
    isLineBreak c = false := by
  simp [isLineBreak, plain.1, plain.2]

namespace LineReader

theorem next_eq {text : List Char} (filled : text ≠ []) {line behind : List Char}
    (isLine : IsOneLine line) (split : text = line ++ behind)
    (breaks : ∀ c, behind.head? = some c → isLineBreak c = true) (lineNumber : Nat) :
    next ⟨text, lineNumber⟩ = (some line, ⟨dropTerminator behind, lineNumber + 1⟩) := by
  have plain : ∀ c ∈ line, (!isLineBreak c) = true := fun c member => by
    rw [isLineBreak_eq_false (isLine c member), Bool.not_false]
  have stops : behind.takeWhile (!isLineBreak ·) = [] ∧
      behind.dropWhile (!isLineBreak ·) = behind := by
    cases behind with
    | nil => exact ⟨rfl, rfl⟩
    | cons first more =>
        rw [List.takeWhile_cons, List.dropWhile_cons, breaks first rfl]
        exact ⟨rfl, rfl⟩
  rw [next, if_neg (by simpa using filled), split, List.takeWhile_append_of_pos plain,
    List.dropWhile_append_of_pos plain, stops.1, stops.2, List.append_nil]

theorem next_of_joins {line text : List Char} {rows : List (List Char)}
    (joins : Joins (line :: rows) text) (lineNumber : Nat) :
    ∃ rest, next ⟨text, lineNumber⟩ = (some line, ⟨rest, lineNumber + 1⟩) ∧ Joins rows rest := by
  cases joins with
  | unended isLine filled =>
      exact ⟨[], next_eq filled isLine (List.append_nil _).symm (by simp) lineNumber, .none⟩
  | @ended _ behind _ isLine terminator apart rest =>
      refine ⟨behind, ?_, rest⟩
      have breaks : ∀ c, (terminator.toChars ++ behind).head? = some c → isLineBreak c = true := by
        cases terminator <;> rintro c ⟨⟩ <;> rfl
      have filled : line ++ terminator.toChars ++ behind ≠ [] := by
        cases terminator <;> simp [Terminator.toChars]
      rw [next_eq filled isLine (List.append_assoc ..) breaks, dropTerminator_append _ apart]

/-- Whichever lines a text is joined from, a reader hands them out one after the other, and then no
line any more. -/
theorem after_of_joins {text : List Char} {rows : List (List Char)} (joins : Joins rows text)
    (lineNumber calls : Nat) :
    (after ⟨text, lineNumber⟩ calls).next.1 = rows[calls]? ∧
      (after ⟨text, lineNumber⟩ calls).lineNumber = lineNumber + min calls rows.length := by
  induction calls generalizing text rows lineNumber with
  | zero =>
      cases rows with
      | nil =>
          cases joins
          exact ⟨rfl, rfl⟩
      | cons line rows =>
          rcases next_of_joins joins lineNumber with ⟨rest, step, _⟩
          exact ⟨congrArg Prod.fst step, by simp [after]⟩
  | succ calls induction =>
      cases rows with
      | nil =>
          cases joins
          simpa [after, next] using induction .none lineNumber
      | cons line rows =>
          rcases next_of_joins joins lineNumber with ⟨rest, step, restJoins⟩
          rcases induction restJoins (lineNumber + 1) with ⟨handed, counted⟩
          rw [after, step]
          refine ⟨handed, ?_⟩
          rw [counted, List.length_cons]
          omega

end LineReader

theorem getElem?_numberFrom (first index : Nat) (rows : List (List Char)) :
    (numberFrom first rows)[index]? = rows[index]?.map (⟨first + index, ·⟩) := by
  induction rows generalizing first index with
  | nil => rfl
  | cons row rows induction =>
      cases index with
      | zero => rfl
      | succ index =>
          rw [numberFrom, List.getElem?_cons_succ, List.getElem?_cons_succ, induction,
            Nat.add_assoc, Nat.add_comm 1 index]

/-- However lines are put together with terminators, a reader hands out these lines in turn and then
none, its count of lines runs up to their number and stays there, and the numbered lines are what it
hands out with its count. Every text has been put together from lines in such a way. -/
theorem texts_are_read_line_by_line :
    (∀ (layout : LineLayout) (calls : Nat),
      ((LineReader.start layout.text).after calls).next.1 = layout.lines[calls]? ∧
        ((LineReader.start layout.text).after calls).lineNumber =
          min calls layout.lines.length ∧
        (numberedLines layout.text)[calls]? = layout.lines[calls]?.map (⟨calls + 1, ·⟩)) ∧
      ∀ text, ∃ layout : LineLayout, layout.text = text := by
  refine ⟨fun layout calls => ?_, exists_layout_of_text⟩
  rcases LineReader.after_of_joins layout.joins 0 calls with ⟨handed, counted⟩
  refine ⟨handed, counted.trans (Nat.zero_add _), ?_⟩
  rw [numberedLines, layout.joins.lines_eq, getElem?_numberFrom, Nat.add_comm]

def mixedLayout : LineLayout where
  ended := [("one".toList, .lineFeed), ("two".toList, .both), ([], .carriageReturn),
    ([], .carriageReturn), ([], .both), ([], .lineFeed)]
  unended := "four".toList
  endedAreLines := by decide
  unendedIsLine := by decide
  apart := by decide

theorem texts_are_read_line_by_line_mixed :
    mixedLayout.text = "one\ntwo\r\n\r\r\r\n\nfour".toList ∧
      ((LineReader.start mixedLayout.text).after 6).next.1 = some "four".toList ∧
      (numberedLines mixedLayout.text)[6]? = some ⟨7, "four".toList⟩ ∧
      ((LineReader.start mixedLayout.text).after 9).next.1 = none ∧
      ((LineReader.start mixedLayout.text).after 9).lineNumber = 7 := by
  have last := texts_are_read_line_by_line.1 mixedLayout 6
  have past := texts_are_read_line_by_line.1 mixedLayout 9
  exact ⟨by decide, last.1.trans (by decide), last.2.2.trans (by decide),
    past.1.trans (by decide), past.2.1.trans (by decide)⟩

end BroadcastScenes.Text
