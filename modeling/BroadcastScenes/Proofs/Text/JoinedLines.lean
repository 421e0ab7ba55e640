import BroadcastScenes.Text.Lines

/-!
# Joining lines

A text is made of lines by putting a terminator behind each of them; the last one may go without.
Taking the text apart gives the same lines back, whichever terminators were used.
-/

namespace BroadcastScenes.Text

def IsOneLine (line : List Char) : Prop := ∀ c ∈ line, c ≠ '\r' ∧ c ≠ '\n'

instance (line : List Char) : Decidable (IsOneLine line) :=
  List.decidableBAll (fun c => c ≠ '\r' ∧ c ≠ '\n') line

theorem isOneLine_empty : IsOneLine "".toList := by decide

theorem IsOneLine.append {front back : List Char} (isFront : IsOneLine front)
    (isBack : IsOneLine back) : IsOneLine (front ++ back) := by
  intro c member
  rcases List.mem_append.mp member with left | right
  · exact isFront c left
  · exact isBack c right

inductive Terminator where
  | carriageReturn
  | lineFeed
  | both
  deriving DecidableEq, Repr

def Terminator.toChars : Terminator → List Char
  | carriageReturn => ['\r']
  | lineFeed => ['\n']
  | both => ['\r', '\n']

/-- The text is made of these lines. Only the last line may lack a terminator, and then it is not
empty. A carriage return ends a line by itself only if no line feed comes next. -/
inductive Joins : List (List Char) → List Char → Prop
  | none : Joins [] []
  | unended {line : List Char} (isLine : IsOneLine line) (filled : line ≠ []) : Joins [line] line
  | ended {line text : List Char} {lines : List (List Char)} (isLine : IsOneLine line)
      (terminator : Terminator)
      (apart : terminator = .carriageReturn → text.head? ≠ some '\n')
      (rest : Joins lines text) : Joins (line :: lines) (line ++ terminator.toChars ++ text)

theorem lines_cons {c : Char} (plain : c ≠ '\r' ∧ c ≠ '\n') {text first : List Char}
    {more : List (List Char)} (rest : lines text = first :: more) :
    lines (c :: text) = (c :: first) :: more := by
  rw [lines, rest]
  · intro _ equal
    exact absurd equal plain.1
  · exact plain.1
  · exact plain.2

theorem lines_append {line : List Char} (isLine : IsOneLine line) {text first : List Char}
    {more : List (List Char)} (rest : lines text = first :: more) :
    lines (line ++ text) = (line ++ first) :: more := by
  induction line with
  | nil => exact rest
  | cons head tail induction =>
      have tailIsLine : IsOneLine tail := fun c member => isLine c (List.mem_cons_of_mem _ member)
      exact lines_cons (isLine head List.mem_cons_self) (induction tailIsLine)

theorem lines_of_isOneLine {line : List Char} (isLine : IsOneLine line) (filled : line ≠ []) :
    lines line = [line] := by
  rcases List.eq_nil_or_concat line with rfl | ⟨front, last, rfl⟩
  · exact absurd rfl filled
  · have lastIsPlain := isLine last (by simp)
    have lastLine : lines [last] = [[last]] := by
      rw [lines]
      · rfl
      · intro _ equal
        exact absurd equal lastIsPlain.1
      · exact lastIsPlain.1
      · exact lastIsPlain.2
    have frontIsLine : IsOneLine front := fun c member =>
      isLine c (by simp [member])
    simpa using lines_append frontIsLine lastLine

theorem lines_terminator_append (terminator : Terminator) {text : List Char}
    (apart : terminator = .carriageReturn → text.head? ≠ some '\n') :
    lines (terminator.toChars ++ text) = [] :: lines text := by
  cases terminator with
  | lineFeed => simp [Terminator.toChars, lines]
  | both => simp [Terminator.toChars, lines]
  | carriageReturn =>
      cases text with
      | nil => simp [Terminator.toChars, lines]
      | cons head tail =>
          have different : head ≠ '\n' := fun equal => apart rfl (by simp [equal])
          rw [Terminator.toChars, List.singleton_append, lines]
          intro rest equal
          exact different (List.cons.inj equal).1

/-- Lines that have been joined are read back. -/
theorem Joins.lines_eq {rows : List (List Char)} {text : List Char} (joins : Joins rows text) :
    lines text = rows := by
  induction joins with
  | none => rfl
  | unended isLine filled => exact lines_of_isOneLine isLine filled
  | ended isLine terminator apart _ induction =>
      rw [List.append_assoc, lines_append isLine (lines_terminator_append terminator apart),
        induction, List.append_nil]

theorem Joins.cons {c : Char} (plain : c ≠ '\r' ∧ c ≠ '\n') {first : List Char}
    {more : List (List Char)} {text : List Char} (joins : Joins (first :: more) text) :
    Joins ((c :: first) :: more) (c :: text) := by
  have longer : ∀ {line : List Char}, IsOneLine line → IsOneLine (c :: line) := by
    intro line isLine other member
    rcases List.mem_cons.mp member with rfl | member
    · exact plain
    · exact isLine other member
  cases joins with
  | unended isLine filled => exact .unended (longer isLine) (List.cons_ne_nil _ _)
  | ended isLine terminator apart rest => exact .ended (longer isLine) terminator apart rest

/-- Every text is made of its lines. -/
theorem joins_lines (text : List Char) : Joins (lines text) text := by
  have empty : IsOneLine [] := by simp [IsOneLine]
  fun_induction lines text with
  | case1 => exact .none
  | case2 rest induction => exact .ended empty .both (by simp) induction
  | case3 rest notBoth induction =>
      refine .ended empty .carriageReturn ?_ induction
      intro _ feed
      rcases List.head?_eq_some_iff.mp feed with ⟨tail, equal⟩
      exact notBoth tail (by rw [equal])
  | case4 rest induction => exact .ended empty .lineFeed (by simp) induction
  | case5 c rest _ notReturn notFeed lineless induction =>
      rw [lineless] at induction
      cases induction
      exact .unended (by simp_all [IsOneLine]) (List.cons_ne_nil _ _)
  | case6 c rest _ notReturn notFeed line more split induction =>
      rw [split] at induction
      exact induction.cons ⟨by simp_all, by simp_all⟩

theorem head?_of_lines {text line : List Char} {rest : List (List Char)} {c : Char}
    (split : lines text = line :: rest) (head : line.head? = some c) : text.head? = some c := by
  have joins : Joins (line :: rest) text := by
    rw [← split]
    exact joins_lines text
  cases joins with
  | unended => exact head
  | ended => rw [List.append_assoc, List.head?_append, head, Option.some_or]

theorem joins_flatMap {rows : List (List Char)} (fit : ∀ row ∈ rows, IsOneLine row) :
    Joins rows (rows.flatMap fun row => row ++ Terminator.both.toChars) := by
  induction rows with
  | nil => exact .none
  | cons row rest induction =>
      have restFits : ∀ other ∈ rest, IsOneLine other := fun other member =>
        fit other (List.mem_cons_of_mem _ member)
      exact .ended (fit row List.mem_cons_self) .both (fun same => nomatch same)
        (induction restFits)

theorem numberFrom_append (first : Nat) (front back : List (List Char)) :
    numberFrom first (front ++ back) =
      numberFrom first front ++ numberFrom (first + front.length) back := by
  induction front generalizing first with
  | nil => rfl
  | cons head tail induction =>
      rw [List.cons_append, numberFrom, induction, numberFrom, List.cons_append,
        List.length_cons, Nat.add_comm tail.length 1, Nat.add_assoc]

theorem joins_iff {rows : List (List Char)} {text : List Char} :
    Joins rows text ↔ lines text = rows := by
  constructor
  · exact Joins.lines_eq
  · rintro rfl
    exact joins_lines text

/-! ## Texts one behind the other -/

def EndsLine (text : List Char) : Prop := text.getLast? = some '\r' ∨ text.getLast? = some '\n'

instance (text : List Char) : Decidable (EndsLine text) := instDecidableOr

/-- A line feed that comes next would make one terminator of a final carriage return and itself. -/
def KeepApart (front back : List Char) : Prop :=
  front.getLast? = some '\r' → back.head? ≠ some '\n'

theorem IsOneLine.not_endsLine {line : List Char} (isLine : IsOneLine line) : ¬EndsLine line := by
  rintro (last | last)
  · exact (isLine _ (List.mem_of_getLast? last)).1 rfl
  · exact (isLine _ (List.mem_of_getLast? last)).2 rfl

theorem Joins.append {rows more : List (List Char)} {front back : List Char}
    (joins : Joins rows front) (behind : Joins more back) (ends : front = [] ∨ EndsLine front)
    (apart : KeepApart front back) : Joins (rows ++ more) (front ++ back) := by
  induction joins with
  | none => exact behind
  | unended isLine filled => exact absurd (ends.resolve_left filled) isLine.not_endsLine
  | @ended line text _ isLine terminator split _ induction =>
      rw [List.append_assoc]
      cases text with
      | nil =>
          refine .ended isLine terminator (fun alone => ?_) (induction (.inl rfl) nofun)
          subst alone
          exact apart (by simp [Terminator.toChars])
      | cons head tail =>
          have sameEnd : (line ++ terminator.toChars ++ head :: tail).getLast? =
              (head :: tail).getLast? := by
            rw [List.getLast?_append, List.getLast?_cons, Option.some_or]
          have textEnds : EndsLine (head :: tail) := by
            rw [EndsLine, ← sameEnd]
            exact ends.resolve_left (by simp)
          exact .ended isLine terminator split
            (induction (.inr textEnds) fun final => apart (sameEnd.trans final))

theorem lines_append_of_endsLine {front back : List Char} (ends : front = [] ∨ EndsLine front)
    (apart : KeepApart front back) : lines (front ++ back) = lines front ++ lines back :=
  ((joins_lines front).append (joins_lines back) ends apart).lines_eq

end BroadcastScenes.Text
