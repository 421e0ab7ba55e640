import BroadcastScenes.Proofs.SceneText.LinesBehind
import BroadcastScenes.Proofs.Text.Cuts

/-!
# Missing colons

Which line of a text is reported for a missing colon. In an object a line needs a colon somewhere.
At the top and in a list, and in an object if it ends in an opening brace, it needs the colon of a
header, at its end. A line that has a colon elsewhere only is reported there all the same.
-/

namespace BroadcastScenes.SceneText

open Text (NumberedLine numberFrom)

def EndsInColon (line : List Char) : Prop :=
  (Text.trim (Text.dropFinal '\x7b' (Text.trim line))).getLast? = some ':'

theorem trimmedHeaderKey?_eq_none_iff {line : List Char} :
    trimmedHeaderKey? line = none ↔ ¬ EndsInColon line := by
  rw [trimmedHeaderKey?, EndsInColon]
  split
  · rename_i colon
    constructor
    · intro equal
      cases equal
    · intro noColon
      exact absurd colon noColon
  · rename_i noColon
    exact ⟨fun _ => noColon, fun _ => rfl⟩

theorem not_endsInColon_of_not_mem {line : List Char} (colonless : ':' ∉ line) :
    ¬ EndsInColon line := fun colon =>
  colonless (Text.mem_of_mem_trim (Text.mem_of_mem_dropFinal
    (Text.mem_of_mem_trim (List.mem_of_getLast? colon))))

theorem keyAndValue?_eq_none_iff {line : List Char} : keyAndValue? line = none ↔ ':' ∉ line := by
  rw [keyAndValue?, Option.map_eq_none_iff, Text.cutAt?_eq_none_iff,
    Text.mem_dropIndent_iff (by decide)]

def expectsHeader : Option Block → List Char → Bool
  | some (.object _), line => opens line
  | _, _ => true

/-- The line has no colon, or has none where it stands for a header. -/
def LacksColon (innermost : Option Block) (line : List Char) : Prop :=
  ':' ∉ line ∨ expectsHeader innermost line = true ∧ ¬ EndsInColon line

/-- The line lacks a colon, and it is neither blank nor the end of a block. -/
structure IsRefused (innermost : Option Block) (line : List Char) : Prop where
  filled : Text.allBlank line = false
  endsNothing : innermost = none ∨ closes line = false
  lacksColon : LacksColon innermost line

theorem lacksColon_iff_of_expectsHeader {innermost : Option Block} {line : List Char}
    (expects : expectsHeader innermost line = true) :
    LacksColon innermost line ↔ ¬ EndsInColon line := by
  constructor
  · rintro (colonless | ⟨_, noHeader⟩)
    · exact not_endsInColon_of_not_mem colonless
    · exact noHeader
  · intro noHeader
    exact .inr ⟨expects, noHeader⟩

theorem lacksColon_iff_of_not_expectsHeader {innermost : Option Block} {line : List Char}
    (expects : ¬ expectsHeader innermost line = true) :
    LacksColon innermost line ↔ ':' ∉ line := by
  constructor
  · rintro (colonless | ⟨expected, _⟩)
    · exact colonless
    · exact absurd expected expects
  · exact .inl

namespace Move

theorem ofHeader_eq_refuse_iff {innermost : Option Block} {line : List Char}
    {opened : List Char → OpenBlock} (expects : expectsHeader innermost line = true) :
    ofHeader line opened = refuse ↔ LacksColon innermost line := by
  rw [lacksColon_iff_of_expectsHeader expects, ← trimmedHeaderKey?_eq_none_iff, ofHeader]
  cases trimmedHeaderKey? line with
  | none => exact ⟨fun _ => rfl, fun _ => rfl⟩
  | some key => constructor <;> intro equal <;> cases equal

theorem ofFilled_eq_refuse_iff {innermost : Option Block} {line : List Char} :
    ofFilled line innermost = refuse ↔
      (innermost = none ∨ closes line = false) ∧ LacksColon innermost line := by
  rcases innermost with _ | ⟨objects | members⟩
  · have expects : expectsHeader none line = true := rfl
    rw [ofFilled, ofHeader_eq_refuse_iff expects]
    simp
  · have expects : expectsHeader (some (.list objects)) line = true := rfl
    rw [ofFilled]
    cases closes line with
    | true => simp
    | false =>
        rw [if_neg Bool.false_ne_true, ofHeader_eq_refuse_iff expects]
        simp
  · have expected : expectsHeader (some (.object members)) line = opens line := rfl
    rw [ofFilled]
    cases closes line with
    | true => simp
    | false =>
        rw [if_neg Bool.false_ne_true]
        cases opening : opens line with
        | true =>
            rw [if_pos rfl, ofHeader_eq_refuse_iff (expected.trans opening)]
            simp
        | false =>
            have notExpected : ¬ expectsHeader (some (.object members)) line = true := by
              rw [expected, opening]
              exact Bool.false_ne_true
            rw [if_neg Bool.false_ne_true, lacksColon_iff_of_not_expectsHeader notExpected,
              ← keyAndValue?_eq_none_iff]
            cases keyAndValue? line <;> simp

theorem ofLine_eq_refuse_iff {innermost : Option Block} {line : List Char} :
    ofLine line innermost = refuse ↔ IsRefused innermost line := by
  rw [ofLine]
  cases blank : Text.allBlank line with
  | true =>
      constructor
      · intro equal
        cases equal
      · intro refused
        rw [refused.filled] at blank
        cases blank
  | false =>
      refine ofFilled_eq_refuse_iff.trans ⟨?_, ?_⟩
      · rintro ⟨endsNothing, lacksColon⟩
        exact ⟨blank, endsNothing, lacksColon⟩
      · intro refused
        exact ⟨refused.endsNothing, refused.lacksColon⟩

end Move

namespace BlockStack

/-- Where lines cannot be read, all lines in front of one of them can, and that one cannot. -/
theorem exists_step_eq_error {first : Nat} {rows : List (List Char)} {stack : BlockStack}
    {error : ReadError} (failed : (numberFrom first rows).foldlM step stack = .error error) :
    ∃ front line back next, rows = front ++ line :: back ∧
      (numberFrom first front).foldlM step stack = .ok next ∧
      next.step ⟨first + front.length, line⟩ = .error error := by
  induction rows generalizing stack first with
  | nil => cases failed
  | cons row rest induction =>
      rw [numberFrom, List.foldlM_cons] at failed
      cases stepped : stack.step ⟨first, row⟩ with
      | error other =>
          rw [stepped] at failed
          cases failed
          exact ⟨[], row, rest, stack, rfl, rfl, stepped⟩
      | ok next =>
          rw [stepped] at failed
          rcases induction failed with ⟨front, line, back, last, rfl, passed, fails⟩
          refine ⟨row :: front, line, back, last, rfl, ?_, ?_⟩
          · rw [numberFrom, List.foldlM_cons, stepped]
            exact passed
          · rwa [List.length_cons, Nat.add_comm front.length, ← Nat.add_assoc]

theorem readRows_of_step_eq_error {front : List (List Char)} {line : List Char}
    {stack : BlockStack} {error : ReadError} (read : after front = .ok stack)
    (failed : stack.step ⟨1 + front.length, line⟩ = .error error) (back : List (List Char)) :
    readRows (front ++ line :: back) = .error error := by
  rw [readRows_append, read]
  change run _ stack (numberFrom _ _) = _
  rw [numberFrom, run_cons, failed]
  rfl

theorem after_eq_missingColon {rows : List (List Char)} {number : Nat} {shown : String}
    (failed : readRows rows = .error (.missingColon number shown)) :
    after rows = .error (.missingColon number shown) := by
  rw [readRows] at failed
  cases read : after rows with
  | error error =>
      rw [read] at failed
      cases failed
      rfl
  | ok stack =>
      rw [read] at failed
      change finish _ stack = _ at failed
      rw [finish] at failed
      split at failed <;> cases failed

end BlockStack

/-- A text is refused for a missing colon exactly at its first line that lacks one where it stands.
Such a line is not blank, and it has no colon, or no colon at its end where it has to be a
header. -/
theorem missing_colon_iff (text shown : String) (number : Nat) :
    read text = .error (.missingColon number shown) ↔
      ∃ front back stack, Text.lines text.toList = front ++ shown.toList :: back ∧
        number = front.length + 1 ∧ BlockStack.after front = .ok stack ∧
        IsRefused stack.innermost? shown.toList := by
  rw [read_eq_readRows]
  constructor
  · intro failed
    rcases BlockStack.exists_step_eq_error (BlockStack.after_eq_missingColon failed) with
      ⟨front, line, back, stack, rows, passed, fails⟩
    rcases BlockStack.step_eq_error_iff.mp fails with ⟨refused, equal⟩
    cases equal
    rw [String.toList_ofList]
    exact ⟨front, back, stack, rows, Nat.add_comm _ _, passed, Move.ofLine_eq_refuse_iff.mp refused⟩
  · rintro ⟨front, back, stack, rows, rfl, passed, refused⟩
    rw [rows]
    apply BlockStack.readRows_of_step_eq_error passed
    rw [BlockStack.step_eq_error_iff]
    refine ⟨Move.ofLine_eq_refuse_iff.mpr refused, ?_⟩
    rw [missingColon, String.ofList_toList, Nat.add_comm]

/-- A value that ends in an opening brace is taken for a header, and its own colon does not
count. -/
example : read "scenes : \x7b\nMain : \x7b\nnote : smile \x7b\n\x7d\n\x7d\n\x7d\n" =
    .error (.missingColon 3 "note : smile \x7b") := by
  rw [read_eq_readRows]
  rfl

end BroadcastScenes.SceneText
