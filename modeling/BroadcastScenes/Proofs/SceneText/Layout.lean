import BroadcastScenes.Proofs.SceneText.LinesBehind
import Mathlib.Logic.Relation

/-!
# The layout of scene texts

How far a line is indented, where blank lines stand, and which terminators end the lines does not
change what a text says, and not the kind of error in a text that says nothing. The headers at the
top are an exception: the one of the shared objects is told from the others by the whole line, so
that an indent would make it a header of scenes.
-/

namespace BroadcastScenes.SceneText

open Text (NumberedLine numberFrom)

/-! ## Alike readings -/

def Alike : Except ReadError α → Except ReadError α → Prop
  | .ok first, .ok second => first = second
  | .error first, .error second => first.SameKind second
  | _, _ => False

namespace Alike

theorem refl (reading : Except ReadError α) : Alike reading reading := by
  cases reading with
  | error error => exact ReadError.SameKind.refl error
  | ok value => rfl

theorem symm {first second : Except ReadError α} (alike : Alike first second) :
    Alike second first := by
  rcases first with _ | _ <;> rcases second with _ | _
  · exact ReadError.SameKind.symm alike
  · exact alike
  · exact alike
  · exact Eq.symm alike

theorem trans {first second third : Except ReadError α} (alike : Alike first second)
    (further : Alike second third) : Alike first third := by
  rcases first with _ | _ <;> rcases second with _ | _
  · rcases third with _ | _
    · exact ReadError.SameKind.trans alike further
    · exact further
  · cases alike
  · cases alike
  · cases alike
    exact further

theorem bind {first second : Except ReadError α} {next other : α → Except ReadError β}
    (alike : Alike first second) (later : ∀ value, Alike (next value) (other value)) :
    Alike (first >>= next) (second >>= other) := by
  rcases first with _ | value <;> rcases second with _ | _
  · exact alike
  · cases alike
  · cases alike
  · cases alike
    exact later value

theorem mapError_later (reading : Except ReadError α) (count : Nat) :
    Alike (reading.mapError (ReadError.later count)) reading := by
  cases reading with
  | error error => exact error.sameKind_later count
  | ok value => rfl

end Alike

/-! ## Indented lines -/

section

variable {indent : List Char} (isIndent : Text.IsIndent indent)

include isIndent

theorem closes_indent (line : List Char) : closes (indent ++ line) = closes line := by
  rw [closes, closes, Text.getLast?_trimEnd_append isIndent.allBlank]

theorem opens_indent (line : List Char) : opens (indent ++ line) = opens line := by
  rw [opens, opens, Text.getLast?_trimEnd_append isIndent.allBlank]

theorem headerKey?_indent (line : List Char) : headerKey? (indent ++ line) = headerKey? line := by
  rw [headerKey?, headerKey?, Text.dropIndent_append isIndent]

theorem keyAndValue?_indent (line : List Char) :
    keyAndValue? (indent ++ line) = keyAndValue? line := by
  rw [keyAndValue?, keyAndValue?, Text.dropIndent_append isIndent]

theorem Move.ofHeader_indent (line : List Char) (opened : List Char → OpenBlock) :
    ofHeader (indent ++ line) opened = ofHeader line opened := by
  rw [ofHeader, ofHeader, ← headerKey?_eq_trimmedHeaderKey?, ← headerKey?_eq_trimmedHeaderKey?,
    headerKey?_indent isIndent]

/-- Inside a block an indent says nothing, and at the top only in front of a header. -/
theorem Move.ofLine_indent {line : List Char} {innermost : Option Block}
    (inner : innermost = none → headerKey? line = none) :
    ofLine (indent ++ line) innermost = ofLine line innermost := by
  rw [ofLine, ofLine, Text.allBlank_append_left isIndent.allBlank]
  congr 1
  rcases innermost with _ | ⟨objects | members⟩
  · rw [ofFilled, ofFilled, ofHeader, ofHeader, ← headerKey?_eq_trimmedHeaderKey?,
      ← headerKey?_eq_trimmedHeaderKey?, headerKey?_indent isIndent, inner rfl]
  · rw [ofFilled, ofFilled, closes_indent isIndent, ofHeader_indent isIndent]
  · rw [ofFilled, ofFilled, closes_indent isIndent, opens_indent isIndent,
      ofHeader_indent isIndent, keyAndValue?_indent isIndent]

theorem BlockStack.alike_step_indent {stack : BlockStack} {line : List Char}
    (inner : stack.openBlocks = [] → headerKey? line = none) (number : Nat) :
    Alike (stack.step ⟨number, indent ++ line⟩) (stack.step ⟨number, line⟩) := by
  have sameMove := Move.ofLine_indent isIndent fun top => inner (innermost?_eq_none_iff.mp top)
  rw [step_eq_make, step_eq_make, sameMove]
  cases Move.ofLine line stack.innermost? with
  | refuse => trivial
  | _ => exact .refl _

end

/-! ## Changes of the layout -/

def IsTopHeader (front : List (List Char)) (line : List Char) : Prop :=
  (∃ content, BlockStack.readRows front = .ok content) ∧ (headerKey? line).isSome

namespace BlockStack

theorem headerKey?_eq_none_of_not_isTopHeader {front : List (List Char)} {line : List Char}
    {stack : BlockStack} (read : after front = .ok stack) (inner : ¬ IsTopHeader front line)
    (closed : stack.openBlocks = []) : headerKey? line = none := by
  by_contra header
  exact inner ⟨⟨_, readRows_of_closed read closed⟩, Option.isSome_iff_ne_none.mpr header⟩

theorem alike_readRows_indent {front : List (List Char)} {old new line : List Char}
    (isOld : Text.IsIndent old) (isNew : Text.IsIndent new)
    (inner : ¬ IsTopHeader front (old ++ line)) (back : List (List Char)) :
    Alike (readRows (front ++ (old ++ line) :: back))
      (readRows (front ++ (new ++ line) :: back)) := by
  rw [readRows_append, readRows_append]
  cases read : after front with
  | error error => exact .refl _
  | ok stack =>
      have noHeader (closed : stack.openBlocks = []) : headerKey? line = none := by
        rw [← headerKey?_indent isOld]
        exact headerKey?_eq_none_of_not_isTopHeader read inner closed
      change Alike (run _ stack (numberFrom _ _)) (run _ stack (numberFrom _ _))
      rw [numberFrom, numberFrom, run_cons, run_cons]
      have alike := (alike_step_indent isOld noHeader (1 + front.length)).trans
        (alike_step_indent isNew noHeader (1 + front.length)).symm
      exact alike.bind fun next => .refl _

theorem alike_readRows_blank {blank : List Char} (isBlank : Text.allBlank blank = true)
    (front back : List (List Char)) :
    Alike (readRows (front ++ blank :: back)) (readRows (front ++ back)) := by
  rw [readRows_append, readRows_append]
  refine (Alike.refl _).bind fun stack => ?_
  rw [numberFrom, run_cons, step_of_isBlank isBlank, List.length_cons, ← Nat.add_assoc,
    Text.numberFrom_add]
  change Alike (run _ stack _) _
  rw [run_later]
  exact .mapError_later _ _

end BlockStack

/-- One text is the other with a different layout in one place. A line gets another indent, unless
it is a header at the top; a blank line is put in or taken out; or the lines get other
terminators. -/
inductive LayoutChange (text changed : String) : Prop
  | indent {front back : List (List Char)} {old new line : List Char}
      (isOld : Text.IsIndent old) (isNew : Text.IsIndent new)
      (inner : ¬ IsTopHeader front (old ++ line))
      (rows : Text.lines text.toList = front ++ (old ++ line) :: back)
      (changedRows : Text.lines changed.toList = front ++ (new ++ line) :: back)
  | putBlank {front back : List (List Char)} {blank : List Char}
      (isBlank : Text.allBlank blank = true) (rows : Text.lines text.toList = front ++ back)
      (changedRows : Text.lines changed.toList = front ++ blank :: back)
  | takeBlank {front back : List (List Char)} {blank : List Char}
      (isBlank : Text.allBlank blank = true)
      (rows : Text.lines text.toList = front ++ blank :: back)
      (changedRows : Text.lines changed.toList = front ++ back)
  | endLines (rows : Text.lines changed.toList = Text.lines text.toList)

theorem LayoutChange.alike {text changed : String} (change : LayoutChange text changed) :
    Alike (read text) (read changed) := by
  rw [read_eq_readRows, read_eq_readRows]
  cases change with
  | indent isOld isNew inner rows changedRows =>
      rw [rows, changedRows]
      exact BlockStack.alike_readRows_indent isOld isNew inner _
  | putBlank isBlank rows changedRows =>
      rw [rows, changedRows]
      exact (BlockStack.alike_readRows_blank isBlank _ _).symm
  | takeBlank isBlank rows changedRows =>
      rw [rows, changedRows]
      exact BlockStack.alike_readRows_blank isBlank _ _
  | endLines rows =>
      rw [rows]
      exact .refl _

theorem alike_of_layoutChanges {text changed : String}
    (changes : Relation.ReflTransGen LayoutChange text changed) :
    Alike (read text) (read changed) := by
  induction changes with
  | refl => exact .refl _
  | tail _ change alike => exact alike.trans change.alike

/-- Changes of the layout change neither the content of a text nor the kind of error in it. -/
theorem layout_says_nothing {text changed : String}
    (changes : Relation.ReflTransGen LayoutChange text changed) :
    (∀ content, read text = .ok content → read changed = .ok content) ∧
    (∀ error, read text = .error error →
      ∃ other, read changed = .error other ∧ other.SameKind error) := by
  have alike := alike_of_layoutChanges changes
  constructor
  · intro content reading
    rw [reading] at alike
    cases read : read changed with
    | error error =>
        rw [read] at alike
        cases alike
    | ok other =>
        rw [read] at alike
        exact congrArg Except.ok (Eq.symm alike)
  · intro error fails
    rw [fails] at alike
    cases read : read changed with
    | error other =>
        rw [read] at alike
        exact ⟨other, rfl, ReadError.SameKind.symm alike⟩
    | ok content =>
        rw [read] at alike
        cases alike

/-- The indent of a header at the top makes a difference. -/
example : read " global sources : \x7b\n\x7d" = .ok [("scenes", .array [])] := by
  rw [read_eq_readRows]
  rfl

def indentedScene : String := "scenes : \x7b\n  Main : \x7b\n    size : 4\n  \x7d\n\x7d\n"

def rearrangedScene : String :=
  "scenes : \x7b\r  Main : \x7b\r\n\tsize : 4\n\u00a0\n  \x7d\r\n\x7d"

theorem layout_says_nothing_rearranged_scene :
    read rearrangedScene = .ok [("scenes", .array [.object
      [("size", .integer 4), ("name", .string "Main")]])] ∧
    ∃ error, read "scenes : \x7b\r\nMain : \x7b" = .error error ∧
      error.SameKind (.unexpectedEnd 3) := by
  have reading : read indentedScene = .ok [("scenes", .array [.object
      [("size", .integer 4), ("name", .string "Main")]])] := by
    rw [read_eq_readRows]
    rfl
  have inner : ¬ IsTopHeader ["scenes : \x7b".toList, "  Main : \x7b".toList]
      ("    ".toList ++ "size : 4".toList) := by
    rintro ⟨_, header⟩
    revert header
    decide
  have tab : LayoutChange indentedScene
      "scenes : \x7b\n  Main : \x7b\n\tsize : 4\n  \x7d\n\x7d\n" :=
    .indent (by decide) (by decide : Text.IsIndent "\t".toList) inner rfl rfl
  have blank : LayoutChange "scenes : \x7b\n  Main : \x7b\n\tsize : 4\n  \x7d\n\x7d\n"
      rearrangedScene :=
    .putBlank (by decide : Text.allBlank "\u00a0".toList = true)
      (rfl : _ = ["scenes : \x7b".toList, "  Main : \x7b".toList, "\tsize : 4".toList] ++
        ["  \x7d".toList, "\x7d".toList]) rfl
  have noEnd : read "scenes : \x7b\n\nMain : \x7b" = .error (.unexpectedEnd 3) := by
    rw [read_eq_readRows]
    rfl
  have noBlank : LayoutChange "scenes : \x7b\n\nMain : \x7b" "scenes : \x7b\r\nMain : \x7b" :=
    .takeBlank (by decide : Text.allBlank [] = true)
      (rfl : _ = ["scenes : \x7b".toList] ++ [] :: ["Main : \x7b".toList]) rfl
  exact ⟨(layout_says_nothing (.tail (.single tab) blank)).1 _ reading,
    (layout_says_nothing (.single noBlank)).2 _ noEnd⟩

end BroadcastScenes.SceneText
