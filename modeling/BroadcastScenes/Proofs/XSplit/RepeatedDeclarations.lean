import BroadcastScenes.Proofs.Markup.RootLines
import BroadcastScenes.Proofs.Text.JoinedLines
import BroadcastScenes.XSplit.Import
import Mathlib.Data.List.TakeWhile
import Mathlib.Logic.Function.Iterate

/-!
# Repeated declarations

A presentation is recognized by its first line behind all declarations, but it is read behind one
declaration at most. With one declaration or none both mean the same line. Of several declarations
the second one is read as the root, and the line that made the file recognizable never is.
-/

namespace BroadcastScenes

namespace Text

def afterLine : List Char → List Char
  | [] => []
  | '\r' :: '\n' :: rest => rest
  | '\r' :: rest => rest
  | '\n' :: rest => rest
  | _ :: rest => afterLine rest

theorem lines_afterLine (text : List Char) : lines (afterLine text) = (lines text).tail := by
  fun_induction lines text with
  | case1 => rfl
  | case2 rest _ => rfl
  | case3 rest noLineFeed _ =>
      rw [afterLine, List.tail_cons]
      exact noLineFeed
  | case4 rest _ => rfl
  | case5 c rest pair carriageReturn lineFeed noLines induction =>
      rw [afterLine, induction, noLines]
      · rfl
      · exact pair
      · exact carriageReturn
      · exact lineFeed
  | case6 c rest pair carriageReturn lineFeed line more lines induction =>
      rw [afterLine, induction, lines]
      · rfl
      · exact pair
      · exact carriageReturn
      · exact lineFeed

theorem lines_iterate_afterLine (count : Nat) (text : List Char) :
    lines (afterLine^[count] text) = (lines text).drop count := by
  induction count with
  | zero => rfl
  | succ count induction =>
      rw [Function.iterate_succ_apply', lines_afterLine, induction, List.tail_drop]

end Text

namespace XSplit

open Markup (Tag)
open Text (numberFrom)
open Markup.TagStack (readRoot read_eq_readRoot readRoot_later readRoot_cases_of_isPrefix
  isMalformed_of_readRoot)

def beginsDeclaration (line : List Char) : Bool := "<?xml".toList.isPrefixOf line

def declarations (text : String) : List (List Char) :=
  (Text.lines text.toList).takeWhile beginsDeclaration

def fromRoot (text : String) : String :=
  String.ofList (Text.afterLine^[(declarations text).length] text.toList)

def ReadAlike : Except ReadError (Option Tag) → Except ReadError (Option Tag) → Prop
  | .ok first, .ok second => first = second
  | .error first, .error second => first.SameKind second
  | _, _ => False

def Fails (reading : Except ReadError (Option Tag)) : Prop := ∃ error, reading = .error error

theorem exists_lines_of_recognizes {text : String} (recognized : recognizes text = true) :
    ∃ row rows, Text.lines text.toList = declarations text ++ row :: rows ∧
      "<configuration".toList <+: row := by
  rw [recognizes] at recognized
  split at recognized
  · rename_i row found
    rcases List.find?_eq_some_iff_append.mp found with ⟨notDeclares, before, rows, split, declare⟩
    refine ⟨row, rows, ?_, List.isPrefixOf_iff_prefix.mp recognized⟩
    rw [declarations, split, List.takeWhile_append_of_pos, List.takeWhile_cons_of_neg,
      List.append_nil]
    · rw [Bool.not_eq_true]
      exact (Bool.not_eq_true' _).mp notDeclares
    · intro line member
      simpa [beginsDeclaration] using declare line member
  · cases recognized

theorem lines_fromRoot {text : String} {rows : List (List Char)}
    (lines : Text.lines text.toList = declarations text ++ rows) :
    Text.lines (fromRoot text).toList = rows := by
  rw [fromRoot, String.toList_ofList, Text.lines_iterate_afterLine, lines, List.drop_left]

theorem skipDeclaration_cons (number : Nat) (row : List Char) (rows : List (List Char)) :
    Markup.skipDeclaration (numberFrom number (row :: rows)) =
      if beginsDeclaration row then numberFrom (number + 1) rows
      else numberFrom number (row :: rows) := rfl

theorem beginsDeclaration_of_mem {text : String} {line : List Char}
    (member : line ∈ declarations text) : beginsDeclaration line = true :=
  List.mem_takeWhile_imp member

theorem not_beginsDeclaration {row : List Char} (begins : "<configuration".toList <+: row) :
    ¬ beginsDeclaration row = true := by
  rw [beginsDeclaration, List.isPrefixOf_iff_prefix]
  intro declares
  exact absurd (List.prefix_of_prefix_length_le declares begins (by decide)) (by decide)

section

variable {text : String} {row : List Char} {rows : List (List Char)}

theorem read_fromRoot (lines : Text.lines text.toList = declarations text ++ row :: rows)
    (begins : "<configuration".toList <+: row) :
    Markup.read (fromRoot text) = readRoot (numberFrom 1 (row :: rows)) := by
  rw [read_eq_readRoot, Text.numberedLines, lines_fromRoot lines, skipDeclaration_cons,
    if_neg (not_beginsDeclaration begins)]

theorem read_of_length_le (lines : Text.lines text.toList = declarations text ++ row :: rows)
    (begins : "<configuration".toList <+: row) (few : (declarations text).length ≤ 1) :
    Markup.read text =
      (Markup.read (fromRoot text)).mapError (ReadError.later (declarations text).length) := by
  have behind : Markup.skipDeclaration (Text.numberedLines text.toList) =
      numberFrom (1 + (declarations text).length) (row :: rows) := by
    rw [Text.numberedLines, lines]
    cases found : declarations text with
    | nil =>
        rw [List.nil_append, skipDeclaration_cons, if_neg (not_beginsDeclaration begins)]
        rfl
    | cons first more =>
        rw [found, List.length_cons] at few
        have declares : beginsDeclaration first = true :=
          beginsDeclaration_of_mem (found ▸ List.mem_cons_self)
        have single : more = [] :=
          List.length_eq_zero_iff.mp (Nat.le_zero.mp (Nat.le_of_succ_le_succ few))
        rw [single, List.cons_append, skipDeclaration_cons, if_pos declares]
        rfl
  rw [read_fromRoot lines begins, read_eq_readRoot, behind, Text.numberFrom_add, readRoot_later]

theorem read_cases_of_lt_length
    (lines : Text.lines text.toList = declarations text ++ row :: rows)
    (many : 1 < (declarations text).length) :
    Fails (Markup.read text) ∨
      ∃ tag, Markup.read text = .ok (some tag) ∧ "?xml".toList <+: tag.kind.toList := by
  have declare : ∀ line ∈ declarations text, beginsDeclaration line = true :=
    fun _ => beginsDeclaration_of_mem
  rw [read_eq_readRoot, Text.numberedLines, lines]
  generalize declarations text = front at declare many
  rcases front with _ | ⟨first, _ | ⟨second, more⟩⟩
  · cases many
  · exact absurd many (Nat.lt_irrefl 1)
  · have secondBegins : '<' :: "?xml".toList <+: second := List.isPrefixOf_iff_prefix.mp
      (declare second (List.mem_cons_of_mem _ List.mem_cons_self))
    rw [List.cons_append, skipDeclaration_cons, if_pos (declare first List.mem_cons_self),
      List.cons_append, numberFrom]
    exact readRoot_cases_of_isPrefix (by decide) (by decide) secondBegins _

theorem fails_of_readAlike (lines : Text.lines text.toList = declarations text ++ row :: rows)
    (begins : "<configuration".toList <+: row) (many : 1 < (declarations text).length)
    (alike : ReadAlike (Markup.read text) (Markup.read (fromRoot text))) :
    Fails (Markup.read text) ∧ Fails (Markup.read (fromRoot text)) := by
  have whole := read_cases_of_lt_length lines many
  have behind : Fails (Markup.read (fromRoot text)) ∨ ∃ tag,
      Markup.read (fromRoot text) = .ok (some tag) ∧
        "configuration".toList <+: tag.kind.toList := by
    have rowBegins : '<' :: "configuration".toList <+: row := begins
    rw [read_fromRoot lines begins, numberFrom]
    exact readRoot_cases_of_isPrefix (by decide) (by decide) rowBegins _
  rcases whole with fails | ⟨tag, read, kind⟩
  · refine ⟨fails, behind.resolve_right ?_⟩
    rintro ⟨tag, read, _⟩
    rcases fails with ⟨error, failed⟩
    rw [failed, read] at alike
    cases alike
  · rcases behind with ⟨error, failed⟩ | ⟨other, otherRead, otherKind⟩
    · rw [failed, read] at alike
      cases alike
    · rw [read, otherRead] at alike
      have same : some tag = some other := alike
      cases same
      have short := List.prefix_of_prefix_length_le kind otherKind (by decide)
      exact absurd short (by decide)

end

theorem readAlike_mapError (count : Nat) (reading : Except ReadError (Option Tag)) :
    ReadAlike (reading.mapError (ReadError.later count)) reading := by
  cases reading with
  | error error => exact error.sameKind_later count
  | ok found => rfl

theorem readAlike_of_fails {first second : String} (firstFails : Fails (Markup.read first))
    (secondFails : Fails (Markup.read second)) :
    ReadAlike (Markup.read first) (Markup.read second) := by
  rcases firstFails with ⟨firstError, firstFound⟩
  rcases secondFails with ⟨secondError, secondFound⟩
  rw [firstFound, secondFound]
  rw [read_eq_readRoot] at firstFound secondFound
  rcases isMalformed_of_readRoot firstFound with ⟨_, _, rfl⟩
  rcases isMalformed_of_readRoot secondFound with ⟨_, _, rfl⟩
  trivial

/-- The reading of a recognized text agrees with the reading from its root on exactly if there is
one declaration at most, or if there is nothing that could be read. -/
theorem recognized_root_is_read_iff (text : String) (recognized : recognizes text = true) :
    ((declarations text).length ≤ 1 → Markup.read text =
      (Markup.read (fromRoot text)).mapError (ReadError.later (declarations text).length)) ∧
    (1 < (declarations text).length → ∀ tag, Markup.read text = .ok (some tag) →
      "?xml".toList <+: tag.kind.toList) ∧
    (ReadAlike (Markup.read text) (Markup.read (fromRoot text)) ↔
      (declarations text).length ≤ 1 ∨
        Fails (Markup.read text) ∧ Fails (Markup.read (fromRoot text))) := by
  rcases exists_lines_of_recognizes recognized with ⟨row, rows, lines, begins⟩
  refine ⟨read_of_length_le lines begins, ?_, ?_⟩
  · intro many tag found
    rcases read_cases_of_lt_length lines many with ⟨error, failed⟩ | ⟨other, same, kind⟩
    · rw [failed] at found
      cases found
    · rw [found] at same
      cases same
      exact kind
  · constructor
    · intro alike
      by_cases few : (declarations text).length ≤ 1
      · exact .inl few
      · exact .inr (fails_of_readAlike lines begins (not_le.mp few) alike)
    · rintro (few | ⟨fails, rootFails⟩)
      · rw [read_of_length_le lines begins few]
        exact readAlike_mapError _ _
      · exact readAlike_of_fails fails rootFails

def twiceDeclaredText : String := "<?xml version=\"1.0\"?>\n<?xml?>\r\n<configuration/>\n"

theorem recognized_root_is_read_iff_twice_declared :
    recognizes twiceDeclaredText = true ∧ (declarations twiceDeclaredText).length = 2 ∧
      fromRoot twiceDeclaredText = "<configuration/>\n" ∧
      ¬ ReadAlike (Markup.read twiceDeclaredText) (Markup.read (fromRoot twiceDeclaredText)) := by
  have recognized : recognizes twiceDeclaredText = true := by decide +kernel
  have two : (declarations twiceDeclaredText).length = 2 := by decide +kernel
  have isRead : (Markup.read (fromRoot twiceDeclaredText)).isOk = true := by decide +kernel
  refine ⟨recognized, two, by decide +kernel, ?_⟩
  rw [(recognized_root_is_read_iff twiceDeclaredText recognized).2.2]
  rintro (few | ⟨_, error, failed⟩)
  · rw [two] at few
    omega
  · rw [failed] at isRead
    cases isRead

end XSplit

end BroadcastScenes
