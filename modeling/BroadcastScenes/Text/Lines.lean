/-!
# Lines

A line ends at a carriage return with a line feed, at a line feed, or at a carriage return alone.
The end of the text ends the last line, so a final terminator opens no further line, while an
empty line between two terminators is a line like any other.
-/

namespace BroadcastScenes.Text

def lines : List Char → List (List Char)
  | [] => []
  | '\r' :: '\n' :: rest => [] :: lines rest
  | '\r' :: rest => [] :: lines rest
  | '\n' :: rest => [] :: lines rest
  | c :: rest =>
      match lines rest with
      | [] => [[c]]
      | line :: more => (c :: line) :: more

/-- All three terminators may be mixed; an unterminated last line counts. -/
example : lines "one\ntwo\r\n\rfour".toList =
    ["one".toList, "two".toList, [], "four".toList] := by decide

example : lines "a\r\n".toList = ["a".toList] := by decide

structure NumberedLine where
  number : Nat
  text : List Char
  deriving DecidableEq, Repr

def numberFrom (first : Nat) : List (List Char) → List NumberedLine
  | [] => []
  | line :: rest => ⟨first, line⟩ :: numberFrom (first + 1) rest

def numberedLines (text : List Char) : List NumberedLine := numberFrom 1 (lines text)

end BroadcastScenes.Text
