import BroadcastScenes.Text.Lines

/-!
# Reading line by line

A reader hands out the lines of a text one at a time. It keeps what is left of the text, and it
counts the lines that it has handed out, so that a message can name the line that was read last.
-/

namespace BroadcastScenes.Text

def isLineBreak (c : Char) : Bool := c == '\r' || c == '\n'

def dropTerminator : List Char → List Char
  | '\r' :: '\n' :: rest => rest
  | '\r' :: rest => rest
  | '\n' :: rest => rest
  | rest => rest

structure LineReader where
  rest : List Char
  /-- The number of the line that was handed out last; zero before the first. -/
  lineNumber : Nat
  deriving DecidableEq, Repr

namespace LineReader

def start (text : List Char) : LineReader := ⟨text, 0⟩

def next (reader : LineReader) : Option (List Char) × LineReader :=
  if reader.rest.isEmpty then (none, reader)
  else
    let line := reader.rest.takeWhile (!isLineBreak ·)
    let behind := reader.rest.dropWhile (!isLineBreak ·)
    (some line, ⟨dropTerminator behind, reader.lineNumber + 1⟩)

def after (reader : LineReader) : Nat → LineReader
  | 0 => reader
  | calls + 1 => reader.next.2.after calls

/-- An empty line between two terminators is a line, and there is none at the end of the text. -/
example : ((start "a\r\n\rb\n".toList).after 2).next = (some ['b'], ⟨[], 3⟩) ∧
    ((start "a\r\n\rb\n".toList).after 5).next = (none, ⟨[], 3⟩) := by decide

end LineReader

end BroadcastScenes.Text
