/-!
# Errors of reading

What can be wrong with a text that is read line by line. Each error names its line.
-/

namespace BroadcastScenes

inductive ReadError where
  /-- A line that should hold a key and a colon has no colon in the right place. -/
  | missingColon (line : Nat) (text : String)
  /-- The text ends inside an open block. -/
  | unexpectedEnd (line : Nat)
  /-- An attribute lacks its equals sign or one of its quotes. -/
  | malformedAttribute (line : Nat) (text : String)
  deriving DecidableEq, Repr

namespace ReadError

def line : ReadError → Nat
  | missingColon line _ => line
  | unexpectedEnd line => line
  | malformedAttribute line _ => line

def complaint : ReadError → String
  | missingColon _ text => "expected `key : value`, found `" ++ text ++ "`"
  | unexpectedEnd _ => "unexpected end of input inside an open block"
  | malformedAttribute _ text => "malformed attribute in `" ++ text ++ "`"

def message (error : ReadError) : String :=
  "line " ++ String.ofList (Nat.toDigits 10 error.line) ++ ": " ++ error.complaint

example : (unexpectedEnd 12).message =
    "line 12: unexpected end of input inside an open block" := by decide

end ReadError

end BroadcastScenes
