/-!
# Parts of a written number

A number is written with a sign, with digits, and with digits behind a point. Each part is cut off
the start of a text, and each of them may be missing.
-/

namespace BroadcastScenes.Decimal

def cutSign : List Char → Bool × List Char
  | '-' :: rest => (true, rest)
  | '+' :: rest => (false, rest)
  | rest => (false, rest)

def cutDigits (text : List Char) : List Char × List Char :=
  (text.takeWhile Char.isDigit, text.dropWhile Char.isDigit)

def cutFraction : List Char → List Char × List Char
  | '.' :: rest => cutDigits rest
  | rest => ([], rest)

theorem length_cutSign_le (text : List Char) : (cutSign text).2.length ≤ text.length := by
  unfold cutSign
  split <;> simp

theorem length_cutDigits (text : List Char) :
    (cutDigits text).1.length + (cutDigits text).2.length = text.length := by
  rw [← List.length_append]
  simp [cutDigits, List.takeWhile_append_dropWhile]

end BroadcastScenes.Decimal
