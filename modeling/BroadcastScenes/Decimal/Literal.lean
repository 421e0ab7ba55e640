import BroadcastScenes.Decimal.Cut
import BroadcastScenes.Decimal.Numeral

/-!
# Literals of doubles

A literal is a text that is a double from its first character to its last: a decimal with a sign and
a power of ten, which it need not have, or one of the words for infinity and for what is no number.
-/

namespace BroadcastScenes.Decimal

inductive Literal where
  | decimal (numeral : Numeral)
  | infinite (negative : Bool)
  /-- What is no number has no sign to be told by. -/
  | notANumber
  deriving DecidableEq, Repr

namespace Literal

def exponent? : List Char → Option Int
  | [] => some 0
  | mark :: rest =>
      let (negative, unsigned) := cutSign rest
      let (digits, behind) := cutDigits unsigned
      if (mark = 'e' ∨ mark = 'E') ∧ digits ≠ [] ∧ behind = [] then
        some (Numeral.ofDigits negative digits [] 0).toInt
      else none

def unsigned? (negative : Bool) (text : List Char) : Option Numeral :=
  let (whole, afterWhole) := cutDigits text
  let (fraction, afterFraction) := cutFraction afterWhole
  if whole.isEmpty && fraction.isEmpty then none
  else (exponent? afterFraction).map (Numeral.ofDigits negative whole fraction)

def infinityWords : List (List Char) := ["inf".toList, "infinity".toList]

def notANumberWord : List Char := "nan".toList

def ofWord? (negative : Bool) (word : List Char) : Option Literal :=
  let lower := word.map Char.toLower
  if lower ∈ infinityWords then some (.infinite negative)
  else if lower = notANumberWord then some .notANumber
  else none

def read? (text : List Char) : Option Literal :=
  let (negative, unsigned) := cutSign text
  match unsigned? negative unsigned with
  | some numeral => some (.decimal numeral)
  | none => ofWord? negative unsigned

def toFloat : Literal → Float
  | .decimal numeral => numeral.toFloat
  | .infinite negative => Float.ofBits (if negative then 0xFFF0000000000000 else 0x7FF0000000000000)
  | .notANumber => Float.ofBits 0x7FF8000000000000

example : read? "-.5E+3".toList = some (.decimal ⟨true, 5, 2⟩) := by decide

/-- A literal is read to its end. -/
example : read? "2e".toList = none := by decide

example : read? "-Infinity".toList = some (.infinite true) := by decide

end Literal

end BroadcastScenes.Decimal
