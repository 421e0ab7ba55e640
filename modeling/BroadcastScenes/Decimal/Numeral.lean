import BroadcastScenes.Decimal.Binary

/-!
# Reading decimals

A written decimal is a sign, digits, and a power of ten. It is read as the double nearest to it.
-/

namespace BroadcastScenes.Decimal

structure Numeral where
  negative : Bool
  significand : Nat
  exponent : Int
  deriving DecidableEq, Repr

def Numeral.ofDigits (negative : Bool) (whole fraction : List Char) (exponent : Int) : Numeral where
  negative := negative
  significand := Nat.ofDigitChars 10 (whole ++ fraction) 0
  exponent := exponent - fraction.length

/-- The magnitude of the double nearest to the numeral. The leading digit alone settles numbers
far outside the range of doubles, so that a long exponent costs no long arithmetic. -/
def Numeral.magnitude (numeral : Numeral) : Float :=
  let leading := (Nat.toDigits 10 numeral.significand).length + numeral.exponent
  if numeral.significand = 0 ∨ leading < -400 then 0
  else if 400 < leading then Float.ofBits 0x7FF0000000000000
  else Float.ofScientific numeral.significand (numeral.exponent < 0) numeral.exponent.natAbs

def Numeral.toFloat (numeral : Numeral) : Float :=
  if numeral.negative then -numeral.magnitude else numeral.magnitude

def Numeral.toInt (numeral : Numeral) : Int :=
  if numeral.negative then -(numeral.significand : Int) else numeral.significand

def floatOfInt (number : Int) : Float :=
  Numeral.toFloat ⟨decide (number < 0), number.natAbs, 0⟩

example : (Numeral.ofDigits true ['2'] ['5'] 1).toFloat = -25 := by decide +kernel

end BroadcastScenes.Decimal
