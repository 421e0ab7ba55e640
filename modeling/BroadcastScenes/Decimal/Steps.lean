import BroadcastScenes.Decimal.Numeral

/-!
# Decimals read in steps

To find the double nearest to a decimal takes exact arithmetic. A quicker way makes a double of the
digits, of as many as a word of 64 bits has room for, and multiplies it by a power of ten or divides
it by one. Each step is rounded, so that a neighbour of the nearest double may come out.
-/

namespace BroadcastScenes.Decimal

/-- The least number that a word of 64 bits has no room for. -/
def wordSize : Nat := 0x10000000000000000

def takeWord (number : Nat) : List Char → Nat × List Char
  | [] => (number, [])
  | digit :: rest =>
      let longer := 10 * number + (digit.toNat - '0'.toNat)
      if longer < wordSize then takeWord longer rest else (number, digit :: rest)

/-- The numeral with the first of these digits only. Digits that are left out before the point still
count as places. -/
def Numeral.ofFirstDigits (negative : Bool) (whole fraction : List Char) (exponent : Int) :
    Numeral :=
  let (start, wholeLeft) := takeWord 0 whole
  let (significand, fractionLeft) := takeWord start fraction
  { negative := negative
    significand := significand
    exponent := exponent + wholeLeft.length - (fraction.length - fractionLeft.length : Nat) }

def powerOfTen (places : Nat) : Float := Numeral.magnitude ⟨false, 1, places⟩

def lastPlace : Nat := 308

def timesPower (number : Float) (places : Nat) : Float :=
  if places ≤ lastPlace then number * powerOfTen places
  else if number == 0 then number
  else Float.ofBits 0x7FF0000000000000

/-- What has become zero on the way is not divided any further. -/
def overPower (number : Float) (places : Nat) : Float :=
  if places ≤ lastPlace then number / powerOfTen places
  else if number == 0 then number
  else overPower (number / powerOfTen lastPlace) (places - lastPlace)
termination_by places
decreasing_by
  unfold lastPlace at *
  omega

def Numeral.inSteps (numeral : Numeral) : Float :=
  let digits := Numeral.magnitude ⟨false, numeral.significand, 0⟩
  let scaled :=
    if 0 ≤ numeral.exponent then timesPower digits numeral.exponent.natAbs
    else overPower digits numeral.exponent.natAbs
  if numeral.negative then -scaled else scaled

/-- A digit behind the point may have room where one before it had none. -/
example : Numeral.ofFirstDigits false "18446744073709551616".toList ['3'] 0 =
    ⟨false, 18446744073709551613, 0⟩ := by decide

/-- The nearest double is another one. -/
example : (Numeral.mk false 15143488341801853 (-13)).inSteps = 1514.3488341801851 := by
  decide +kernel

end BroadcastScenes.Decimal
