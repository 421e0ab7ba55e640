/-!
# Bounded integers

Integers of a document have 64 bits with sign. A number that does not fit is either refused or
moved to the nearer end of the range; it never wraps around.
-/

namespace BroadcastScenes.Decimal

def wordBound : Int := 0x8000000000000000

def fitsWord (number : Int) : Bool :=
  decide (-wordBound ≤ number) && decide (number < wordBound)

def exactWord? (number : Int) : Option Int64 :=
  if fitsWord number then some (Int64.ofInt number) else none

def clampWord (number : Int) : Int64 :=
  if number < -wordBound then Int64.minValue
  else if wordBound ≤ number then Int64.maxValue
  else Int64.ofInt number

def integerText (number : Int) : List Char :=
  if number < 0 then '-' :: Nat.toDigits 10 number.natAbs else Nat.toDigits 10 number.natAbs

example : clampWord (wordBound + 5) = Int64.maxValue := by decide

example : integerText (-40) = ['-', '4', '0'] := by decide

end BroadcastScenes.Decimal
