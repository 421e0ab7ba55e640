import BroadcastScenes.Decimal.Word

/-!
# Doubles in exact terms

A finite double is a whole number times a power of two. Everything that is computed about doubles
in this library, other than their own arithmetic, is computed on these two numbers.
-/

namespace BroadcastScenes.Decimal

inductive Binary where
  /-- The number `significand * 2 ^ exponent`, or its negative. Zero has a sign too. -/
  | finite (negative : Bool) (significand : Nat) (exponent : Int)
  | infinite (negative : Bool)
  | notANumber
  deriving DecidableEq, Repr

namespace Binary

def ofFloat (number : Float) : Binary :=
  let bits := number.toBits.toNat
  let negative := bits / Nat.pow 2 63 == 1
  let biased : Nat := bits / Nat.pow 2 52 % Nat.pow 2 11
  let fraction := bits % Nat.pow 2 52
  if biased = 2047 then
    if fraction = 0 then .infinite negative else .notANumber
  else if biased = 0 then .finite negative fraction (-1074)
  else .finite negative (fraction + Nat.pow 2 52) ((biased : Int) - 1075)

def wholePart (significand : Nat) (exponent : Int) : Nat :=
  if 0 ≤ exponent then significand * Nat.pow 2 exponent.toNat
  else significand / Nat.pow 2 (-exponent).toNat

def truncate : Binary → Int64
  | .finite negative significand exponent =>
      let whole : Int := wholePart significand exponent
      clampWord (if negative then -whole else whole)
  | .infinite negative => if negative then Int64.minValue else Int64.maxValue
  | .notANumber => 0

def isFinite : Binary → Bool
  | .finite .. => true
  | _ => false

end Binary

example : Binary.ofFloat 0.75 = .finite false (3 * 2 ^ 51) (-53) := by decide

example : (Binary.ofFloat (-2.75)).truncate = -2 := by decide

end BroadcastScenes.Decimal
