import BroadcastScenes.Decimal.Binary

/-!
# The shortest decimal that reads back

Between the two halfway points around a double lie all the decimals that are read as this double.
The shortest of them is searched for on ever finer decimal grids: a grid has a point in that
interval exactly when the point just below the double or the one just above is in it. The first
grid with such a point gives the fewest digits. All arithmetic is on whole numbers.
-/

namespace BroadcastScenes.Decimal

structure Scientific where
  digits : Nat
  exponent : Int
  deriving DecidableEq, Repr

inductive Tie where
  | toEven
  | away
  deriving DecidableEq, Repr

/-- The interval of numbers that are read as the double `significand * 2 ^ exponent`, in quarters
of its last place. Below a power of two the doubles stand twice as close, so the lower end is
nearer there; the ends belong to the interval when the significand is even. -/
structure Interval where
  low : Nat
  centre : Nat
  high : Nat
  closed : Bool

def Interval.around (significand : Nat) (exponent : Int) : Interval where
  low := 4 * significand - if significand = Nat.pow 2 52 ∧ -1074 < exponent then 1 else 2
  centre := 4 * significand
  high := 4 * significand + 2
  closed := significand % 2 == 0

/-- The numerator and denominator that a number of quarters of `2 ^ exponent` is multiplied and
divided by to be counted in steps of `10 ^ place`. -/
def gridScale (exponent place : Int) : Nat × Nat :=
  (Nat.pow 2 (exponent - 2).toNat * Nat.pow 10 (-place).toNat,
    Nat.pow 2 (2 - exponent).toNat * Nat.pow 10 place.toNat)

def gridPoint? (tie : Tie) (significand : Nat) (exponent place : Int) : Option Nat :=
  let interval := Interval.around significand exponent
  let (up, down) := gridScale exponent place
  let centre := interval.centre * up
  let floor := centre / down
  let lowFits :=
    if interval.closed then interval.low * up ≤ floor * down else interval.low * up < floor * down
  let highFits :=
    if interval.closed then (floor + 1) * down ≤ interval.high * up
    else (floor + 1) * down < interval.high * up
  if lowFits ∧ highFits then
    let below := centre - floor * down
    let above := (floor + 1) * down - centre
    if below < above then some floor
    else if above < below then some (floor + 1)
    else match tie with
      | .toEven => some (if floor % 2 = 0 then floor else floor + 1)
      | .away => some (floor + 1)
  else if lowFits then some floor
  else if highFits then some (floor + 1)
  else none

/-- A place no lower than that of the leading digit of `significand * 2 ^ exponent`, and at most
two above it: 0.30103 is slightly more than the decimal logarithm of two. -/
def leadingPlace (significand : Nat) (exponent : Int) : Int :=
  (significand.log2 + 1 + exponent) * 30103 / 100000 + 1

/-- The shortest decimal that is read as the double `significand * 2 ^ exponent`, and of the
shortest ones the nearest. Seventeen digits are always enough, so the search from a place just
above the leading digit meets one within twenty places. -/
def shortest (tie : Tie) (significand : Nat) (exponent : Int) : Scientific :=
  let place := leadingPlace significand exponent
  let found := (List.range 24).findSome? fun (lower : Nat) =>
    (gridPoint? tie significand exponent (place - lower)).map fun digits =>
      (⟨digits, place - lower⟩ : Scientific)
  found.getD ⟨significand, 0⟩

/-- The sum of a tenth and two tenths needs all seventeen digits. -/
example : shortest .toEven 5404319552844596 (-54) = ⟨30000000000000004, -17⟩ := by decide +kernel

/-- The least positive double is written with one digit. -/
example : shortest .toEven 1 (-1074) = ⟨5, -324⟩ := by decide +kernel

end BroadcastScenes.Decimal
