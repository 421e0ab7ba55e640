import BroadcastScenes.Decimal.Shortest
import Mathlib.Algebra.Order.Field.Power
import Mathlib.Data.Rat.Cast.Order
import Mathlib.Tactic.FieldSimp
import Mathlib.Tactic.Linarith
import Mathlib.Tactic.Positivity
import Mathlib.Tactic.Ring

/-!
# Rounding to doubles

A number is rounded to the nearest double, and of two that are equally near to the one with an even
significand. Below the least exponent the doubles stand equally far apart, and above it their steps
double with each power of two. The numbers that are rounded to a double are those in the interval
around it.
-/

namespace BroadcastScenes.Decimal

/-- The whole number is nearest to the number, and even where two are. -/
def RoundsTo (number : ℚ) (whole : Nat) : Prop :=
  |number - whole| ≤ 1 / 2 ∧ (|number - whole| = 1 / 2 → whole % 2 = 0)

theorem RoundsTo.of_lt {number : ℚ} {whole : Nat} (near : |number - whole| < 1 / 2) :
    RoundsTo number whole :=
  ⟨near.le, fun tie => absurd tie near.ne⟩

theorem RoundsTo.unique {number : ℚ} {first second : Nat} (isFirst : RoundsTo number first)
    (isSecond : RoundsTo number second) : first = second := by
  rcases isFirst with ⟨firstNear, firstTie⟩
  rcases isSecond with ⟨secondNear, secondTie⟩
  by_contra different
  wlog less : first < second generalizing first second
  · exact this secondNear secondTie firstNear firstTie (Ne.symm different) (by omega)
  have step : (first : ℚ) + 1 ≤ second := by exact_mod_cast less
  have firstBound := (abs_le.mp firstNear).2
  have secondBound := (abs_le.mp secondNear).1
  -- both lie half a step away, so they are neighbours and not both even
  have next : (second : ℚ) = first + 1 := by linarith
  have middle : number = first + 1 / 2 := by linarith
  have firstEven := firstTie (by rw [middle]; norm_num)
  have secondEven := secondTie (by rw [middle, next]; norm_num)
  have nextWhole : second = first + 1 := by exact_mod_cast next
  omega

/-- An even whole number is taken from half a step below it to half a step above it, and an odd one
from between these. -/
theorem roundsTo_iff {number : ℚ} {whole : Nat} :
    RoundsTo number whole ↔
      if whole % 2 = 0 then whole - 1 / 2 ≤ number ∧ number ≤ whole + 1 / 2
      else whole - 1 / 2 < number ∧ number < whole + 1 / 2 := by
  split
  · rename_i even
    rw [RoundsTo, abs_le]
    constructor
    · rintro ⟨⟨lower, upper⟩, _⟩
      constructor <;> linarith
    · rintro ⟨lower, upper⟩
      exact ⟨⟨by linarith, by linarith⟩, fun _ => even⟩
  · rename_i odd
    constructor
    · rintro ⟨near, tie⟩
      have within := abs_lt.mp (lt_of_le_of_ne near fun equal => odd (tie equal))
      constructor <;> linarith
    · rintro ⟨lower, upper⟩
      apply RoundsTo.of_lt
      rw [abs_lt]
      constructor <;> linarith

theorem RoundsTo.lower {number : ℚ} {whole : Nat} (rounds : RoundsTo number whole) :
    (whole : ℚ) - 1 / 2 ≤ number := by
  have bounds := abs_le.mp rounds.1
  linarith

theorem RoundsTo.upper {number : ℚ} {whole : Nat} (rounds : RoundsTo number whole) :
    number ≤ whole + 1 / 2 := by
  have bounds := abs_le.mp rounds.1
  linarith

/-! ## Doubles -/

/-- The significand and the exponent of a double, in the one way in which doubles are taken apart,
but without a bound on the exponent. -/
structure IsDouble (significand : Nat) (exponent : Int) : Prop where
  fits : significand < 2 ^ 53
  least : -1074 ≤ exponent
  full : exponent = -1074 ∨ 2 ^ 52 ≤ significand

/-- Numbers of this size are counted in steps of `2 ^ scale` by doubles. -/
structure HasScale (number : ℚ) (scale : Int) : Prop where
  least : -1074 ≤ scale
  fits : number / 2 ^ scale < 2 ^ 53
  full : scale = -1074 ∨ 2 ^ 52 ≤ number / 2 ^ scale

theorem HasScale.unique {number : ℚ} {first second : Int} (isFirst : HasScale number first)
    (isSecond : HasScale number second) : first = second := by
  by_contra different
  wlog less : first < second generalizing first second
  · exact this isSecond isFirst (Ne.symm different) (by omega)
  have large := isSecond.full.resolve_left (by have := isFirst.least; omega)
  rw [le_div_iff₀ (by positivity)] at large
  have small := isFirst.fits
  rw [div_lt_iff₀ (by positivity)] at small
  have growth : (2 : ℚ) ^ (first + 1) ≤ 2 ^ second := zpow_le_zpow_right₀ one_le_two less
  rw [zpow_add_one₀ two_ne_zero] at growth
  linarith

/-- The double is what the number is rounded to: the nearest whole number of steps. The next power
of two has steps of its own. -/
def IsRounding (number : ℚ) (significand : Nat) (exponent : Int) : Prop :=
  ∃ scale whole, HasScale number scale ∧ RoundsTo (number / 2 ^ scale) whole ∧
    ((whole < 2 ^ 53 ∧ significand = whole ∧ exponent = scale) ∨
      (whole = 2 ^ 53 ∧ significand = 2 ^ 52 ∧ exponent = scale + 1))

theorem IsRounding.unique {number : ℚ} {significand other : Nat} {exponent otherExponent : Int}
    (isFirst : IsRounding number significand exponent)
    (isSecond : IsRounding number other otherExponent) :
    significand = other ∧ exponent = otherExponent := by
  rcases isFirst with ⟨scale, whole, hasScale, rounds, first⟩
  rcases isSecond with ⟨otherScale, otherWhole, hasOtherScale, otherRounds, second⟩
  obtain rfl := hasScale.unique hasOtherScale
  obtain rfl := rounds.unique otherRounds
  omega

def Interval.Contains (interval : Interval) (number : ℚ) : Prop :=
  if interval.closed then interval.low ≤ number ∧ number ≤ interval.high
  else interval.low < number ∧ number < interval.high

def IsReadAs (number : ℚ) (significand : Nat) (exponent : Int) : Prop :=
  (Interval.around significand exponent).Contains (number / 2 ^ (exponent - 2))

theorem quarters_eq (number : ℚ) (exponent : Int) :
    number / 2 ^ (exponent - 2) = 4 * (number / 2 ^ exponent) := by
  rw [zpow_sub₀ two_ne_zero]
  norm_num
  ring

theorem halves_eq (number : ℚ) (exponent : Int) :
    number / 2 ^ (exponent - 1) = 2 * (number / 2 ^ exponent) := by
  rw [zpow_sub_one₀ two_ne_zero]
  norm_num
  ring

section

variable {number : ℚ} {significand : Nat} {exponent : Int}

theorem isReadAs_iff_roundsTo (notNegative : 0 ≤ number)
    (wide : ¬(significand = 2 ^ 52 ∧ -1074 < exponent)) :
    IsReadAs number significand exponent ↔ RoundsTo (number / 2 ^ exponent) significand := by
  have scaledNotNegative : 0 ≤ number / 2 ^ exponent := by positivity
  have low : (Interval.around significand exponent).low = 4 * significand - 2 := by
    change 4 * significand - (if significand = 2 ^ 52 ∧ -1074 < exponent then 1 else 2) = _
    rw [if_neg wide]
  rw [IsReadAs, Interval.Contains, quarters_eq, low, roundsTo_iff]
  generalize number / 2 ^ exponent = steps at scaledNotNegative
  simp only [Interval.around, beq_iff_eq, Nat.cast_add, Nat.cast_mul, Nat.cast_ofNat]
  rcases Nat.eq_zero_or_pos significand with rfl | positive
  · norm_num
    constructor
    · rintro ⟨_, upper⟩
      constructor <;> linarith
    · rintro ⟨_, upper⟩
      constructor <;> linarith
  · rw [Nat.cast_sub (by omega)]
    push_cast
    split
    · constructor
      · rintro ⟨lower, upper⟩
        constructor <;> linarith
      · rintro ⟨lower, upper⟩
        constructor <;> linarith
    · constructor
      · rintro ⟨lower, upper⟩
        constructor <;> linarith
      · rintro ⟨lower, upper⟩
        constructor <;> linarith

theorem isReadAs_power_iff (above : -1074 < exponent) :
    IsReadAs number (2 ^ 52) exponent ↔
      2 ^ 52 - 1 / 4 ≤ number / 2 ^ exponent ∧ number / 2 ^ exponent ≤ 2 ^ 52 + 1 / 2 := by
  have low : (Interval.around (2 ^ 52) exponent).low = 4 * 2 ^ 52 - 1 := by
    change 4 * 2 ^ 52 - (if 2 ^ 52 = 2 ^ 52 ∧ -1074 < exponent then 1 else 2) = _
    rw [if_pos ⟨rfl, above⟩]
  rw [IsReadAs, Interval.Contains, quarters_eq, low]
  generalize number / 2 ^ exponent = steps
  norm_num [Interval.around]
  constructor
  · rintro ⟨lower, upper⟩
    constructor <;> linarith
  · rintro ⟨lower, upper⟩
    constructor <;> linarith

/-- A double is what exactly the numbers in its interval are rounded to. -/
theorem isReadAs_iff_isRounding (notNegative : 0 ≤ number)
    (isDouble : IsDouble significand exponent) :
    IsReadAs number significand exponent ↔ IsRounding number significand exponent := by
  have fits : (significand : ℚ) + 1 ≤ 2 ^ 53 := by exact_mod_cast isDouble.fits
  by_cases power : significand = 2 ^ 52 ∧ -1074 < exponent
  · rcases power with ⟨rfl, above⟩
    rw [isReadAs_power_iff above]
    constructor
    · rintro ⟨lower, upper⟩
      by_cases below : number / 2 ^ exponent < 2 ^ 52
      · refine ⟨exponent - 1, 2 ^ 53, ⟨by omega, ?_, .inr ?_⟩, ?_,
          .inr ⟨rfl, rfl, by omega⟩⟩
        · rw [halves_eq]
          linarith
        · rw [halves_eq]
          linarith
        · rw [halves_eq, roundsTo_iff, if_pos (by norm_num)]
          push_cast
          constructor <;> linarith
      · refine ⟨exponent, 2 ^ 52, ⟨by omega, by linarith, .inr (not_lt.mp below)⟩, ?_,
          .inl ⟨by norm_num, rfl, rfl⟩⟩
        rw [roundsTo_iff, if_pos (by norm_num)]
        push_cast
        constructor <;> linarith
    · rintro ⟨scale, whole, hasScale, rounds, ⟨_, rfl, rfl⟩ | ⟨rfl, _, rfl⟩⟩
      · have lower := hasScale.full.resolve_left (by omega)
        rw [roundsTo_iff, if_pos (by norm_num)] at rounds
        push_cast at rounds
        constructor <;> linarith
      · have steps : number / 2 ^ scale = 2 * (number / 2 ^ (scale + 1)) := by
          rw [← halves_eq, add_sub_cancel_right]
        have upper := hasScale.fits
        rw [roundsTo_iff, if_pos (by norm_num)] at rounds
        push_cast at rounds
        rw [steps] at rounds upper
        constructor <;> linarith
  · rw [isReadAs_iff_roundsTo notNegative power]
    constructor
    · intro rounds
      have bounds := abs_le.mp rounds.1
      refine ⟨exponent, significand, ⟨isDouble.least, by linarith, ?_⟩, rounds,
        .inl ⟨isDouble.fits, rfl, rfl⟩⟩
      rcases isDouble.full with least | full
      · exact .inl least
      · by_cases atLeast : exponent = -1074
        · exact .inl atLeast
        · have different : significand ≠ 2 ^ 52 := fun equal =>
            power ⟨equal, lt_of_le_of_ne isDouble.least (Ne.symm atLeast)⟩
          have greater : (2 : ℚ) ^ 52 + 1 ≤ significand := by
            exact_mod_cast lt_of_le_of_ne full (Ne.symm different)
          exact .inr (by linarith)
    · rintro ⟨scale, whole, hasScale, rounds, ⟨_, rfl, rfl⟩ | ⟨_, rfl, rfl⟩⟩
      · exact rounds
      · exact absurd ⟨rfl, by have := hasScale.least; omega⟩ power

end

end BroadcastScenes.Decimal
