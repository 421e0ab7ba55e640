import BroadcastScenes.Proofs.Decimal.Rounding

/-!
# Decimal grids

The multiples of a power of ten form a grid, and those in the interval around a double are read as
this double. The nearest of them is one of the two points around the double. It is found with whole
numbers alone, whenever the grid has a point in the interval.
-/

namespace BroadcastScenes.Decimal

def doubleValue (significand : Nat) (exponent : Int) : ℚ := significand * 2 ^ exponent

theorem doubleValue_eq_quarters (significand : Nat) (exponent : Int) :
    doubleValue significand exponent = (4 * significand : Nat) * 2 ^ (exponent - 2) := by
  rw [doubleValue, zpow_sub₀ two_ne_zero]
  push_cast
  ring

section

variable {significand : Nat} {exponent : Int}

theorem isReadAs_iff (number : ℚ) : IsReadAs number significand exponent ↔
    if (Interval.around significand exponent).closed then
      (Interval.around significand exponent).low * 2 ^ (exponent - 2) ≤ number ∧
        number ≤ (Interval.around significand exponent).high * 2 ^ (exponent - 2)
    else
      (Interval.around significand exponent).low * 2 ^ (exponent - 2) < number ∧
        number < (Interval.around significand exponent).high * 2 ^ (exponent - 2) := by
  have unit : (0 : ℚ) < 2 ^ (exponent - 2) := by positivity
  rw [IsReadAs, Interval.Contains]
  simp only [le_div_iff₀ unit, div_le_iff₀ unit, lt_div_iff₀ unit, div_lt_iff₀ unit]

/-- The interval has no gaps. -/
theorem IsReadAs.between {first second middle : ℚ} (reads : IsReadAs first significand exponent)
    (otherReads : IsReadAs second significand exponent) (above : first ≤ middle)
    (below : middle ≤ second) : IsReadAs middle significand exponent := by
  rw [isReadAs_iff] at reads otherReads ⊢
  split
  · rename_i closed
    rw [if_pos closed] at reads otherReads
    exact ⟨reads.1.trans above, below.trans otherReads.2⟩
  · rename_i opened
    rw [if_neg opened] at reads otherReads
    exact ⟨reads.1.trans_le above, below.trans_lt otherReads.2⟩

theorem low_lt (exponent : Int) (positive : 0 < significand) :
    (Interval.around significand exponent).low < 4 * significand := by
  change 4 * significand - (if _ then 1 else 2) < _
  split <;> omega

theorem isReadAs_doubleValue (exponent : Int) (positive : 0 < significand) :
    IsReadAs (doubleValue significand exponent) significand exponent := by
  have unit : (0 : ℚ) < 2 ^ (exponent - 2) := by positivity
  have low := low_lt exponent positive
  have lower : ((Interval.around significand exponent).low : ℚ) * 2 ^ (exponent - 2) <
      doubleValue significand exponent := by
    rw [doubleValue_eq_quarters]
    exact mul_lt_mul_of_pos_right (by exact_mod_cast low) unit
  have upper : doubleValue significand exponent <
      ((Interval.around significand exponent).high : ℚ) * 2 ^ (exponent - 2) := by
    rw [doubleValue_eq_quarters]
    apply mul_lt_mul_of_pos_right _ unit
    exact_mod_cast (by omega : 4 * significand < 4 * significand + 2)
  rw [isReadAs_iff]
  split
  · exact ⟨lower.le, upper.le⟩
  · exact ⟨lower, upper⟩

end

theorem isReadAs_zero : IsReadAs 0 0 (-1074) := by
  rw [isReadAs_iff]
  norm_num [Interval.around]

/-! ## Grids -/

theorem gridScale_ratio (exponent place : Int) :
    ((gridScale exponent place).1 : ℚ) * 10 ^ place =
      (gridScale exponent place).2 * 2 ^ (exponent - 2) := by
  have tens : (10 : ℚ) ^ (-place).toNat * 10 ^ place = 10 ^ place.toNat := by
    rw [← zpow_natCast, ← zpow_natCast, ← zpow_add₀ (by norm_num)]
    congr 1
    omega
  have twos : (2 : ℚ) ^ (2 - exponent).toNat * 2 ^ (exponent - 2) = 2 ^ (exponent - 2).toNat := by
    rw [← zpow_natCast, ← zpow_natCast, ← zpow_add₀ two_ne_zero]
    congr 1
    omega
  change ((2 ^ (exponent - 2).toNat * 10 ^ (-place).toNat : Nat) : ℚ) * 10 ^ place =
    (2 ^ (2 - exponent).toNat * 10 ^ place.toNat : Nat) * 2 ^ (exponent - 2)
  push_cast
  rw [mul_assoc, tens, ← twos]
  ring

theorem gridScale_pos (exponent place : Int) : 0 < (gridScale exponent place).2 :=
  Nat.mul_pos (Nat.pow_pos (by decide)) (Nat.pow_pos (by decide))

theorem quarters_le_steps_iff (exponent place : Int) (quarters steps : Nat) :
    quarters * (gridScale exponent place).1 ≤ steps * (gridScale exponent place).2 ↔
      (quarters : ℚ) * 2 ^ (exponent - 2) ≤ steps * 10 ^ place := by
  have ratio := gridScale_ratio exponent place
  have down : (0 : ℚ) < (gridScale exponent place).2 := by
    exact_mod_cast gridScale_pos exponent place
  have step : (0 : ℚ) < 10 ^ place := by positivity
  rw [← Nat.cast_le (α := ℚ), ← mul_le_mul_iff_of_pos_right step,
    ← mul_le_mul_iff_of_pos_right down (b := (quarters : ℚ) * 2 ^ (exponent - 2))]
  push_cast
  rw [mul_assoc, ratio]
  constructor <;> intro less <;> linarith

theorem steps_le_quarters_iff (exponent place : Int) (quarters steps : Nat) :
    steps * (gridScale exponent place).2 ≤ quarters * (gridScale exponent place).1 ↔
      (steps : ℚ) * 10 ^ place ≤ quarters * 2 ^ (exponent - 2) := by
  have ratio := gridScale_ratio exponent place
  have down : (0 : ℚ) < (gridScale exponent place).2 := by
    exact_mod_cast gridScale_pos exponent place
  have step : (0 : ℚ) < 10 ^ place := by positivity
  rw [← Nat.cast_le (α := ℚ), ← mul_le_mul_iff_of_pos_right step,
    ← mul_le_mul_iff_of_pos_right down (b := (steps : ℚ) * 10 ^ place)]
  push_cast
  rw [mul_assoc (quarters : ℚ), ratio]
  constructor <;> intro less <;> linarith

/-- Of two equally near decimals on a grid, the first one is taken. -/
def Tie.Prefers (tie : Tie) (steps other : Nat) : Prop :=
  match tie with
  | .toEven => steps % 2 = 0
  | .away => other < steps

def gridDistance (significand : Nat) (exponent place : Int) (steps : Nat) : ℚ :=
  |steps * 10 ^ place - doubleValue significand exponent|

structure IsNearestOnGrid (tie : Tie) (significand : Nat) (exponent place : Int) (steps : Nat) :
    Prop where
  reads : IsReadAs (steps * 10 ^ place) significand exponent
  nearest : ∀ other : Nat, IsReadAs (other * 10 ^ place) significand exponent → other ≠ steps →
    gridDistance significand exponent place steps <
        gridDistance significand exponent place other ∨
      (gridDistance significand exponent place steps =
          gridDistance significand exponent place other ∧ tie.Prefers steps other)

section

variable {tie : Tie} {significand floor : Nat} {exponent place : Int}

theorem gridDistance_below (below : floor * 10 ^ place ≤ doubleValue significand exponent)
    {other : Nat} (atMost : other ≤ floor) :
    gridDistance significand exponent place other =
      gridDistance significand exponent place floor + (floor - other : Nat) * 10 ^ place := by
  have step : (0 : ℚ) < 10 ^ place := by positivity
  have steps : (other : ℚ) ≤ floor := by exact_mod_cast atMost
  have lower : (other : ℚ) * 10 ^ place ≤ floor * 10 ^ place :=
    mul_le_mul_of_nonneg_right steps step.le
  rw [gridDistance, gridDistance, abs_of_nonpos (by linarith), abs_of_nonpos (by linarith),
    Nat.cast_sub atMost]
  ring

theorem gridDistance_above (above : doubleValue significand exponent ≤ floor * 10 ^ place)
    {other : Nat} (atLeast : floor ≤ other) :
    gridDistance significand exponent place other =
      gridDistance significand exponent place floor + (other - floor : Nat) * 10 ^ place := by
  have step : (0 : ℚ) < 10 ^ place := by positivity
  have steps : (floor : ℚ) ≤ other := by exact_mod_cast atLeast
  have upper : (floor : ℚ) * 10 ^ place ≤ other * 10 ^ place :=
    mul_le_mul_of_nonneg_right steps step.le
  rw [gridDistance, gridDistance, abs_of_nonneg (by linarith), abs_of_nonneg (by linarith),
    Nat.cast_sub atLeast]
  ring

/-- The multiple just below the double is the nearest one if the one just above is not read as the
double, or is farther away, or is as near and not preferred. -/
theorem isNearestOnGrid_floor (positive : 0 < significand)
    (below : floor * 10 ^ place ≤ doubleValue significand exponent)
    (above : doubleValue significand exponent ≤ (floor + 1 : Nat) * 10 ^ place)
    (reads : IsReadAs (floor * 10 ^ place) significand exponent)
    (next : IsReadAs ((floor + 1 : Nat) * 10 ^ place) significand exponent →
      gridDistance significand exponent place floor <
          gridDistance significand exponent place (floor + 1) ∨
        (gridDistance significand exponent place floor =
            gridDistance significand exponent place (floor + 1) ∧ tie.Prefers floor (floor + 1))) :
    IsNearestOnGrid tie significand exponent place floor := by
  have step : (0 : ℚ) < 10 ^ place := by positivity
  refine ⟨reads, ?_⟩
  intro other otherReads different
  rcases Nat.lt_or_ge other floor with less | more
  · left
    rw [gridDistance_below below less.le]
    have farther : (0 : ℚ) < (floor - other : Nat) * 10 ^ place :=
      mul_pos (by exact_mod_cast Nat.sub_pos_of_lt less) step
    linarith
  · have atLeast : floor + 1 ≤ other := by omega
    have upper : ((floor + 1 : Nat) : ℚ) * 10 ^ place ≤ other * 10 ^ place :=
      mul_le_mul_of_nonneg_right (by exact_mod_cast atLeast) step.le
    have nextReads := (isReadAs_doubleValue exponent positive).between otherReads above upper
    rw [gridDistance_above above atLeast]
    rcases Nat.eq_or_lt_of_le atLeast with equal | greater
    · rw [← equal, Nat.sub_self, Nat.cast_zero, zero_mul, add_zero]
      exact next nextReads
    · left
      have farther : (0 : ℚ) < (other - (floor + 1) : Nat) * 10 ^ place :=
        mul_pos (by exact_mod_cast Nat.sub_pos_of_lt greater) step
      rcases next nextReads with nearer | ⟨equal, _⟩ <;> linarith

theorem isNearestOnGrid_next (positive : 0 < significand)
    (below : floor * 10 ^ place ≤ doubleValue significand exponent)
    (above : doubleValue significand exponent ≤ (floor + 1 : Nat) * 10 ^ place)
    (reads : IsReadAs ((floor + 1 : Nat) * 10 ^ place) significand exponent)
    (former : IsReadAs (floor * 10 ^ place) significand exponent →
      gridDistance significand exponent place (floor + 1) <
          gridDistance significand exponent place floor ∨
        (gridDistance significand exponent place (floor + 1) =
            gridDistance significand exponent place floor ∧ tie.Prefers (floor + 1) floor)) :
    IsNearestOnGrid tie significand exponent place (floor + 1) := by
  have step : (0 : ℚ) < 10 ^ place := by positivity
  refine ⟨reads, ?_⟩
  intro other otherReads different
  rcases Nat.lt_or_ge (floor + 1) other with more | less
  · left
    rw [gridDistance_above above more.le]
    have farther : (0 : ℚ) < (other - (floor + 1) : Nat) * 10 ^ place :=
      mul_pos (by exact_mod_cast Nat.sub_pos_of_lt more) step
    linarith
  · have atMost : other ≤ floor := by omega
    have lower : (other : ℚ) * 10 ^ place ≤ floor * 10 ^ place :=
      mul_le_mul_of_nonneg_right (by exact_mod_cast atMost) step.le
    have formerReads := otherReads.between (isReadAs_doubleValue exponent positive) lower below
    rw [gridDistance_below below atMost]
    rcases Nat.eq_or_lt_of_le atMost with equal | smaller
    · rw [equal, Nat.sub_self, Nat.cast_zero, zero_mul, add_zero]
      exact former formerReads
    · left
      have farther : (0 : ℚ) < (floor - other : Nat) * 10 ^ place :=
        mul_pos (by exact_mod_cast Nat.sub_pos_of_lt smaller) step
      rcases former formerReads with nearer | ⟨equal, _⟩ <;> linarith

end

/-! ## Points on a grid -/

def gridFloor (significand : Nat) (exponent place : Int) : Nat :=
  4 * significand * (gridScale exponent place).1 / (gridScale exponent place).2

section

variable {significand : Nat} {exponent place : Int}

theorem gridFloor_le (significand : Nat) (exponent place : Int) :
    gridFloor significand exponent place * 10 ^ place ≤ doubleValue significand exponent := by
  rw [doubleValue_eq_quarters, ← steps_le_quarters_iff]
  exact Nat.div_mul_le_self _ _

theorem lt_gridFloor_add_one (significand : Nat) (exponent place : Int) :
    doubleValue significand exponent <
      (gridFloor significand exponent place + 1 : Nat) * 10 ^ place := by
  rw [doubleValue_eq_quarters, ← not_le, ← steps_le_quarters_iff, not_le]
  exact (Nat.div_lt_iff_lt_mul (gridScale_pos exponent place)).mp (Nat.lt_succ_self _)

theorem floorFits_iff :
    (if (Interval.around significand exponent).closed then
        (Interval.around significand exponent).low * (gridScale exponent place).1 ≤
          gridFloor significand exponent place * (gridScale exponent place).2
      else
        (Interval.around significand exponent).low * (gridScale exponent place).1 <
          gridFloor significand exponent place * (gridScale exponent place).2) ↔
      IsReadAs (gridFloor significand exponent place * 10 ^ place) significand exponent := by
  have unit : (0 : ℚ) < 2 ^ (exponent - 2) := by positivity
  have below := gridFloor_le significand exponent place
  have high : doubleValue significand exponent <
      (Interval.around significand exponent).high * 2 ^ (exponent - 2) := by
    rw [doubleValue_eq_quarters]
    apply mul_lt_mul_of_pos_right _ unit
    exact_mod_cast (by omega : 4 * significand < 4 * significand + 2)
  have upper := below.trans_lt high
  rw [isReadAs_iff]
  split
  · rw [quarters_le_steps_iff]
    exact ⟨fun lower => ⟨lower, upper.le⟩, fun bounds => bounds.1⟩
  · rw [← not_le, steps_le_quarters_iff, not_le]
    exact ⟨fun lower => ⟨lower, upper⟩, fun bounds => bounds.1⟩

theorem nextFits_iff (positive : 0 < significand) :
    (if (Interval.around significand exponent).closed then
        (gridFloor significand exponent place + 1) * (gridScale exponent place).2 ≤
          (Interval.around significand exponent).high * (gridScale exponent place).1
      else
        (gridFloor significand exponent place + 1) * (gridScale exponent place).2 <
          (Interval.around significand exponent).high * (gridScale exponent place).1) ↔
      IsReadAs ((gridFloor significand exponent place + 1 : Nat) * 10 ^ place)
        significand exponent := by
  have unit : (0 : ℚ) < 2 ^ (exponent - 2) := by positivity
  have above := lt_gridFloor_add_one significand exponent place
  have low : (Interval.around significand exponent).low * 2 ^ (exponent - 2) <
      doubleValue significand exponent := by
    rw [doubleValue_eq_quarters]
    exact mul_lt_mul_of_pos_right (by exact_mod_cast low_lt exponent positive) unit
  have lower := low.trans above
  rw [isReadAs_iff]
  split
  · rw [steps_le_quarters_iff]
    exact ⟨fun upper => ⟨lower.le, upper⟩, fun bounds => bounds.2⟩
  · rw [← not_le, quarters_le_steps_iff, not_le]
    exact ⟨fun upper => ⟨lower, upper⟩, fun bounds => bounds.2⟩

theorem gridDistance_floor :
    ((4 * significand * (gridScale exponent place).1 -
        gridFloor significand exponent place * (gridScale exponent place).2 : Nat) : ℚ) *
        10 ^ place =
      gridDistance significand exponent place (gridFloor significand exponent place) *
        (gridScale exponent place).2 := by
  have ratio := gridScale_ratio exponent place
  have below := gridFloor_le significand exponent place
  have whole : gridFloor significand exponent place * (gridScale exponent place).2 ≤
      4 * significand * (gridScale exponent place).1 := Nat.div_mul_le_self _ _
  rw [gridDistance, abs_of_nonpos (by linarith), Nat.cast_sub whole, doubleValue_eq_quarters]
  push_cast
  rw [sub_mul, mul_assoc _ _ ((10 : ℚ) ^ place), ratio]
  ring

theorem gridDistance_next :
    (((gridFloor significand exponent place + 1) * (gridScale exponent place).2 -
        4 * significand * (gridScale exponent place).1 : Nat) : ℚ) * 10 ^ place =
      gridDistance significand exponent place (gridFloor significand exponent place + 1) *
        (gridScale exponent place).2 := by
  have ratio := gridScale_ratio exponent place
  have above := lt_gridFloor_add_one significand exponent place
  have whole : 4 * significand * (gridScale exponent place).1 ≤
      (gridFloor significand exponent place + 1) * (gridScale exponent place).2 :=
    ((Nat.div_lt_iff_lt_mul (gridScale_pos exponent place)).mp (Nat.lt_succ_self _)).le
  rw [gridDistance, abs_of_nonneg (by linarith), Nat.cast_sub whole, doubleValue_eq_quarters]
  push_cast
  rw [sub_mul, mul_assoc _ _ ((10 : ℚ) ^ place), mul_assoc _ _ ((10 : ℚ) ^ place), ratio]
  ring

theorem floor_nearer_iff :
    4 * significand * (gridScale exponent place).1 -
          gridFloor significand exponent place * (gridScale exponent place).2 <
        (gridFloor significand exponent place + 1) * (gridScale exponent place).2 -
          4 * significand * (gridScale exponent place).1 ↔
      gridDistance significand exponent place (gridFloor significand exponent place) <
        gridDistance significand exponent place (gridFloor significand exponent place + 1) := by
  have down : (0 : ℚ) < (gridScale exponent place).2 := by
    exact_mod_cast gridScale_pos exponent place
  have step : (0 : ℚ) < 10 ^ place := by positivity
  rw [← mul_lt_mul_iff_of_pos_right down, ← gridDistance_floor, ← gridDistance_next,
    mul_lt_mul_iff_of_pos_right step, Nat.cast_lt]

theorem next_nearer_iff :
    (gridFloor significand exponent place + 1) * (gridScale exponent place).2 -
          4 * significand * (gridScale exponent place).1 <
        4 * significand * (gridScale exponent place).1 -
          gridFloor significand exponent place * (gridScale exponent place).2 ↔
      gridDistance significand exponent place (gridFloor significand exponent place + 1) <
        gridDistance significand exponent place (gridFloor significand exponent place) := by
  have down : (0 : ℚ) < (gridScale exponent place).2 := by
    exact_mod_cast gridScale_pos exponent place
  have step : (0 : ℚ) < 10 ^ place := by positivity
  rw [← mul_lt_mul_iff_of_pos_right down, ← gridDistance_floor, ← gridDistance_next,
    mul_lt_mul_iff_of_pos_right step, Nat.cast_lt]

def Tie.choice (tie : Tie) (floor : Nat) : Nat :=
  match tie with
  | .toEven => if floor % 2 = 0 then floor else floor + 1
  | .away => floor + 1

open Classical in
/-- The tests on whole numbers say which of the two points around the double are read as it, and
which one is nearer. -/
theorem gridPoint?_eq (tie : Tie) (positive : 0 < significand) :
    gridPoint? tie significand exponent place =
      let floor := gridFloor significand exponent place
      let distance := gridDistance significand exponent place
      if IsReadAs (floor * 10 ^ place) significand exponent ∧
          IsReadAs ((floor + 1 : Nat) * 10 ^ place) significand exponent then
        if distance floor < distance (floor + 1) then some floor
        else if distance (floor + 1) < distance floor then some (floor + 1)
        else some (tie.choice floor)
      else if IsReadAs (floor * 10 ^ place) significand exponent then some floor
      else if IsReadAs ((floor + 1 : Nat) * 10 ^ place) significand exponent then some (floor + 1)
      else none := by
  have tieChoice : ∀ floor : Nat, (match tie with
      | .toEven => some (if floor % 2 = 0 then floor else floor + 1)
      | .away => some (floor + 1)) = some (tie.choice floor) := by
    intro floor
    cases tie <;> rfl
  rw [gridPoint?]
  exact if_congr (and_congr floorFits_iff (nextFits_iff positive))
    (if_congr floor_nearer_iff rfl (if_congr next_nearer_iff rfl (tieChoice _)))
    (if_congr floorFits_iff rfl (if_congr (nextFits_iff positive) rfl rfl))

theorem isNearestOnGrid_of_gridPoint? {tie : Tie} {steps : Nat} (positive : 0 < significand)
    (found : gridPoint? tie significand exponent place = some steps) :
    IsNearestOnGrid tie significand exponent place steps := by
  have below := gridFloor_le significand exponent place
  have above := (lt_gridFloor_add_one significand exponent place).le
  rw [gridPoint?_eq tie positive] at found
  dsimp only at found
  split at found
  · rename_i both
    split at found
    · rename_i nearer
      obtain rfl := Option.some.inj found
      exact isNearestOnGrid_floor positive below above both.1 fun _ => .inl nearer
    · rename_i notNearer
      split at found
      · rename_i nextNearer
        obtain rfl := Option.some.inj found
        exact isNearestOnGrid_next positive below above both.2 fun _ => .inl nextNearer
      · rename_i nextNotNearer
        have tied := le_antisymm (not_lt.mp nextNotNearer) (not_lt.mp notNearer)
        obtain rfl := Option.some.inj found
        cases tie with
        | away =>
            exact isNearestOnGrid_next positive below above both.2 fun _ =>
              .inr ⟨tied.symm, Nat.lt_succ_self _⟩
        | toEven =>
            rw [Tie.choice]
            split
            · rename_i even
              exact isNearestOnGrid_floor positive below above both.1 fun _ => .inr ⟨tied, even⟩
            · rename_i odd
              exact isNearestOnGrid_next positive below above both.2 fun _ =>
                .inr ⟨tied.symm, by rw [Tie.Prefers]; omega⟩
  · rename_i notBoth
    split at found
    · rename_i floorReads
      obtain rfl := Option.some.inj found
      exact isNearestOnGrid_floor positive below above floorReads fun nextReads =>
        absurd ⟨floorReads, nextReads⟩ notBoth
    · rename_i floorFails
      split at found
      · rename_i nextReads
        obtain rfl := Option.some.inj found
        exact isNearestOnGrid_next positive below above nextReads fun floorReads =>
          absurd floorReads floorFails
      · cases found

theorem gridPoint?_isSome (tie : Tie) {steps : Nat} (positive : 0 < significand)
    (reads : IsReadAs (steps * 10 ^ place) significand exponent) :
    (gridPoint? tie significand exponent place).isSome := by
  have below := gridFloor_le significand exponent place
  have above := (lt_gridFloor_add_one significand exponent place).le
  have step : (0 : ℚ) < 10 ^ place := by positivity
  have either : IsReadAs (gridFloor significand exponent place * 10 ^ place) significand
        exponent ∨
      IsReadAs ((gridFloor significand exponent place + 1 : Nat) * 10 ^ place) significand
        exponent := by
    rcases Nat.lt_or_ge (gridFloor significand exponent place) steps with more | less
    · right
      apply (isReadAs_doubleValue exponent positive).between reads above
      exact mul_le_mul_of_nonneg_right (by exact_mod_cast more) step.le
    · left
      apply reads.between (isReadAs_doubleValue exponent positive) _ below
      exact mul_le_mul_of_nonneg_right (by exact_mod_cast less) step.le
  rw [gridPoint?_eq tie positive]
  dsimp only
  split
  · split
    · rfl
    · split <;> rfl
  · rename_i notBoth
    split
    · rfl
    · rename_i floorFails
      rw [if_pos (either.resolve_left floorFails)]
      rfl

end

end BroadcastScenes.Decimal
