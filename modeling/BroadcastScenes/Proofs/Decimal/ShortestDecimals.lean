import BroadcastScenes.Proofs.Decimal.DecimalGrids
import BroadcastScenes.Proofs.Decimal.PowerEstimates

/-!
# Shortest decimals

The decimal that is found for a double is read as this double, no decimal with fewer places is, and
none with as many places is nearer. The search always ends with such a decimal: its last grid is
finer than a quarter of the double's last place. Above its first grid there is none to be found.
-/

namespace BroadcastScenes.Decimal

/-! ## The search -/

def Scientific.size (decimal : Scientific) : ℚ := decimal.digits * 10 ^ decimal.exponent

/-- The decimal is read as the double, none with fewer places is, and none with as many places is
nearer. -/
structure IsShortest (tie : Tie) (significand : Nat) (exponent : Int) (decimal : Scientific) :
    Prop where
  nearest : IsNearestOnGrid tie significand exponent decimal.exponent decimal.digits
  noCoarser : ∀ steps : Nat, ¬IsReadAs (steps * 10 ^ (decimal.exponent + 1)) significand exponent

section

variable {significand : Nat} {exponent place : Int}

/-- On a grid that is finer than a quarter of the double's last place, the point just below the
double is read as it. -/
theorem isReadAs_gridFloor (positive : 0 < significand)
    (fine : (10 : ℚ) ^ place ≤ 2 ^ (exponent - 2)) :
    IsReadAs (gridFloor significand exponent place * 10 ^ place) significand exponent := by
  have unit : (0 : ℚ) < 2 ^ (exponent - 2) := by positivity
  have below := gridFloor_le significand exponent place
  have above := lt_gridFloor_add_one significand exponent place
  have lowQuarters : ((Interval.around significand exponent).low : ℚ) + 1 ≤
      (4 * significand : Nat) := by
    exact_mod_cast low_lt exponent positive
  have low : ((Interval.around significand exponent).low : ℚ) * 2 ^ (exponent - 2) +
      2 ^ (exponent - 2) ≤ doubleValue significand exponent := by
    rw [doubleValue_eq_quarters]
    calc ((Interval.around significand exponent).low : ℚ) * 2 ^ (exponent - 2) +
          2 ^ (exponent - 2)
        = ((Interval.around significand exponent).low + 1) * 2 ^ (exponent - 2) := by ring
      _ ≤ (4 * significand : Nat) * 2 ^ (exponent - 2) :=
          mul_le_mul_of_nonneg_right lowQuarters unit.le
  have lower : ((Interval.around significand exponent).low : ℚ) * 2 ^ (exponent - 2) <
      gridFloor significand exponent place * 10 ^ place := by
    push_cast at above
    rw [add_mul, one_mul] at above
    linarith
  have centre := (isReadAs_iff _).mp (isReadAs_doubleValue exponent positive)
  rw [isReadAs_iff]
  split
  · rename_i closed
    rw [if_pos closed] at centre
    exact ⟨lower.le, below.trans centre.2⟩
  · rename_i opened
    rw [if_neg opened] at centre
    exact ⟨lower, below.trans_lt centre.2⟩

theorem IsReadAs.low_le {number : ℚ} (reads : IsReadAs number significand exponent) :
    (Interval.around significand exponent).low * 2 ^ (exponent - 2) ≤ number := by
  rw [isReadAs_iff] at reads
  split at reads
  · exact reads.1
  · exact reads.1.le

theorem IsReadAs.le_high {number : ℚ} (reads : IsReadAs number significand exponent) :
    number ≤ (Interval.around significand exponent).high * 2 ^ (exponent - 2) := by
  rw [isReadAs_iff] at reads
  split at reads
  · exact reads.2
  · exact reads.2.le

theorem pos_of_isReadAs {steps : Nat} (positive : 0 < significand)
    (reads : IsReadAs (steps * 10 ^ place) significand exponent) : 0 < steps := by
  have low : 0 < (Interval.around significand exponent).low := by
    change 0 < 4 * significand - (if _ then 1 else 2)
    split <;> omega
  have size : (0 : ℚ) < steps * 10 ^ place :=
    calc (0 : ℚ)
        < (Interval.around significand exponent).low * 2 ^ (exponent - 2) :=
          mul_pos (by exact_mod_cast low) (by positivity)
      _ ≤ steps * 10 ^ place := reads.low_le
  exact_mod_cast pos_of_mul_pos_left size (by positivity)

theorem log2_lt_of_isDouble (isDouble : IsDouble significand exponent) : significand.log2 < 53 := by
  rcases Nat.eq_zero_or_pos significand with rfl | positive
  · decide
  · exact (Nat.log2_lt positive.ne').mpr isDouble.fits

theorem exists_isReadAs_finest (positive : 0 < significand)
    (isDouble : IsDouble significand exponent) (bounded : exponent ≤ 971) :
    ∃ steps : Nat, IsReadAs (steps * 10 ^ (leadingPlace significand exponent - 23))
      significand exponent := by
  have bits := log2_lt_of_isDouble isDouble
  have least := isDouble.least
  refine ⟨_, isReadAs_gridFloor positive (ten_zpow_le_two_zpow ?_ ?_)⟩ <;>
    · rw [leadingPlace]
      omega

theorem not_isReadAs_above_leadingPlace (positive : 0 < significand)
    (isDouble : IsDouble significand exponent) (bounded : exponent ≤ 971)
    (above : leadingPlace significand exponent < place) (steps : Nat) :
    ¬IsReadAs (steps * 10 ^ place) significand exponent := by
  intro reads
  have unit : (0 : ℚ) < 2 ^ (exponent - 2) := by positivity
  have someSteps : (1 : ℚ) ≤ steps := by exact_mod_cast pos_of_isReadAs positive reads
  have high : ((Interval.around significand exponent).high : ℚ) <
      2 ^ (significand.log2 + 3 : Int) := by
    have quarters : 4 * significand + 2 < 2 ^ (significand.log2 + 3) := by
      have whole : significand < 2 ^ (significand.log2 + 1) := Nat.lt_log2_self
      rw [Nat.pow_succ, Nat.pow_succ]
      omega
    exact_mod_cast quarters
  have bits := log2_lt_of_isDouble isDouble
  have least := isDouble.least
  have powers : (2 : ℚ) ^ (significand.log2 + 1 + exponent) ≤ 10 ^ place := by
    rw [leadingPlace] at above
    exact two_zpow_le_ten_zpow (by omega) (by omega)
  have product : (2 : ℚ) ^ (significand.log2 + 3 : Int) * 2 ^ (exponent - 2) =
      2 ^ (significand.log2 + 1 + exponent) := by
    rw [← zpow_add₀ two_ne_zero]
    congr 1
    ring
  have upper := mul_lt_mul_of_pos_right high unit
  have step : (10 : ℚ) ^ place ≤ steps * 10 ^ place :=
    le_mul_of_one_le_left (by positivity) someSteps
  linarith [reads.le_high]

end

theorem exists_steps_of_le {place coarse : Int} (finer : place ≤ coarse) (steps : Nat) :
    ∃ more : Nat, (more : ℚ) * 10 ^ place = steps * 10 ^ coarse := by
  obtain ⟨difference, differenceEqual⟩ := Int.eq_ofNat_of_zero_le (by omega : 0 ≤ coarse - place)
  refine ⟨steps * 10 ^ difference, ?_⟩
  have sum : coarse = difference + place := by omega
  rw [sum, zpow_add₀ (by norm_num), zpow_natCast]
  push_cast
  ring

theorem IsShortest.exponent_le {tie : Tie} {significand : Nat} {exponent : Int}
    {decimal other : Scientific} (isShortest : IsShortest tie significand exponent decimal)
    (reads : IsReadAs (other.digits * 10 ^ other.exponent) significand exponent) :
    other.exponent ≤ decimal.exponent := by
  by_contra coarser
  rcases exists_steps_of_le (by omega : decimal.exponent + 1 ≤ other.exponent) other.digits
    with ⟨steps, equal⟩
  rw [← equal] at reads
  exact isShortest.noCoarser steps reads

theorem IsShortest.unique {significand : Nat} {exponent : Int} {decimal other : Scientific}
    (isShortest : IsShortest .away significand exponent decimal)
    (isOtherShortest : IsShortest .away significand exponent other) : decimal = other := by
  rcases decimal with ⟨digits, place⟩
  rcases other with ⟨otherDigits, otherPlace⟩
  obtain rfl : place = otherPlace :=
    le_antisymm (isOtherShortest.exponent_le isShortest.nearest.reads)
      (isShortest.exponent_le isOtherShortest.nearest.reads)
  by_contra different
  have digitsDiffer : digits ≠ otherDigits := by
    intro same
    exact different (by rw [same])
  rcases isShortest.nearest.nearest _ isOtherShortest.nearest.reads digitsDiffer.symm with
    nearer | ⟨tied, larger⟩
  · rcases isOtherShortest.nearest.nearest _ isShortest.nearest.reads digitsDiffer with
      otherNearer | ⟨tied, _⟩
    · exact lt_asymm nearer otherNearer
    · exact nearer.ne' tied
  · rcases isOtherShortest.nearest.nearest _ isShortest.nearest.reads digitsDiffer with
      otherNearer | ⟨_, otherLarger⟩
    · exact otherNearer.ne' tied
    · exact Nat.lt_asymm larger otherLarger

/-- A shortest decimal has few digits, since a grid that is ten times as coarse is no longer finer
than a quarter of the double's last place. -/
theorem IsShortest.digits_lt {tie : Tie} {significand : Nat} {exponent : Int} {decimal : Scientific}
    (isShortest : IsShortest tie significand exponent decimal) (positive : 0 < significand)
    (isDouble : IsDouble significand exponent) : decimal.digits < 2 ^ 60 := by
  have step : (0 : ℚ) < 10 ^ decimal.exponent := by positivity
  have coarse : (2 : ℚ) ^ (exponent - 2) < 10 ^ (decimal.exponent + 1) := by
    by_contra fine
    exact isShortest.noCoarser _ (isReadAs_gridFloor positive (not_lt.mp fine))
  have high : ((Interval.around significand exponent).high : ℚ) ≤ 2 ^ 55 := by
    have fits := isDouble.fits
    have quarters : 4 * significand + 2 ≤ 2 ^ 55 := by omega
    exact_mod_cast quarters
  have bound : (decimal.digits : ℚ) * 10 ^ decimal.exponent < 2 ^ 60 * 10 ^ decimal.exponent := by
    calc (decimal.digits : ℚ) * 10 ^ decimal.exponent
        ≤ (Interval.around significand exponent).high * 2 ^ (exponent - 2) :=
          isShortest.nearest.reads.le_high
      _ ≤ 2 ^ 55 * 2 ^ (exponent - 2) := by gcongr
      _ < 2 ^ 55 * 10 ^ (decimal.exponent + 1) := by gcongr
      _ = 2 ^ 55 * 10 * 10 ^ decimal.exponent := by
          rw [zpow_add_one₀ (by norm_num)]
          ring
      _ ≤ 2 ^ 60 * 10 ^ decimal.exponent := mul_le_mul_of_nonneg_right (by norm_num) step.le
  exact_mod_cast lt_of_mul_lt_mul_right bound step.le

theorem IsShortest.positive {tie : Tie} {significand : Nat} {exponent : Int} {decimal : Scientific}
    (isShortest : IsShortest tie significand exponent decimal) (positive : 0 < significand) :
    0 < decimal.digits :=
  pos_of_isReadAs positive isShortest.nearest.reads

theorem findSome?_range_eq_some {α : Type} {search : Nat → Option α} {bound : Nat} {value : α}
    (found : (List.range bound).findSome? search = some value) :
    ∃ number < bound, search number = some value ∧ ∀ less < number, search less = none := by
  induction bound with
  | zero => cases found
  | succ bound induction =>
      rw [List.range_succ, List.findSome?_append] at found
      cases earlier : (List.range bound).findSome? search with
      | some first =>
          rw [earlier] at found
          rcases induction (earlier.trans found) with ⟨number, less, numberFound, none⟩
          exact ⟨number, by omega, numberFound, none⟩
      | none =>
          rw [earlier] at found
          have last : search bound = some value := by simpa using found
          refine ⟨bound, Nat.lt_succ_self _, last, ?_⟩
          intro less lessThanBound
          exact List.findSome?_eq_none_iff.mp earlier less (List.mem_range.mpr lessThanBound)

/-- The decimal that is found for a finite double is the shortest one that is read as it. -/
theorem isShortest_shortest (tie : Tie) {significand : Nat} {exponent : Int}
    (positive : 0 < significand) (isDouble : IsDouble significand exponent)
    (bounded : exponent ≤ 971) :
    IsShortest tie significand exponent (shortest tie significand exponent) := by
  rcases exists_isReadAs_finest positive isDouble bounded with ⟨finest, finestReads⟩
  obtain ⟨found, search⟩ : ∃ found, ((List.range 24).findSome? fun (lower : Nat) =>
      (gridPoint? tie significand exponent (leadingPlace significand exponent - lower)).map
        fun digits => (⟨digits, leadingPlace significand exponent - lower⟩ : Scientific)) =
      some found := by
    rw [← Option.isSome_iff_exists, List.findSome?_isSome_iff]
    refine ⟨23, by decide, ?_⟩
    rw [Option.isSome_map]
    exact gridPoint?_isSome tie positive finestReads
  have decimal : shortest tie significand exponent = found := by
    rw [shortest, search, Option.getD_some]
  rw [decimal]
  rcases findSome?_range_eq_some search with ⟨lower, _, lowerFound, earlier⟩
  rcases Option.map_eq_some_iff.mp lowerFound with ⟨digits, digitsFound, rfl⟩
  refine ⟨isNearestOnGrid_of_gridPoint? positive digitsFound, ?_⟩
  intro steps reads
  rcases Nat.eq_zero_or_pos lower with rfl | notFirst
  · exact not_isReadAs_above_leadingPlace positive isDouble bounded (by
      change _ < leadingPlace significand exponent - ((0 : Nat) : Int) + 1; omega) steps reads
  · have place : leadingPlace significand exponent - lower + 1 =
        leadingPlace significand exponent - (lower - 1 : Nat) := by omega
    change IsReadAs (steps * 10 ^ (leadingPlace significand exponent - lower + 1)) _ _ at reads
    rw [place] at reads
    have some := gridPoint?_isSome tie positive reads
    have none := Option.map_eq_none_iff.mp (earlier (lower - 1) (by omega))
    rw [none] at some
    cases some

end BroadcastScenes.Decimal
