import DatasetService.Proofs.Number.Shortest

set_option autoImplicit false

/- A number is the nearest one to every point of its rounding interval, and so it is read from each
decimal in there. -/
namespace DatasetService.Binary

/-- A number of a format as it is represented: its significand has all the digits, unless its last
place is the least one. -/
structure Canonical (format : BinaryFormat) (number : Binary) : Prop extends
    number.Fits format where
  normal : number.exponent = format.minExponent ∨
    Nat.pow 2 (format.precision - 1) ≤ number.significand

section canonical

variable {format : BinaryFormat} {negative : Bool} {num den : Nat} {result : Binary}

theorem canonical_zero (ordered : format.minExponent ≤ format.maxExponent) :
    (zero format negative).Canonical format :=
  ⟨fits_zero ordered negative, Or.inl rfl⟩

/-- Zero has one representation for each sign. -/
theorem Canonical.eq_zero {number : Binary} (canonical : number.Canonical format)
    (isZero : number.significand = 0) : number = zero format number.negative := by
  have least : number.exponent = format.minExponent := by
    rcases canonical.normal with least | normal
    · exact least
    · have : 0 < Nat.pow 2 (format.precision - 1) := Nat.pow_pos (by decide)
      omega
  rw [zero, ← isZero, ← least]

theorem div_le_roundHalfEven (num den : Nat) : num / den ≤ roundHalfEven num den := by
  unfold roundHalfEven
  dsimp only
  split
  · exact Nat.le_succ _
  · exact le_refl _

theorem nearest_normal (precise : 0 < format.precision) (numPositive : 0 < num)
    (denPositive : 0 < den) :
    (nearest format negative num den).exponent = format.minExponent ∨
      Nat.pow 2 (format.precision - 1) ≤ (nearest format negative num den).significand := by
  unfold nearest
  dsimp only
  split
  · exact Or.inr (le_refl _)
  · rcases (lastPlace_bounds format numPositive denPositive).2.2 with least | normal
    · exact Or.inl least
    · refine Or.inr (le_trans ?_ (div_le_roundHalfEven _ _))
      have place : lastPlace format num den + format.precision - 1 =
          lastPlace format num den + (format.precision - 1 : Nat) := by omega
      rw [place] at normal
      exact not_lt.mp (mt (quotient_lt_iff denPositive _ _).mp (not_lt.mpr normal))

theorem canonical_of_ofRatio (precise : 0 < format.precision)
    (ordered : format.minExponent ≤ format.maxExponent) (denPositive : 0 < den)
    (rounds : ofRatio format negative num den = some result) : result.Canonical format := by
  refine ⟨fits_of_ofRatio precise ordered denPositive rounds, ?_⟩
  rcases Nat.eq_zero_or_pos num with rfl | numPositive
  · cases ofRatio_zero.symm.trans rounds
    exact Or.inl rfl
  · rw [ofRatio_of_pos numPositive] at rounds
    split at rounds
    · cases rounds
    · cases rounds
      exact nearest_normal precise numPositive denPositive

theorem canonical_of_ofDecimal (precise : 0 < format.precision)
    (ordered : format.minExponent ≤ format.maxExponent) {digits : Nat} {exponent : Int}
    (rounds : ofDecimal format negative digits exponent = some result) :
    result.Canonical format := by
  rcases ofDecimal_cases rounds with rfl | ⟨num, den, denPositive, rounds⟩
  · exact canonical_zero ordered
  · exact canonical_of_ofRatio precise ordered denPositive rounds

end canonical

section nearest

variable {format : BinaryFormat} {num den target : Nat} {place : Int}

/-- A multiple of a unit is the nearest one to a point: it is half a unit away at most, and less if
it is an odd one. -/
structure NearestMultiple (target : Nat) (place : Int) (point : ℚ) : Prop where
  close : |target * 2 ^ place - point| ≤ 2 ^ place / 2
  odd : target % 2 = 1 → |target * 2 ^ place - point| < 2 ^ place / 2

/-- A ratio is rounded to the one integer that is nearest to it. -/
theorem roundHalfEven_eq (positive : 0 < den) (low : 2 * target * den ≤ 2 * num + den)
    (high : 2 * num ≤ 2 * target * den + den)
    (odd : target % 2 = 1 → 2 * target * den < 2 * num + den ∧ 2 * num < 2 * target * den + den) :
    roundHalfEven num den = target := by
  have split := Nat.div_add_mod num den
  have rest := Nat.mod_lt num positive
  unfold roundHalfEven
  dsimp only
  generalize num / den = quotient at *
  generalize num % den = remainder at *
  subst split
  -- Only the quotient and its successor are within half a unit.
  have near : quotient ≤ target ∧ target ≤ quotient + 1 := by
    constructor <;> by_contra! far <;> have steps := Nat.mul_le_mul_right den far <;> nlinarith
  rcases Nat.eq_or_lt_of_le near.1 with rfl | above
  · have down : ¬ (decide (den < 2 * remainder) ||
        2 * remainder == den && quotient % 2 == 1) = true := by
      simp only [Bool.or_eq_true, decide_eq_true_eq, Bool.and_eq_true, beq_iff_eq, not_or, not_and]
      refine ⟨by nlinarith, fun half isOdd => ?_⟩
      have := (odd isOdd).2
      nlinarith
    rw [if_neg down]
  · obtain rfl : target = quotient + 1 := by omega
    have up : (decide (den < 2 * remainder) ||
        2 * remainder == den && quotient % 2 == 1) = true := by
      simp only [Bool.or_eq_true, decide_eq_true_eq, Bool.and_eq_true, beq_iff_eq]
      have half : den ≤ 2 * remainder := by nlinarith
      rcases Nat.eq_or_lt_of_le half with tie | more
      · refine Or.inr ⟨tie.symm, ?_⟩
        by_contra even
        have := (odd (by omega)).1
        nlinarith
      · exact Or.inl more
    rw [if_pos up]

/-- A ratio is rounded to the multiple of its last place that is nearest to it. -/
theorem rounded_eq (denPositive : 0 < den) (nearest : NearestMultiple target place (num / den)) :
    roundHalfEven (scaleDown num den place).1 (scaleDown num den place).2 = target := by
  have natural : 0 < (scaleDown num den place).2 := scaleDown_pos place denPositive
  have positive : (0 : ℚ) < (scaleDown num den place).2 := by exact_mod_cast natural
  have scaled : (num : ℚ) / den =
      (scaleDown num den place).1 / (scaleDown num den place).2 * 2 ^ place := by
    rw [scaleDown_ratio, div_mul_cancel₀ _ (by positivity)]
  have unit : (0 : ℚ) < 2 ^ place := by positivity
  obtain ⟨close, odd⟩ := nearest
  rw [scaled] at close odd
  generalize (scaleDown num den place).1 = upper at *
  generalize (scaleDown num den place).2 = lower at *
  have distance : (target : ℚ) * 2 ^ place - upper / lower * 2 ^ place =
      (target * lower - upper) / lower * 2 ^ place := by
    field_simp
  have half : (2 : ℚ) ^ place / 2 = lower / 2 / lower * 2 ^ place := by
    field_simp
  rw [distance, abs_mul, abs_of_pos unit, abs_div, abs_of_pos positive, half] at close odd
  rw [mul_le_mul_iff_left₀ unit, div_le_div_iff_of_pos_right positive, abs_le] at close
  refine roundHalfEven_eq natural ?_ ?_ fun isOdd => ?_
  · have cast : 2 * (target : ℚ) * lower ≤ 2 * upper + lower := by linarith
    exact_mod_cast cast
  · have cast : 2 * (upper : ℚ) ≤ 2 * target * lower + lower := by linarith
    exact_mod_cast cast
  · have strict := odd isOdd
    rw [mul_lt_mul_iff_left₀ unit, div_lt_div_iff_of_pos_right positive, abs_lt] at strict
    have low : 2 * (target : ℚ) * lower < 2 * upper + lower := by linarith
    have high : 2 * (upper : ℚ) < 2 * target * lower + lower := by linarith
    exact ⟨by exact_mod_cast low, by exact_mod_cast high⟩

/-- The last place is the one in which a ratio has the digits of the format. -/
theorem lastPlace_eq (numPositive : 0 < num) (denPositive : 0 < den)
    (least : format.minExponent ≤ place) (below : (num : ℚ) / den < 2 ^ (place + format.precision))
    (normal : place = format.minExponent ∨
      (2 : ℚ) ^ (place + format.precision - 1) ≤ num / den) :
    lastPlace format num den = place := by
  obtain ⟨lowest, under, reached⟩ := lastPlace_bounds format numPositive denPositive
  have ordered {left right : Int} (power : (2 : ℚ) ^ (left + format.precision - 1) ≤ num / den)
      (bound : (num : ℚ) / den < 2 ^ (right + format.precision)) : left ≤ right := by
    have exponents := (zpow_lt_zpow_iff_right₀ (by norm_num : (1 : ℚ) < 2)).mp
      (power.trans_lt bound)
    omega
  refine le_antisymm ?_ ?_
  · rcases reached with lowest | power
    · exact lowest.trans_le least
    · exact ordered power below
  · rcases normal with rfl | power
    · exact lowest
    · exact ordered power under

end nearest

section interval

open Decimal (Interval)

variable {format : BinaryFormat} {number : Binary} {point : ℚ}

/-- The significand is the multiple of its place that is nearest to a point of the interval. -/
theorem nearestMultiple_of_holds (positive : 0 < number.significand)
    (holds : (Interval.around format number).Holds point) :
    NearestMultiple number.significand number.exponent point := by
  have quarter : (0 : ℚ) < 2 ^ number.exponent / 4 := by positivity
  have lowEnd : number.magnitude - 2 ^ number.exponent / 2 ≤
      (Interval.around format number).low * (Interval.around format number).unit := by
    have low : 4 * number.significand ≤ (Interval.around format number).low + 2 := by
      simp only [Interval.around]
      split <;> omega
    have cast : 4 * (number.significand : ℚ) ≤ (Interval.around format number).low + 2 := by
      exact_mod_cast low
    have scaled := mul_le_mul_of_nonneg_right cast quarter.le
    rw [Interval.around_unit, magnitude]
    linarith
  have closed : (Interval.around format number).closed = (number.significand % 2 == 0) := rfl
  unfold Interval.Holds at holds
  rw [closed, Interval.around_high] at holds
  rw [magnitude] at lowEnd holds
  split at holds
  · rename_i even
    refine ⟨abs_le.mpr ⟨by linarith, by linarith⟩, fun odd => ?_⟩
    simp only [beq_iff_eq] at even
    omega
  · have near : |number.significand * 2 ^ number.exponent - point| < 2 ^ number.exponent / 2 :=
      abs_lt.mpr ⟨by linarith, by linarith⟩
    exact ⟨near.le, fun _ => near⟩

/-- Below a power of two the interval ends after half the distance. -/
theorem quarter_of_holds (power : number.significand = Nat.pow 2 (format.precision - 1))
    (above : format.minExponent < number.exponent)
    (holds : (Interval.around format number).Holds point) :
    number.magnitude - 2 ^ number.exponent / 4 ≤ point := by
  have positive : 0 < number.significand := power ▸ Nat.pow_pos (by decide)
  have low : (Interval.around format number).low = 4 * number.significand - 1 := by
    have narrow : (number.significand == Nat.pow 2 (format.precision - 1) &&
        decide (format.minExponent < number.exponent)) = true := by
      rw [power, decide_eq_true above]
      simp
    simp only [Interval.around]
    rw [if_pos narrow]
  have cast : ((4 * number.significand - 1 : Nat) : ℚ) = 4 * number.significand - 1 := by
    rw [Nat.cast_sub (by omega)]
    push_cast
    rfl
  refine le_trans (le_of_eq ?_) holds.low_le
  rw [low, Interval.around_unit, magnitude, cast]
  ring

theorem magnitude_lt_power {number : Binary} (fits : number.Fits format) :
    number.magnitude + 2 ^ number.exponent / 2 < 2 ^ (number.exponent + format.precision) := by
  have whole : number.significand + 1 ≤ Nat.pow 2 format.precision := fits.significand
  have digits : (number.significand : ℚ) + 1 ≤ 2 ^ format.precision := by exact_mod_cast whole
  have unit : (0 : ℚ) < 2 ^ number.exponent := by positivity
  have scaled := mul_le_mul_of_nonneg_right digits unit.le
  rw [magnitude, add_comm number.exponent, zpow_add₀ (by norm_num), zpow_natCast]
  linarith

/-- The least magnitude of a number that has all the digits in its place. -/
theorem zpow_precision_pred (precise : 0 < format.precision) (place : Int) :
    (2 : ℚ) ^ (place + format.precision - 1) = Nat.pow 2 (format.precision - 1) * 2 ^ place := by
  have split : place + format.precision - 1 = (format.precision - 1 : Nat) + place := by omega
  rw [split, zpow_add₀ (by norm_num), zpow_natCast, Nat.pow_eq, Nat.cast_pow, Nat.cast_ofNat]

/-- Only the interval of a power of two has points below the place of its number. -/
theorem significand_of_below (precise : 0 < format.precision) (canonical : number.Canonical format)
    (above : number.exponent ≠ format.minExponent)
    (multiple : NearestMultiple number.significand number.exponent point)
    (under : point < 2 ^ (number.exponent + format.precision - 1)) :
    number.significand = Nat.pow 2 (format.precision - 1) := by
  refine le_antisymm ?_ (canonical.normal.resolve_left above)
  have unit : (0 : ℚ) < 2 ^ number.exponent := by positivity
  have near := (abs_le.mp multiple.close).2
  rw [zpow_precision_pred precise] at under
  have cast : (number.significand : ℚ) < Nat.pow 2 (format.precision - 1) + 1 := by
    refine lt_of_mul_lt_mul_right ?_ unit.le
    linarith
  exact Nat.lt_succ_iff.mp (by exact_mod_cast cast)

section ratio

variable {num den : Nat} (precise : 0 < format.precision) (numPositive : 0 < num)
  (denPositive : 0 < den) (holds : (Interval.around format number).Holds (num / den))
include precise numPositive denPositive holds

/-- A ratio below a power of two is in the place before that of the power, and is rounded up
to it. -/
theorem nearest_eq_of_below (power : number.significand = Nat.pow 2 (format.precision - 1))
    (above : format.minExponent < number.exponent)
    (under : (num : ℚ) / den < 2 ^ (number.exponent + format.precision - 1)) (negative : Bool) :
    nearest format negative num den = { number with negative } := by
  have unit : (0 : ℚ) < 2 ^ number.exponent := by positivity
  have half : (2 : ℚ) ^ (number.exponent - 1) = 2 ^ number.exponent / 2 :=
    zpow_sub_one₀ (by norm_num) _
  have close := quarter_of_holds power above holds
  rw [magnitude, power] at close
  have place : lastPlace format num den = number.exponent - 1 := by
    have upper : number.exponent - 1 + format.precision =
        number.exponent + format.precision - 1 := by omega
    have one : (1 : ℚ) ≤ (Nat.pow 2 (format.precision - 1) : Nat) := by
      exact_mod_cast Nat.pow_pos (by decide : 0 < 2)
    have scaled := mul_le_mul_of_nonneg_right one unit.le
    refine lastPlace_eq numPositive denPositive (by omega) (upper ▸ under) (Or.inr ?_)
    rw [zpow_precision_pred precise, half]
    linarith
  have carry : NearestMultiple (Nat.pow 2 format.precision) (number.exponent - 1) (num / den) := by
    have scaled : ((Nat.pow 2 (format.precision - 1) * 2 : Nat) : ℚ) * 2 ^ (number.exponent - 1) =
        Nat.pow 2 (format.precision - 1) * 2 ^ number.exponent := by
      rw [half]
      push_cast
      ring
    rw [zpow_precision_pred precise] at under
    rw [pow_precision precise]
    refine ⟨?_, fun odd => by omega⟩
    rw [scaled, half]
    exact abs_le.mpr ⟨by linarith, by linarith⟩
  unfold nearest
  dsimp only
  rw [place, rounded_eq denPositive carry, if_pos rfl, ← power, sub_add_cancel]

/-- A number is the nearest one to each ratio in its interval. -/
theorem nearest_eq_of_holds (canonical : number.Canonical format)
    (positive : 0 < number.significand) (negative : Bool) :
    nearest format negative num den = { number with negative } := by
  have multiple := nearestMultiple_of_holds positive holds
  have below : (num : ℚ) / den < 2 ^ (number.exponent + format.precision) := by
    have high := holds.le_high
    rw [Interval.around_high] at high
    exact high.trans_lt (magnitude_lt_power canonical.toFits)
  -- Either the ratio is in the place of the number, or the number is a power of two above it.
  by_cases normal : number.exponent = format.minExponent ∨
    (2 : ℚ) ^ (number.exponent + format.precision - 1) ≤ num / den
  · have place := lastPlace_eq numPositive denPositive canonical.low below normal
    unfold nearest
    dsimp only
    rw [place, rounded_eq denPositive multiple, if_neg canonical.significand.ne]
  · obtain ⟨above, under⟩ := not_or.mp normal
    rw [not_le] at under
    exact nearest_eq_of_below precise numPositive denPositive holds
      (significand_of_below precise canonical above multiple under)
      (lt_of_le_of_ne canonical.low (Ne.symm above)) under negative

end ratio

end interval

section decimals

open Decimal (Interval)

variable {number : Binary}

theorem half_le_of_holds {format : BinaryFormat} {point : ℚ} (positive : 0 < number.significand)
    (holds : (Interval.around format number).Holds point) : 2 ^ number.exponent / 2 ≤ point := by
  have near := (abs_le.mp (nearestMultiple_of_holds positive holds).close).2
  have one : (1 : ℚ) ≤ number.significand := by exact_mod_cast positive
  have scaled := mul_le_mul_of_nonneg_right one
    (by positivity : (0 : ℚ) ≤ 2 ^ number.exponent)
  linarith

/-- A ratio in the interval of a number is rounded to the number. -/
theorem ofRatio_of_holds {format : BinaryFormat} (precise : 0 < format.precision)
    (canonical : number.Canonical format) (positive : 0 < number.significand) {num den : Nat}
    (denPositive : 0 < den) (holds : (Interval.around format number).Holds (num / den))
    (negative : Bool) : ofRatio format negative num den = some { number with negative } := by
  have numPositive : 0 < num := by
    rcases Nat.eq_zero_or_pos num with rfl | some
    · have half := half_le_of_holds positive holds
      have : (0 : ℚ) < 2 ^ number.exponent / 2 := by positivity
      rw [Nat.cast_zero, zero_div] at half
      exact absurd half (not_le.mpr this)
    · exact some
  rw [ofRatio_of_pos numPositive,
    nearest_eq_of_holds precise numPositive denPositive holds canonical positive,
    if_neg (not_lt.mpr canonical.high)]

/-- A decimal in the interval of a double is rounded to the double. -/
theorem ofDecimal_of_holds (canonical : number.Canonical .double)
    (positive : 0 < number.significand) {decimal : Decimal}
    (holds : (Interval.around .double number).Holds decimal.magnitude) (negative : Bool) :
    ofDecimal .double negative decimal.digits decimal.exponent = some { number with negative } := by
  have half := half_le_of_holds positive holds
  have high := holds.le_high
  rw [Interval.around_high] at high
  have some : 0 < decimal.digits := by
    rcases Nat.eq_zero_or_pos decimal.digits with none | some
    · have : (0 : ℚ) < 2 ^ number.exponent / 2 := by positivity
      rw [Decimal.magnitude, none, Nat.cast_zero, zero_mul] at half
      exact absurd half (not_le.mpr this)
    · exact some
  obtain ⟨least, most⟩ := decimal.magnitude_bounds some
  -- The double is in the range in which the power of ten is computed.
  have notAbove : ¬ 400 < decimal.exponent + (digitCount decimal.digits : Int) := by
    intro above
    have power : (10 : ℚ) ^ (309 : Int) ≤ decimal.magnitude :=
      le_trans (zpow_le_zpow_right₀ (by norm_num) (by omega)) least
    have below := (high.trans canonical.half_above_le).trans_lt overflow_double_lt
    exact absurd (power.trans_lt below) (lt_irrefl _)
  have notBelow : ¬ decimal.exponent + (digitCount decimal.digits : Int) < -400 := by
    intro below
    have power : decimal.magnitude < (10 : ℚ) ^ (-400 : Int) :=
      most.trans_le (zpow_le_zpow_right₀ (by norm_num) (by omega))
    have smallest : (2 : ℚ) ^ (-1075 : Int) ≤ 2 ^ number.exponent / 2 := by
      have low : (-1074 : Int) ≤ number.exponent := canonical.low
      have last : (2 : ℚ) ^ (number.exponent - 1) = 2 ^ number.exponent / 2 :=
        zpow_sub_one₀ (by norm_num) _
      rw [← last]
      exact zpow_le_zpow_right₀ (by norm_num) (by omega)
    have bases : (2 : ℚ) ^ 1075 ≤ 10 ^ 400 := by
      have natural : 2 ^ 1075 ≤ 10 ^ 400 := by decide +kernel
      exact_mod_cast natural
    have order : (10 : ℚ) ^ (-400 : Int) ≤ 2 ^ (-1075 : Int) := inv_anti₀ (by positivity) bases
    linarith
  unfold ofDecimal
  dsimp only
  rw [if_neg some.ne', if_neg notAbove, if_neg notBelow]
  split
  · rename_i nonneg
    obtain ⟨count, same⟩ := Int.eq_ofNat_of_zero_le nonneg
    refine ofRatio_of_holds (by decide) canonical positive Nat.one_pos ?_ negative
    rw [Decimal.magnitude, same, zpow_natCast] at holds
    rw [same, Int.toNat_natCast, Nat.pow_eq]
    push_cast
    rwa [div_one]
  · obtain ⟨count, same⟩ := Int.eq_ofNat_of_zero_le (by omega : 0 ≤ -decimal.exponent)
    refine ofRatio_of_holds (by decide) canonical positive (Nat.pow_pos (by decide)) ?_ negative
    have exponent : decimal.exponent = -(count : Int) := by omega
    rw [Decimal.magnitude, exponent, zpow_neg, zpow_natCast, ← div_eq_mul_inv] at holds
    rw [same, Int.toNat_natCast]
    push_cast
    exact holds

end decimals

end DatasetService.Binary
