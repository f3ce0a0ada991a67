import DatasetService.Number.Shortest
import DatasetService.Proofs.Number.Rounding

set_option autoImplicit false

/- The shortest decimal of a double. Eighteen digits suffice, and the decimal is no more than half
a unit in the last place above the number. -/
namespace DatasetService

theorem Binary.digitCount_bounds {value : Nat} (positive : 0 < value) :
    10 ^ (digitCount value - 1) ≤ value ∧ value < 10 ^ digitCount value := by
  have one : 0 < digitCount value := Nat.length_toDigits_pos
  refine ⟨?_, (Nat.length_toDigits_le_iff (by decide) one).mp (le_refl _)⟩
  rcases Nat.eq_zero_or_pos (digitCount value - 1) with none | more
  · rw [none]
    exact positive
  · by_contra! small
    have shorter := (Nat.length_toDigits_le_iff (by decide) more).mpr small
    change digitCount value ≤ _ at shorter
    omega

theorem Binary.overflow_double_lt : overflow .double < 10 ^ (309 : Int) := by
  have natural : overflowNat .double < 10 ^ 309 := by decide +kernel
  rw [overflow_eq (by decide)]
  exact_mod_cast natural

namespace Decimal

/-- The magnitude of a decimal. -/
def magnitude (decimal : Decimal) : ℚ := decimal.digits * 10 ^ decimal.exponent

/-- The powers of ten about a decimal. -/
theorem magnitude_bounds (decimal : Decimal) (positive : 0 < decimal.digits) :
    (10 : ℚ) ^ (decimal.exponent + Binary.digitCount decimal.digits - 1) ≤ decimal.magnitude ∧
      decimal.magnitude < 10 ^ (decimal.exponent + Binary.digitCount decimal.digits) := by
  obtain ⟨low, high⟩ := Binary.digitCount_bounds positive
  have one : 0 < Binary.digitCount decimal.digits := Nat.length_toDigits_pos
  have unit : (0 : ℚ) < 10 ^ decimal.exponent := by positivity
  have split : decimal.exponent + Binary.digitCount decimal.digits - 1 =
      (Binary.digitCount decimal.digits - 1 : Nat) + decimal.exponent := by omega
  rw [split, add_comm decimal.exponent, zpow_add₀ (by norm_num), zpow_add₀ (by norm_num),
    zpow_natCast, zpow_natCast, magnitude]
  exact ⟨mul_le_mul_of_nonneg_right (by exact_mod_cast low) unit.le,
    mul_lt_mul_of_pos_right (by exact_mod_cast high) unit⟩

theorem powerOfTen_ratio (exponent : Int) :
    ((powerOfTen exponent).1 : ℚ) / (powerOfTen exponent).2 = 10 ^ exponent := by
  unfold powerOfTen
  split
  · rename_i nonneg
    obtain ⟨count, rfl⟩ := Int.eq_ofNat_of_zero_le nonneg
    simp
  · rename_i negative
    obtain ⟨count, positive⟩ := Int.eq_ofNat_of_zero_le (by omega : 0 ≤ -exponent)
    obtain rfl : exponent = -(count : Int) := by omega
    simp

theorem powerOfTen_pos (exponent : Int) :
    0 < (powerOfTen exponent).1 ∧ 0 < (powerOfTen exponent).2 := by
  unfold powerOfTen
  split
  · exact ⟨Nat.pow_pos (by decide), Nat.one_pos⟩
  · exact ⟨Nat.one_pos, Nat.pow_pos (by decide)⟩

/-- The least multiple of a number that reaches another one. -/
theorem ceiling_bounds {num den : Nat} (numPositive : 0 < num) (denPositive : 0 < den) :
    den ≤ num * ((den + num - 1) / num) ∧ num * ((den + num - 1) / num - 1) < den := by
  have split := Nat.div_add_mod (den + num - 1) num
  have rest := Nat.mod_lt (den + num - 1) numPositive
  rw [Nat.mul_sub, Nat.mul_one]
  omega

theorem leadingExponent_bounds {num den : Nat} (numPositive : 0 < num) (denPositive : 0 < den) :
    (10 : ℚ) ^ leadingExponent num den ≤ num / den ∧
      (num : ℚ) / den < 10 ^ (leadingExponent num den + 1) := by
  have numCast : (0 : ℚ) < num := by exact_mod_cast numPositive
  have denCast : (0 : ℚ) < den := by exact_mod_cast denPositive
  unfold leadingExponent
  split
  · rename_i large
    have whole : 0 < num / den := Nat.div_pos large denPositive
    obtain ⟨low, high⟩ := Binary.digitCount_bounds whole
    generalize counted : Binary.digitCount (num / den) = count at low high
    have one : 0 < count := counted ▸ Nat.length_toDigits_pos
    have lowCast : 10 ^ (count - 1) * den ≤ num := (Nat.le_div_iff_mul_le denPositive).mp low
    have highCast : num < 10 ^ count * den := (Nat.div_lt_iff_lt_mul denPositive).mp high
    have exponent : (count : Int) - 1 = ((count - 1 : Nat) : Int) := by omega
    rw [le_div_iff₀ denCast, div_lt_iff₀ denCast, sub_add_cancel, exponent, zpow_natCast,
      zpow_natCast]
    exact ⟨by exact_mod_cast lowCast, by exact_mod_cast highCast⟩
  · rename_i small
    have whole : 0 < (den + num - 1) / num - 1 := by
      have : 2 ≤ (den + num - 1) / num := (Nat.le_div_iff_mul_le numPositive).mpr (by omega)
      omega
    obtain ⟨low, high⟩ := Binary.digitCount_bounds whole
    generalize counted : Binary.digitCount ((den + num - 1) / num - 1) = count at low high
    have one : 0 < count := counted ▸ Nat.length_toDigits_pos
    obtain ⟨reached, least⟩ := ceiling_bounds numPositive denPositive
    have lowCast : 10 ^ (count - 1) * num < den := by
      rw [Nat.mul_comm]
      exact (Nat.mul_le_mul_left num low).trans_lt least
    have highCast : den ≤ 10 ^ count * num := by
      rw [Nat.mul_comm]
      exact reached.trans (Nat.mul_le_mul_left num (by omega))
    have exponent : -(count : Int) + 1 = -((count - 1 : Nat) : Int) := by omega
    rw [exponent, zpow_neg, zpow_neg, zpow_natCast, zpow_natCast]
    constructor
    · rw [inv_le_iff_one_le_mul₀ (by positivity), mul_comm, ← mul_div_assoc, le_div_iff₀ denCast,
        one_mul]
      exact_mod_cast highCast
    · rw [lt_inv_comm₀ (by positivity) (by positivity), inv_div, lt_div_iff₀ numCast]
      exact_mod_cast lowCast

namespace Interval

/-- What an interval counts in. -/
def unit (interval : Interval) : ℚ := interval.num / interval.den

/-- A point is in an interval. -/
def Holds (interval : Interval) (point : ℚ) : Prop :=
  if interval.closed then
    interval.low * interval.unit ≤ point ∧ point ≤ interval.high * interval.unit
  else interval.low * interval.unit < point ∧ point < interval.high * interval.unit

/-- The last point of a grid that is not above the value. -/
def below (interval : Interval) (exponent : Int) : Nat :=
  interval.value * interval.num * (powerOfTen exponent).2 /
    (interval.den * (powerOfTen exponent).1)

variable {interval : Interval} {digits : Nat} {exponent : Int}

theorem Holds.le_high {point : ℚ} (holds : interval.Holds point) :
    point ≤ interval.high * interval.unit := by
  unfold Holds at holds
  split at holds
  · exact holds.2
  · exact holds.2.le

theorem Holds.low_le {point : ℚ} (holds : interval.Holds point) :
    interval.low * interval.unit ≤ point := by
  unfold Holds at holds
  split at holds
  · exact holds.1
  · exact holds.1.le

theorem holds_of_lt {point : ℚ} (low : interval.low * interval.unit < point)
    (high : point < interval.high * interval.unit) : interval.Holds point := by
  unfold Holds
  split
  · exact ⟨low.le, high.le⟩
  · exact ⟨low, high⟩

theorem contains_iff (positive : 0 < interval.den) :
    interval.contains digits exponent = true ↔ interval.Holds (digits * 10 ^ exponent) := by
  have power := powerOfTen_ratio exponent
  obtain ⟨-, powerPositive⟩ := powerOfTen_pos exponent
  generalize powers : powerOfTen exponent = pair at power powerPositive
  have den : (0 : ℚ) < interval.den := by exact_mod_cast positive
  have scale : (0 : ℚ) < pair.2 := by exact_mod_cast powerPositive
  have common : (0 : ℚ) < interval.den * pair.2 := by positivity
  have point : (digits : ℚ) * 10 ^ exponent =
      ((digits * pair.1 * interval.den : Nat) : ℚ) / (interval.den * pair.2) := by
    rw [← power]
    push_cast
    field_simp
  have ending (bound : Nat) : (bound : ℚ) * interval.unit =
      ((bound * interval.num * pair.2 : Nat) : ℚ) / (interval.den * pair.2) := by
    rw [unit]
    push_cast
    field_simp
  unfold contains Holds
  simp only [powers, point, ending, div_le_div_iff_of_pos_right common,
    div_lt_div_iff_of_pos_right common, Nat.cast_le, Nat.cast_lt]
  split <;> simp

theorem below_bounds (positive : 0 < interval.den) (exponent : Int) :
    (interval.below exponent : ℚ) * 10 ^ exponent ≤ interval.value * interval.unit ∧
      interval.value * interval.unit < (interval.below exponent + 1) * 10 ^ exponent := by
  have power := powerOfTen_ratio exponent
  obtain ⟨upPositive, downPositive⟩ := powerOfTen_pos exponent
  unfold below
  generalize powerOfTen exponent = pair at power upPositive downPositive
  have den : (0 : ℚ) < interval.den := by exact_mod_cast positive
  have up : (0 : ℚ) < pair.1 := by exact_mod_cast upPositive
  have down : (0 : ℚ) < pair.2 := by exact_mod_cast downPositive
  have divisor : 0 < interval.den * pair.1 := Nat.mul_pos positive upPositive
  have value : (interval.value : ℚ) * interval.unit =
      ((interval.value * interval.num * pair.2 : Nat) : ℚ) /
        ((interval.den * pair.1 : Nat) : ℚ) * 10 ^ exponent := by
    rw [unit, ← power]
    push_cast
    field_simp
  generalize interval.value * interval.num * pair.2 = num at value ⊢
  generalize interval.den * pair.1 = total at value divisor ⊢
  have totalCast : (0 : ℚ) < total := by exact_mod_cast divisor
  have unitPositive : (0 : ℚ) < 10 ^ exponent := by positivity
  rw [value]
  constructor
  · refine mul_le_mul_of_nonneg_right ?_ unitPositive.le
    rw [le_div_iff₀ totalCast]
    exact_mod_cast Nat.div_mul_le_self num total
  · refine mul_lt_mul_of_pos_right ?_ unitPositive
    rw [div_lt_iff₀ totalCast]
    rw [mul_comm]
    exact_mod_cast Nat.lt_mul_div_succ num divisor

/-- A point of a grid is one of the two about the value, and it is in the interval. -/
theorem onGrid_eq_some (found : interval.onGrid exponent = some digits) :
    interval.contains digits exponent = true ∧
      (digits = interval.below exponent ∨ digits = interval.below exponent + 1) := by
  unfold onGrid at found
  dsimp only at found
  rw [← below] at found
  split at found
  · rename_i low high
    cases found
    have nearer : ∀ num den, Binary.roundHalfEven num den = num / den ∨
        Binary.roundHalfEven num den = num / den + 1 := by
      intro num den
      unfold Binary.roundHalfEven
      dsimp only
      split
      · exact Or.inr rfl
      · exact Or.inl rfl
    rcases nearer (interval.value * interval.num * (powerOfTen exponent).2)
      (interval.den * (powerOfTen exponent).1) with down | up
    · exact ⟨by rw [down]; exact low, Or.inl down⟩
    · exact ⟨by rw [up]; exact high, Or.inr up⟩
  · rename_i low high
    cases found
    exact ⟨low, Or.inl rfl⟩
  · rename_i low high
    cases found
    exact ⟨high, Or.inr rfl⟩
  · cases found

theorem onGrid_of_below (inside : interval.contains (interval.below exponent) exponent = true) :
    ∃ digits, interval.onGrid exponent = some digits := by
  unfold onGrid
  dsimp only
  rw [← below, inside]
  split
  · exact ⟨_, rfl⟩
  · exact ⟨_, rfl⟩
  · rename_i outside _
    cases outside
  · rename_i outside _
    cases outside

section around

variable {format : BinaryFormat} {number : Binary}

theorem around_den_pos (format : BinaryFormat) (number : Binary) :
    0 < (around format number).den := Binary.scaleDown_pos _ (by decide)

theorem around_unit (format : BinaryFormat) (number : Binary) :
    (around format number).unit = 2 ^ number.exponent / 4 := by
  have scaled := Binary.scaleDown_ratio 1 1 (2 - number.exponent)
  change ((Binary.scaleDown 1 1 (2 - number.exponent)).1 : ℚ) /
    (Binary.scaleDown 1 1 (2 - number.exponent)).2 = _
  rw [scaled, zpow_sub₀ (by norm_num)]
  norm_num

theorem around_value (format : BinaryFormat) (number : Binary) :
    ((around format number).value : ℚ) * (around format number).unit = number.magnitude := by
  have value : (around format number).value = 4 * number.significand := rfl
  rw [around_unit, value, Binary.magnitude]
  push_cast
  ring

theorem around_high :
    ((around format number).high : ℚ) * (around format number).unit =
      number.magnitude + 2 ^ number.exponent / 2 := by
  have high : (around format number).high = 4 * number.significand + 2 := rfl
  rw [around_unit, high, Binary.magnitude]
  push_cast
  ring

theorem around_low (positive : 0 < number.significand) :
    ((around format number).low : ℚ) * (around format number).unit ≤
      number.magnitude - 2 ^ number.exponent / 4 := by
  have low : (around format number).low + 1 ≤ 4 * number.significand := by
    simp only [around]
    split <;> omega
  have cast : ((around format number).low : ℚ) + 1 ≤ 4 * number.significand := by
    exact_mod_cast low
  have quarter : (0 : ℚ) < 2 ^ number.exponent / 4 := by positivity
  rw [around_unit, Binary.magnitude]
  have := mul_le_mul_of_nonneg_right cast quarter.le
  linarith

end around

end Interval

/-- A search ends on a grid, at one of the two points about the value that is in the interval, if
one of them is on the last grid. -/
theorem search_spec (interval : Interval) (fuel : Nat) {exponent : Int}
    (last : interval.contains (interval.below (exponent - fuel)) (exponent - fuel) = true) :
    let found := search interval fuel exponent
    interval.contains found.digits found.exponent = true ∧
      (found.digits = interval.below found.exponent ∨
        found.digits = interval.below found.exponent + 1) ∧
      exponent - fuel ≤ found.exponent ∧ found.exponent ≤ exponent := by
  induction fuel generalizing exponent with
  | zero =>
      rw [Nat.cast_zero, sub_zero] at last
      obtain ⟨digits, found⟩ := Interval.onGrid_of_below last
      obtain ⟨inside, near⟩ := Interval.onGrid_eq_some found
      simp only [search, found, Option.getD_some]
      exact ⟨inside, near, by simp, le_refl _⟩
  | succ fuel ih =>
      unfold search
      split
      · rename_i digits found
        obtain ⟨inside, near⟩ := Interval.onGrid_eq_some found
        exact ⟨inside, near, by dsimp only; omega, le_refl _⟩
      · have finer : exponent - 1 - (fuel : Int) = exponent - (fuel + 1 : Nat) := by omega
        rw [← finer] at last
        obtain ⟨inside, near, low, high⟩ := ih last
        exact ⟨inside, near, by omega, by omega⟩

theorem stripZeros_spec (fuel : Nat) {decimal : Decimal} (positive : 0 < decimal.digits) :
    let stripped := stripZeros fuel decimal
    0 < stripped.digits ∧ stripped.digits ≤ decimal.digits ∧
      decimal.exponent ≤ stripped.exponent ∧ stripped.magnitude = decimal.magnitude := by
  induction fuel generalizing decimal with
  | zero => exact ⟨positive, le_refl _, le_refl _, rfl⟩
  | succ fuel ih =>
      unfold stripZeros
      split
      · rename_i zero
        simp only [Bool.and_eq_true, decide_eq_true_eq, bne_iff_ne] at zero
        have whole : decimal.digits = decimal.digits / 10 * 10 := by omega
        obtain ⟨some, fewer, higher, same⟩ :=
          @ih ⟨decimal.digits / 10, decimal.exponent + 1⟩
            (Nat.div_pos (by omega) (by decide))
        refine ⟨some, fewer.trans (Nat.div_le_self _ _), ?_, same.trans ?_⟩
        · exact (Int.le_add_one (le_refl _)).trans higher
        · rw [magnitude, magnitude, zpow_add_one₀ (by norm_num)]
          conv_rhs => rw [whole]
          push_cast
          ring
      · exact ⟨positive, le_refl _, le_refl _, rfl⟩

section shortest

variable {number : Binary} (positive : 0 < number.significand)
include positive

/-- The exponent of the first digit of a double. -/
theorem exists_leading :
    ∃ leading : Int,
      leadingExponent ((Interval.around .double number).value *
        (Interval.around .double number).num) (Interval.around .double number).den = leading ∧
      (10 : ℚ) ^ leading ≤ number.magnitude ∧ number.magnitude < 10 ^ (leading + 1) := by
  have unit : 0 < (Interval.around .double number).num := by
    have value := Interval.around_unit .double number
    rcases Nat.eq_zero_or_pos (Interval.around .double number).num with none | some
    · rw [Interval.unit, none, Nat.cast_zero, zero_div] at value
      have : (0 : ℚ) < 2 ^ number.exponent / 4 := by positivity
      exact absurd value this.ne
    · exact some
  have value : 0 < (Interval.around .double number).value := Nat.mul_pos (by decide) positive
  have bounds := leadingExponent_bounds (Nat.mul_pos value unit)
    (Interval.around_den_pos .double number)
  have ratio : (((Interval.around .double number).value *
      (Interval.around .double number).num : Nat) : ℚ) / (Interval.around .double number).den =
      number.magnitude := by
    rw [← Interval.around_value .double, Interval.unit]
    push_cast
    ring
  rw [ratio] at bounds
  exact ⟨_, rfl, bounds⟩

/-- On the grid of eighteen digits, the point below a double is in its interval. -/
theorem contains_below (fits : number.Fits .double) {leading : Int}
    (first : (10 : ℚ) ^ leading ≤ number.magnitude) :
    (Interval.around .double number).contains
      ((Interval.around .double number).below (leading - 17)) (leading - 17) = true := by
  obtain ⟨low, high⟩ := Interval.below_bounds
    (Interval.around_den_pos .double number) (leading - 17)
  have half : (0 : ℚ) < 2 ^ number.exponent / 2 := by positivity
  rw [Interval.around_value] at low high
  rw [Interval.contains_iff (Interval.around_den_pos _ _)]
  refine Interval.holds_of_lt ((Interval.around_low positive).trans_lt ?_) ?_
  · have digits : (number.significand : ℚ) < 2 ^ 53 := by exact_mod_cast fits.significand
    have place : (0 : ℚ) < 2 ^ number.exponent := by positivity
    have fine : (10 : ℚ) ^ (leading - 17) < 2 ^ number.exponent / 4 := by
      rw [zpow_sub₀ (by norm_num), div_lt_div_iff₀ (by positivity) (by norm_num)]
      calc (10 : ℚ) ^ leading * 4 ≤ number.significand * 2 ^ number.exponent * 4 :=
            mul_le_mul_of_nonneg_right first (by norm_num)
        _ ≤ 2 ^ 53 * 2 ^ number.exponent * 4 := by nlinarith
        _ < 2 ^ number.exponent * 10 ^ (17 : Int) := by
            norm_num
            linarith
    linarith
  · rw [Interval.around_high]
    linarith

end shortest

/-- As many digits are on a grid as it is finer than the grid of the first digit. -/
theorem below_lt {number : Binary} {leading exponent : Int}
    (first : (10 : ℚ) ^ leading ≤ number.magnitude) (next : number.magnitude < 10 ^ (leading + 1))
    (low : leading - 17 ≤ exponent) (high : exponent ≤ leading) :
    0 < (Interval.around .double number).below exponent ∧
      (Interval.around .double number).below exponent < 10 ^ 18 := by
  obtain ⟨above, under⟩ := Interval.below_bounds
    (Interval.around_den_pos .double number) exponent
  rw [Interval.around_value] at above under
  generalize (Interval.around .double number).below exponent = point at above under
  have unit : (0 : ℚ) < 10 ^ exponent := by positivity
  constructor
  · have reached : (10 : ℚ) ^ exponent ≤ 10 ^ leading := zpow_le_zpow_right₀ (by norm_num) high
    have more : (1 : ℚ) < point + 1 := by
      refine lt_of_mul_lt_mul_right ?_ unit.le
      linarith
    have cast : (0 : ℚ) < point := by linarith
    exact_mod_cast cast
  · have reached : (10 : ℚ) ^ (leading + 1) ≤ 10 ^ (18 : Int) * 10 ^ exponent := by
      rw [← zpow_add₀ (by norm_num)]
      exact zpow_le_zpow_right₀ (by norm_num) (by omega)
    have less : (point : ℚ) < 10 ^ (18 : Int) := by
      refine lt_of_mul_lt_mul_right ?_ unit.le
      linarith
    exact_mod_cast less

/-- A decimal that has no more than eighteen digits, or one and zeros, and is no more than half a
unit in the last place above a double. -/
structure Near (number : Binary) (decimal : Decimal) : Prop where
  positive : 0 < decimal.digits
  short : decimal.digits ≤ 10 ^ 18
  close : decimal.magnitude ≤ number.magnitude + 2 ^ number.exponent / 2
  low : -1100 ≤ decimal.exponent
  high : decimal.exponent ≤ 308

/-- A power of ten that is within the range of doubles. -/
theorem exponent_le_of_le_overflow {decimal : Decimal} (positive : 0 < decimal.digits)
    (inRange : decimal.magnitude ≤ Binary.overflow .double) : decimal.exponent ≤ 308 := by
  by_contra! large
  have one : (1 : ℚ) ≤ decimal.digits := by exact_mod_cast positive
  have least : (10 : ℚ) ^ (309 : Int) ≤ 10 ^ decimal.exponent :=
    zpow_le_zpow_right₀ (by norm_num) (by omega)
  have power : (10 : ℚ) ^ (309 : Int) ≤ decimal.magnitude := by
    have scaled := mul_le_mul_of_nonneg_right one
      (by positivity : (0 : ℚ) ≤ 10 ^ decimal.exponent)
    rw [magnitude]
    linarith
  exact absurd (power.trans_lt (inRange.trans_lt Binary.overflow_double_lt)) (lt_irrefl _)

/-- A double is searched for from its first digit. What is found is a point of the interval, next to
the double on its grid, and the trailing zeros are moved into the exponent. -/
structure Found (number : Binary) (leading : Int) (found : Decimal) : Prop where
  first : (10 : ℚ) ^ leading ≤ number.magnitude
  next : number.magnitude < 10 ^ (leading + 1)
  holds : (Interval.around .double number).Holds found.magnitude
  beside : found.digits = (Interval.around .double number).below found.exponent ∨
    found.digits = (Interval.around .double number).below found.exponent + 1
  low : leading - 17 ≤ found.exponent
  high : found.exponent ≤ leading
  stripped : shortest .double number = stripZeros (Binary.digitCount found.digits) found

section found

variable {number : Binary} {leading : Int} {found : Decimal}

theorem exists_found (fits : number.Fits .double) (positive : 0 < number.significand) :
    ∃ leading found, Found number leading found := by
  obtain ⟨leading, leads, first, next⟩ := exists_leading positive
  obtain ⟨inside, beside, low, high⟩ := search_spec (Interval.around .double number) 17
    (contains_below positive fits first)
  rw [Interval.contains_iff (Interval.around_den_pos _ _)] at inside
  refine ⟨leading, _, first, next, inside, beside, low, high, ?_⟩
  rw [shortest, leads]

theorem Found.digits_bounds (search : Found number leading found) :
    0 < found.digits ∧ found.digits ≤ 10 ^ 18 := by
  have point := below_lt search.first search.next search.low search.high
  have beside := search.beside
  omega

/-- The shortest decimal of a double is in its interval. -/
theorem holds_shortest (fits : number.Fits .double) (positive : 0 < number.significand) :
    (Interval.around .double number).Holds (shortest .double number).magnitude := by
  obtain ⟨leading, found, search⟩ := exists_found fits positive
  rw [search.stripped, (stripZeros_spec _ search.digits_bounds.1).2.2.2]
  exact search.holds

theorem near_shortest (fits : number.Fits .double) (positive : 0 < number.significand) :
    Near number (shortest .double number) := by
  have close := (holds_shortest fits positive).le_high
  rw [Interval.around_high] at close
  obtain ⟨leading, found, search⟩ := exists_found fits positive
  have lowest : -1075 ≤ leading := by
    by_contra! lower
    have least : (2 : ℚ) ^ (-1074 : Int) ≤ number.magnitude := by
      have one : (1 : ℚ) ≤ number.significand := by exact_mod_cast positive
      have place : (2 : ℚ) ^ (-1074 : Int) ≤ 2 ^ number.exponent :=
        zpow_le_zpow_right₀ (by norm_num) fits.low
      rw [Binary.magnitude]
      nlinarith [zpow_pos (by norm_num : (0 : ℚ) < 2) number.exponent]
    have tiny : (10 : ℚ) ^ (leading + 1) ≤ 10 ^ (-1074 : Int) :=
      zpow_le_zpow_right₀ (by norm_num) (by omega)
    have bases : (2 : ℚ) ^ 1074 ≤ 10 ^ 1074 := pow_le_pow_left₀ (by norm_num) (by norm_num) _
    have : (10 : ℚ) ^ (-1074 : Int) ≤ 2 ^ (-1074 : Int) := inv_anti₀ (by positivity) bases
    have next := search.next
    linarith
  obtain ⟨some, short⟩ := search.digits_bounds
  obtain ⟨positive, fewer, higher, -⟩ := stripZeros_spec (Binary.digitCount found.digits) some
  have low := search.low
  rw [← search.stripped] at positive fewer higher
  exact ⟨positive, fewer.trans short, close, by omega,
    exponent_le_of_le_overflow positive (close.trans fits.half_above_le)⟩

end found

end Decimal
end DatasetService
