import DatasetService.Number.Binary
import Mathlib.Algebra.Order.Field.Power
import Mathlib.Data.Nat.Log
import Mathlib.Data.Rat.Cast.Order
import Mathlib.Tactic.FieldSimp
import Mathlib.Tactic.Linarith
import Mathlib.Tactic.Positivity
import Mathlib.Tactic.Ring

set_option autoImplicit false

/- Rounding to binary floating point. The number nearest to a ratio is one of its format, it is
off by no more than half a unit in the last place, and it exists below half a unit beyond the
greatest number. -/
namespace DatasetService.Binary

/-- The magnitude of a number. -/
def magnitude (number : Binary) : ℚ := number.significand * 2 ^ number.exponent

/-- A number of a format. -/
structure Fits (format : BinaryFormat) (number : Binary) : Prop where
  significand : number.significand < Nat.pow 2 format.precision
  low : format.minExponent ≤ number.exponent
  high : number.exponent ≤ format.maxExponent

/-- Half a unit beyond the greatest number of a format. Less than this is rounded to a number. -/
def overflow (format : BinaryFormat) : ℚ :=
  (2 ^ format.precision - 1 / 2) * 2 ^ format.maxExponent

/-- The same bound as a natural number, for a format that has one. -/
def overflowNat (format : BinaryFormat) : Nat :=
  (2 ^ (format.precision + 1) - 1) * 2 ^ (format.maxExponent.toNat - 1)

theorem overflow_eq {format : BinaryFormat} (positive : 0 < format.maxExponent) :
    overflow format = overflowNat format := by
  obtain ⟨last, ends⟩ : ∃ last : Nat, format.maxExponent = (last + 1 : Nat) :=
    ⟨format.maxExponent.toNat - 1, by omega⟩
  rw [overflow, overflowNat, Nat.cast_mul, Nat.cast_sub Nat.one_le_two_pow, ends,
    Int.toNat_natCast, Nat.add_sub_cancel, zpow_natCast, pow_succ]
  push_cast [pow_succ]
  ring

theorem magnitude_nonneg (number : Binary) : 0 ≤ number.magnitude := by
  unfold magnitude
  positivity

/-- Half a unit in the last place above a number is not beyond the bound. -/
theorem Fits.half_above_le {format : BinaryFormat} {number : Binary} (fits : number.Fits format) :
    number.magnitude + 2 ^ number.exponent / 2 ≤ overflow format := by
  have whole : number.significand + 1 ≤ Nat.pow 2 format.precision := fits.significand
  have digits : (number.significand : ℚ) + 1 ≤ 2 ^ format.precision := by exact_mod_cast whole
  have place : (2 : ℚ) ^ number.exponent ≤ 2 ^ format.maxExponent :=
    zpow_le_zpow_right₀ (by norm_num) fits.high
  calc number.magnitude + 2 ^ number.exponent / 2
      = (number.significand + 1 / 2) * 2 ^ number.exponent := by
        rw [magnitude]
        ring
    _ ≤ overflow format := mul_le_mul (by linarith) place (by positivity) (by linarith)

theorem Fits.magnitude_lt {format : BinaryFormat} {number : Binary} (fits : number.Fits format) :
    number.magnitude < overflow format := by
  have half : (0 : ℚ) < 2 ^ number.exponent / 2 := by positivity
  have := fits.half_above_le
  linarith

theorem fits_zero {format : BinaryFormat} (ordered : format.minExponent ≤ format.maxExponent)
    (negative : Bool) : (zero format negative).Fits format :=
  ⟨Nat.pow_pos (by decide), le_refl _, ordered⟩

section scaling

variable (num den : Nat) (exponent : Int)

theorem scaleDown_ratio :
    ((scaleDown num den exponent).1 : ℚ) / (scaleDown num den exponent).2 =
      num / den / 2 ^ exponent := by
  unfold scaleDown
  split
  · rename_i nonneg
    obtain ⟨count, rfl⟩ := Int.eq_ofNat_of_zero_le nonneg
    simp [div_div]
  · rename_i negative
    obtain ⟨count, positive⟩ := Int.eq_ofNat_of_zero_le (by omega : 0 ≤ -exponent)
    obtain rfl : exponent = -(count : Int) := by omega
    simp only [neg_neg, Int.toNat_natCast, zpow_neg, zpow_natCast, div_inv_eq_mul, Nat.pow_eq]
    push_cast
    ring

theorem scaleDown_pos {num den : Nat} (positive : 0 < den) :
    0 < (scaleDown num den exponent).2 := by
  unfold scaleDown
  split
  · exact Nat.mul_pos positive (Nat.pow_pos (by decide))
  · exact positive

end scaling

theorem ratio_pos (number : Binary) : 0 < number.ratio.2 := scaleDown_pos _ (by decide)

theorem ratio_magnitude (number : Binary) :
    (number.ratio.1 : ℚ) / number.ratio.2 = number.magnitude := by
  rw [ratio, scaleDown_ratio, magnitude, zpow_neg, div_inv_eq_mul, Nat.cast_one, div_one]

theorem abs_roundHalfEven_sub_le (num : Nat) {den : Nat} (positive : 0 < den) :
    |(roundHalfEven num den : ℚ) - num / den| ≤ 1 / 2 := by
  have cast : (0 : ℚ) < den := by exact_mod_cast positive
  have split : (num : ℚ) = den * (num / den : Nat) + (num % den : Nat) := by
    exact_mod_cast (Nat.div_add_mod num den).symm
  have ratio : (num : ℚ) / den = (num / den : Nat) + (num % den : Nat) / den := by
    rw [split]
    field_simp
  have small : ((num % den : Nat) : ℚ) / den < 1 := by
    rw [div_lt_one cast]
    exact_mod_cast Nat.mod_lt num positive
  have nonneg : (0 : ℚ) ≤ ((num % den : Nat) : ℚ) / den := by positivity
  rw [ratio, abs_le]
  unfold roundHalfEven
  dsimp only
  split
  · rename_i up
    have half : den ≤ 2 * (num % den) := by
      simp only [Bool.or_eq_true, decide_eq_true_eq, Bool.and_eq_true, beq_iff_eq] at up
      omega
    have more : 1 / 2 ≤ ((num % den : Nat) : ℚ) / den := by
      rw [div_le_div_iff₀ (by norm_num) cast]
      have halfCast : (den : ℚ) ≤ 2 * (num % den : Nat) := by exact_mod_cast half
      linarith
    push_cast
    constructor <;> linarith
  · rename_i down
    have half : 2 * (num % den) ≤ den := by
      simp only [Bool.or_eq_true, decide_eq_true_eq, Bool.and_eq_true, beq_iff_eq] at down
      omega
    have less : ((num % den : Nat) : ℚ) / den ≤ 1 / 2 := by
      rw [div_le_div_iff₀ cast (by norm_num)]
      have halfCast : 2 * ((num % den : Nat) : ℚ) ≤ den := by exact_mod_cast half
      linarith
    constructor <;> linarith

section places

variable {format : BinaryFormat} {num den : Nat}

/-- The powers of two about a ratio. -/
theorem ratio_log2_bounds (numPositive : 0 < num) (denPositive : 0 < den) :
    (2 : ℚ) ^ ((num.log2 : Int) - den.log2 - 1) < num / den ∧
      (num : ℚ) / den < 2 ^ ((num.log2 : Int) - den.log2 + 1) := by
  have numLow : (2 : ℚ) ^ num.log2 ≤ num := by exact_mod_cast Nat.log2_self_le numPositive.ne'
  have numHigh : (num : ℚ) < 2 ^ (num.log2 + 1) := by exact_mod_cast Nat.lt_log2_self
  have denLow : (2 : ℚ) ^ den.log2 ≤ den := by exact_mod_cast Nat.log2_self_le denPositive.ne'
  have denHigh : (den : ℚ) < 2 ^ (den.log2 + 1) := by exact_mod_cast Nat.lt_log2_self
  have cast : (0 : ℚ) < den := by exact_mod_cast denPositive
  have two : (2 : ℚ) ≠ 0 := by norm_num
  constructor
  · rw [lt_div_iff₀ cast]
    calc (2 : ℚ) ^ ((num.log2 : Int) - den.log2 - 1) * den
        < 2 ^ ((num.log2 : Int) - den.log2 - 1) * 2 ^ (den.log2 + 1) :=
          mul_lt_mul_of_pos_left denHigh (by positivity)
      _ = 2 ^ num.log2 := by
          rw [← zpow_natCast, ← zpow_natCast, ← zpow_add₀ two]
          congr 1
          push_cast
          ring
      _ ≤ num := numLow
  · rw [div_lt_iff₀ cast]
    calc (num : ℚ) < 2 ^ (num.log2 + 1) := numHigh
      _ = 2 ^ ((num.log2 : Int) - den.log2 + 1) * 2 ^ den.log2 := by
          rw [← zpow_natCast, ← zpow_natCast, ← zpow_add₀ two]
          congr 1
          push_cast
          ring
      _ ≤ 2 ^ ((num.log2 : Int) - den.log2 + 1) * den :=
          mul_le_mul_of_nonneg_left denLow (by positivity)

/-- A ratio in whole units of a place, against a power of two. -/
theorem quotient_lt_iff (denPositive : 0 < den) (place : Int) (precision : Nat) :
    (scaleDown num den place).1 / (scaleDown num den place).2 < Nat.pow 2 precision ↔
      (num : ℚ) / den < 2 ^ (place + precision) := by
  have natural : 0 < (scaleDown num den place).2 := scaleDown_pos place denPositive
  have positive : (0 : ℚ) < (scaleDown num den place).2 := by exact_mod_cast natural
  have scaled : (num : ℚ) / den =
      (scaleDown num den place).1 / (scaleDown num den place).2 * 2 ^ place := by
    rw [scaleDown_ratio, div_mul_cancel₀ _ (by positivity)]
  rw [Nat.div_lt_iff_lt_mul natural, scaled, add_comm, zpow_add₀ (by norm_num),
    mul_lt_mul_iff_of_pos_right (by positivity), div_lt_iff₀ positive, zpow_natCast]
  exact_mod_cast Iff.rfl

/-- A ratio in units of the last place. -/
theorem lastPlace_bounds (format : BinaryFormat) (numPositive : 0 < num) (denPositive : 0 < den) :
    format.minExponent ≤ lastPlace format num den ∧
    (num : ℚ) / den < 2 ^ (lastPlace format num den + format.precision) ∧
    (lastPlace format num den = format.minExponent ∨
      (2 : ℚ) ^ (lastPlace format num den + format.precision - 1) ≤ num / den) := by
  obtain ⟨above, below⟩ := ratio_log2_bounds numPositive denPositive
  unfold lastPlace
  dsimp only
  generalize guessed : (num.log2 : Int) - den.log2 - format.precision = guess
  -- The guess is exact, or one too small.
  have exactly : ∃ place, (if (scaleDown num den guess).1 / (scaleDown num den guess).2 <
        Nat.pow 2 format.precision then guess else guess + 1) = place ∧
      (num : ℚ) / den < 2 ^ (place + format.precision) ∧
      (2 : ℚ) ^ (place + format.precision - 1) ≤ num / den := by
    split
    · rename_i small
      refine ⟨guess, rfl, (quotient_lt_iff denPositive guess _).mp small, ?_⟩
      have place : guess + format.precision - 1 = num.log2 - den.log2 - 1 := by omega
      rw [place]
      exact above.le
    · rename_i large
      refine ⟨guess + 1, rfl, ?_, ?_⟩
      · have place : guess + 1 + format.precision = num.log2 - den.log2 + 1 := by omega
        rw [place]
        exact below
      · have place : guess + 1 + format.precision - 1 = guess + format.precision := by omega
        rw [place]
        exact not_lt.mp (mt (quotient_lt_iff denPositive guess _).mpr large)
  obtain ⟨place, equal, high, low⟩ := exactly
  rw [equal]
  refine ⟨le_max_left _ _, high.trans_le (zpow_le_zpow_right₀ (by norm_num) ?_), ?_⟩
  · have := le_max_right format.minExponent place
    omega
  · rcases le_total format.minExponent place with normal | subnormal
    · rw [max_eq_right normal]
      exact Or.inr low
    · exact Or.inl (max_eq_left subnormal)

/-- The number nearest to a ratio, wherever it is. A carry moves it up by one place. -/
def nearest (format : BinaryFormat) (negative : Bool) (num den : Nat) : Binary :=
  let place := lastPlace format num den
  let scaled := scaleDown num den place
  let rounded := roundHalfEven scaled.1 scaled.2
  if rounded = Nat.pow 2 format.precision then
    { negative, significand := Nat.pow 2 (format.precision - 1), exponent := place + 1 }
  else { negative, significand := rounded, exponent := place }

variable {negative : Bool}

theorem ofRatio_of_pos (positive : 0 < num) :
    ofRatio format negative num den =
      if format.maxExponent < (nearest format negative num den).exponent then none
      else some (nearest format negative num den) := by
  rw [ofRatio, if_neg positive.ne']
  rfl

theorem ofRatio_zero : ofRatio format negative 0 den = some (zero format negative) := by
  rw [ofRatio, if_pos rfl]

/-- The ratio in units of its last place, rounded. -/
theorem rounded_bounds (format : BinaryFormat) (numPositive : 0 < num) (denPositive : 0 < den) :
    let place := lastPlace format num den
    let scaled := scaleDown num den place
    roundHalfEven scaled.1 scaled.2 ≤ Nat.pow 2 format.precision ∧
      |(roundHalfEven scaled.1 scaled.2 : ℚ) * 2 ^ place - num / den| ≤ 2 ^ place / 2 := by
  intro place scaled
  have scaledPositive : 0 < scaled.2 := scaleDown_pos place denPositive
  have ratio : (scaled.1 : ℚ) / scaled.2 = num / den / 2 ^ place := scaleDown_ratio num den place
  have close := abs_roundHalfEven_sub_le scaled.1 scaledPositive
  rw [ratio] at close
  obtain ⟨-, below, -⟩ := lastPlace_bounds format numPositive denPositive
  have unit : (0 : ℚ) < 2 ^ place := by positivity
  constructor
  · have small : (num : ℚ) / den / 2 ^ place < 2 ^ format.precision := by
      rw [div_lt_iff₀ unit, ← zpow_natCast, ← zpow_add₀ (by norm_num), add_comm]
      exact below
    have cast : (roundHalfEven scaled.1 scaled.2 : ℚ) < 2 ^ format.precision + 1 := by
      have := (abs_le.mp close).2
      linarith
    exact Nat.lt_succ_iff.mp (by exact_mod_cast cast)
  · have scaledBack : (roundHalfEven scaled.1 scaled.2 : ℚ) * 2 ^ place - num / den =
        ((roundHalfEven scaled.1 scaled.2 : ℚ) - num / den / 2 ^ place) * 2 ^ place := by
      rw [sub_mul, div_mul_cancel₀ _ unit.ne']
    rw [scaledBack, abs_mul, abs_of_pos unit]
    calc _ ≤ 1 / 2 * 2 ^ place := mul_le_mul_of_nonneg_right close unit.le
      _ = 2 ^ place / 2 := by ring

theorem nearest_low (numPositive : 0 < num) (denPositive : 0 < den) :
    format.minExponent ≤ (nearest format negative num den).exponent := by
  have low := (lastPlace_bounds format numPositive denPositive).1
  unfold nearest
  dsimp only
  split
  · exact low.trans (Int.le_add_one (le_refl _))
  · exact low

theorem nearest_significand (precise : 0 < format.precision) (numPositive : 0 < num)
    (denPositive : 0 < den) :
    (nearest format negative num den).significand < Nat.pow 2 format.precision := by
  have bounds := rounded_bounds format numPositive denPositive
  unfold nearest
  dsimp only
  split
  · exact Nat.pow_lt_pow_right (by decide) (by omega)
  · exact lt_of_le_of_ne bounds.1 ‹_›

theorem pow_precision (precise : 0 < format.precision) :
    Nat.pow 2 format.precision = Nat.pow 2 (format.precision - 1) * 2 := by
  rw [Nat.pow_eq, Nat.pow_eq, ← Nat.pow_succ]
  congr 1
  omega

theorem nearest_magnitude (precise : 0 < format.precision) :
    let place := lastPlace format num den
    let scaled := scaleDown num den place
    (nearest format negative num den).magnitude =
      (roundHalfEven scaled.1 scaled.2 : ℚ) * 2 ^ place := by
  intro place scaled
  unfold nearest
  dsimp only
  split
  · rename_i carry
    have rounded : roundHalfEven scaled.1 scaled.2 = Nat.pow 2 (format.precision - 1) * 2 :=
      carry.trans (pow_precision precise)
    rw [rounded, magnitude, zpow_add_one₀ (by norm_num)]
    push_cast
    ring
  · rfl

/-- What a ratio is rounded to is a number of the format. -/
theorem fits_of_ofRatio (precise : 0 < format.precision)
    (ordered : format.minExponent ≤ format.maxExponent) (denPositive : 0 < den)
    {result : Binary} (rounds : ofRatio format negative num den = some result) :
    result.Fits format := by
  rcases Nat.eq_zero_or_pos num with rfl | numPositive
  · cases ofRatio_zero.symm.trans rounds
    exact fits_zero ordered negative
  · rw [ofRatio_of_pos numPositive] at rounds
    split at rounds
    · cases rounds
    · rename_i within
      cases rounds
      exact ⟨nearest_significand precise numPositive denPositive,
        nearest_low numPositive denPositive, not_lt.mp within⟩

/-- A decimal is rounded as the ratio that it is, or it is too small to be anything but zero. -/
theorem ofDecimal_cases {digits : Nat} {exponent : Int} {result : Binary}
    (rounds : ofDecimal format negative digits exponent = some result) :
    result = zero format negative ∨
      ∃ num den, 0 < den ∧ ofRatio format negative num den = some result := by
  unfold ofDecimal at rounds
  dsimp only at rounds
  split at rounds
  · cases rounds
    exact Or.inl rfl
  split at rounds
  · cases rounds
  split at rounds
  · cases rounds
    exact Or.inl rfl
  split at rounds
  · exact Or.inr ⟨_, _, Nat.one_pos, rounds⟩
  · exact Or.inr ⟨_, _, Nat.pow_pos (by decide), rounds⟩

/-- A decimal is rounded to a number of the format. -/
theorem fits_of_ofDecimal (precise : 0 < format.precision)
    (ordered : format.minExponent ≤ format.maxExponent) {digits : Nat} {exponent : Int}
    {result : Binary} (rounds : ofDecimal format negative digits exponent = some result) :
    result.Fits format := by
  rcases ofDecimal_cases rounds with rfl | ⟨num, den, denPositive, rounds⟩
  · exact fits_zero ordered negative
  · exact fits_of_ofRatio precise ordered denPositive rounds

/-- A ratio that is not less than the least normal number is off by a relative error. -/
theorem error_of_ofRatio (precise : 0 < format.precision) (denPositive : 0 < den)
    (normal : (2 : ℚ) ^ (format.minExponent + format.precision - 1) ≤ num / den)
    {result : Binary} (rounds : ofRatio format negative num den = some result) :
    |result.magnitude - num / den| ≤ num / den / 2 ^ format.precision := by
  have numPositive : 0 < num := by
    rcases Nat.eq_zero_or_pos num with rfl | positive
    · have least : (0 : ℚ) < 2 ^ (format.minExponent + format.precision - 1) := by positivity
      simp only [Nat.cast_zero, zero_div] at normal
      exact absurd normal (not_le.mpr least)
    · exact positive
  rw [ofRatio_of_pos numPositive] at rounds
  split at rounds
  · cases rounds
  · cases rounds
    rw [nearest_magnitude precise]
    refine (rounded_bounds _ numPositive denPositive).2.trans ?_
    have reached : (2 : ℚ) ^ (lastPlace format num den + format.precision - 1) ≤ num / den := by
      rcases (lastPlace_bounds format numPositive denPositive).2.2 with least | normal
      · rw [least]
        assumption
      · exact normal
    rw [le_div_iff₀ (by positivity)]
    calc (2 : ℚ) ^ lastPlace format num den / 2 * 2 ^ format.precision
        = 2 ^ (lastPlace format num den + format.precision - 1) := by
          rw [zpow_sub_one₀ (by norm_num), zpow_add₀ (by norm_num), zpow_natCast]
          ring
      _ ≤ num / den := reached

/-- A carry comes of a ratio that is no less than half a unit below the next power of two. -/
theorem le_ratio_of_carry (numPositive : 0 < num) (denPositive : 0 < den)
    (carry : roundHalfEven (scaleDown num den (lastPlace format num den)).1
      (scaleDown num den (lastPlace format num den)).2 = Nat.pow 2 format.precision) :
    (2 ^ format.precision - 1 / 2) * (2 : ℚ) ^ lastPlace format num den ≤ num / den := by
  have close := (rounded_bounds format numPositive denPositive).2
  have power : ((Nat.pow 2 format.precision : Nat) : ℚ) = 2 ^ format.precision := by
    exact_mod_cast rfl
  rw [carry, power] at close
  have := (abs_le.mp close).2
  linarith

/-- Below half a unit beyond the greatest number there is a nearest number. -/
theorem exists_ofRatio (ordered : format.minExponent ≤ format.maxExponent)
    (denPositive : 0 < den) (small : (num : ℚ) / den < overflow format) :
    ∃ result, ofRatio format negative num den = some result := by
  rcases Nat.eq_zero_or_pos num with rfl | numPositive
  · exact ⟨_, ofRatio_zero⟩
  refine ⟨nearest format negative num den, ?_⟩
  rw [ofRatio_of_pos numPositive, if_neg]
  intro beyond
  unfold overflow at small
  unfold nearest at beyond
  dsimp only at beyond
  split at beyond
  · rename_i carry
    have power : (2 : ℚ) ^ format.maxExponent ≤ 2 ^ lastPlace format num den :=
      zpow_le_zpow_right₀ (by norm_num) (Int.lt_add_one_iff.mp beyond)
    have least : (1 : ℚ) ≤ 2 ^ format.precision := one_le_pow₀ (by norm_num)
    have above := le_ratio_of_carry numPositive denPositive carry
    have := mul_le_mul_of_nonneg_left power (by linarith : (0 : ℚ) ≤ 2 ^ format.precision - 1 / 2)
    linarith
  · obtain ⟨-, -, least | normal⟩ := lastPlace_bounds format numPositive denPositive
    · exact absurd (least ▸ beyond) (not_lt.mpr ordered)
    · have higher : format.maxExponent + format.precision ≤
          lastPlace format num den + format.precision - 1 := by
        have : format.maxExponent < lastPlace format num den := beyond
        omega
      have power : (2 : ℚ) ^ (format.maxExponent + format.precision) ≤ num / den :=
        le_trans (zpow_le_zpow_right₀ (by norm_num) higher) normal
      rw [zpow_add₀ (by norm_num), zpow_natCast] at power
      have unit : (0 : ℚ) < 2 ^ format.maxExponent := by positivity
      linarith

end places

section arithmetic

variable {format : BinaryFormat} (left right : Binary)

theorem ratio_mul : ((left.ratio.1 * right.ratio.1 : Nat) : ℚ) /
    (left.ratio.2 * right.ratio.2 : Nat) = left.magnitude * right.magnitude := by
  rw [← ratio_magnitude, ← ratio_magnitude]
  push_cast
  exact (div_mul_div_comm _ _ _ _).symm

theorem ratio_div : ((left.ratio.1 * right.ratio.2 : Nat) : ℚ) /
    (left.ratio.2 * right.ratio.1 : Nat) = left.magnitude / right.magnitude := by
  rw [← ratio_magnitude, ← ratio_magnitude]
  push_cast
  exact (div_div_div_eq _ _ _ _).symm

end arithmetic

end DatasetService.Binary
