import DatasetService.Json.Numeral
import DatasetService.Proofs.Number.Shortest

set_option autoImplicit false

/- Scaling a significand by a power of ten. What comes of it is a double, and the digits of a
double are never scaled out of range. -/
namespace DatasetService.Json

open Binary (overflow)

theorem fits_double {value : Option Binary} (fits : ∀ number ∈ value, number.Fits .double) :
    (double value).Fits .double := by
  cases value with
  | none => exact Binary.fits_zero (by decide) false
  | some number => exact fits number rfl

/-- A natural number within range as a double. -/
theorem double_ofRatio {value : Nat} (positive : 0 < value)
    (small : (value : ℚ) < overflow .double) :
    (double (Binary.ofRatio .double false value 1)).Fits .double ∧
      |(double (Binary.ofRatio .double false value 1)).magnitude - value| ≤ value / 2 ^ 53 := by
  have ratio : (value : ℚ) / (1 : Nat) = value := by rw [Nat.cast_one, div_one]
  have normal : (2 : ℚ) ^ (BinaryFormat.double.minExponent + BinaryFormat.double.precision - 1) ≤
      (value : ℚ) / (1 : Nat) := by
    have one : (1 : ℚ) ≤ value := by exact_mod_cast positive
    rw [ratio]
    exact le_trans (zpow_le_one_of_nonpos₀ (by norm_num) (by decide)) one
  obtain ⟨result, rounds⟩ : ∃ result, Binary.ofRatio .double false value 1 = some result :=
    Binary.exists_ofRatio (by decide) (by decide) (by rw [ratio]; exact small)
  have fits := Binary.fits_of_ofRatio (by decide) (by decide) (by decide) rounds
  have error := Binary.error_of_ofRatio (by decide) (by decide) normal rounds
  rw [rounds]
  rw [ratio] at error
  exact ⟨fits, error⟩

/-- The significands that are read, of 64 bits, are within range. -/
theorem ofSignificand_spec {significand : Nat} (positive : 0 < significand)
    (small : significand < 2 ^ 64) :
    (ofSignificand significand).Fits .double ∧
      |(ofSignificand significand).magnitude - significand| ≤ significand / 2 ^ 53 := by
  have greatest : 2 ^ 64 < Binary.overflowNat .double := by decide +kernel
  refine double_ofRatio positive ?_
  rw [Binary.overflow_eq (by decide)]
  exact Nat.cast_lt.mpr (small.trans greatest)

theorem fits_ofSignificand (significand : Nat) : (ofSignificand significand).Fits .double :=
  fits_double fun _ rounds =>
    Binary.fits_of_ofRatio (by decide) (by decide) (by decide) rounds

/-- So are the powers of ten that are tabled. -/
theorem powerOfTen_spec {exponent : Nat} (small : exponent ≤ 308) :
    (powerOfTen exponent).Fits .double ∧
      |(powerOfTen exponent).magnitude - 10 ^ exponent| ≤ 10 ^ exponent / 2 ^ 53 := by
  have power : powerOfTen exponent =
      double (Binary.ofRatio .double false (10 ^ exponent) 1) := by
    have digits : Binary.digitCount 1 = 1 := by decide
    have nonneg : 0 ≤ (exponent : Int) := by omega
    have notLarge : ¬ 400 < (exponent : Int) + 1 := by omega
    have notSmall : ¬ (exponent : Int) + 1 < -400 := by omega
    simp only [powerOfTen, Binary.ofDecimal, digits, Nat.one_ne_zero, if_false, Nat.cast_one,
      notLarge, notSmall, nonneg, if_true, Nat.one_mul, Int.toNat_natCast, Nat.pow_eq]
  have greatest : 10 ^ 308 < Binary.overflowNat .double := by decide +kernel
  have inRange := (pow_le_pow_right₀ (by decide : 1 ≤ 10) small).trans_lt greatest
  have cast : ((10 ^ exponent : Nat) : ℚ) = 10 ^ exponent := by push_cast; rfl
  have spec := double_ofRatio (Nat.pow_pos (by decide) : 0 < 10 ^ exponent)
    (by rw [Binary.overflow_eq (by decide)]; exact Nat.cast_lt.mpr inRange)
  rw [power, ← cast]
  exact spec

theorem half_le_powerOfTen {exponent : Nat} (small : exponent ≤ 308) :
    (10 : ℚ) ^ exponent / 2 ≤ (powerOfTen exponent).magnitude := by
  have close := (abs_le.mp (powerOfTen_spec small).2).1
  have positive : (0 : ℚ) < 10 ^ exponent := by positivity
  linarith

theorem powerOfTen_pos {exponent : Nat} (small : exponent ≤ 308) :
    0 < (powerOfTen exponent).ratio.1 := by
  have half := half_le_powerOfTen small
  rw [← Binary.ratio_magnitude] at half
  rcases Nat.eq_zero_or_pos (powerOfTen exponent).ratio.1 with none | some
  · rw [none, Nat.cast_zero, zero_div] at half
    have positive : (0 : ℚ) < 10 ^ exponent := by positivity
    linarith
  · exact some

theorem fits_divide {number result : Binary} {exponent : Nat} (small : exponent ≤ 308)
    (divides : Binary.divide .double number (powerOfTen exponent) = some result) :
    result.Fits .double :=
  Binary.fits_of_ofRatio (by decide) (by decide)
    (Nat.mul_pos number.ratio_pos (powerOfTen_pos small)) divides

/-- What is scaled is a double again. -/
theorem fits_scale {fuel : Nat} {number result : Binary} {exponent : Int}
    (fits : number.Fits .double) (scales : scale fuel number exponent = some result) :
    result.Fits .double := by
  induction fuel generalizing number exponent with
  | zero =>
      cases scales
      exact fits
  | succ fuel ih =>
      unfold scale at scales
      split at scales
      · rename_i near
        split at scales
        · exact Binary.fits_of_ofRatio (by decide) (by decide)
            (Nat.mul_pos number.ratio_pos (Binary.ratio_pos _)) scales
        · exact fits_divide near scales
      · split at scales
        · cases scales
          exact fits
        · split at scales
          · cases scales
          · exact ih (fits_double fun _ divides => fits_divide (by decide) divides) scales

/-- Scaling down does not leave the range. -/
theorem exists_scale_of_neg (fuel : Nat) {number : Binary} {exponent : Int}
    (fits : number.Fits .double) (negative : exponent < 0) :
    ∃ result, scale fuel number exponent = some result := by
  induction fuel generalizing number exponent with
  | zero => exact ⟨number, rfl⟩
  | succ fuel ih =>
      unfold scale
      split
      · rename_i near
        rw [if_neg (by omega)]
        refine Binary.exists_ofRatio (by decide)
          (Nat.mul_pos number.ratio_pos (powerOfTen_pos near)) ?_
        rw [Binary.ratio_div]
        have ten : (10 : ℚ) ≤ 10 ^ exponent.natAbs := by
          have := pow_le_pow_right₀ (by norm_num : (1 : ℚ) ≤ 10) (by omega : 1 ≤ exponent.natAbs)
          rwa [pow_one] at this
        have divisor : 1 ≤ (powerOfTen exponent.natAbs).magnitude := by
          have := half_le_powerOfTen near
          linarith
        exact (div_le_self number.magnitude_nonneg divisor).trans_lt fits.magnitude_lt
      · split
        · exact ⟨number, rfl⟩
        · rw [if_neg (by omega)]
          exact ih (fits_double fun _ divides => fits_divide (by decide) divides) (by omega)

/-- Nor does scaling up where the product is within range, by the error of two roundings. -/
theorem exists_scale_of_nonneg (fuel : Nat) {significand exponent : Nat}
    (positive : 0 < significand) (small : significand < 2 ^ 64) (near : exponent ≤ 308)
    (inRange : (significand : ℚ) * 10 ^ exponent * (1 + 1 / 2 ^ 53) ^ 2 < overflow .double) :
    ∃ result, scale fuel (ofSignificand significand) exponent = some result := by
  cases fuel with
  | zero => exact ⟨_, rfl⟩
  | succ fuel =>
      have natural : (exponent : Int).natAbs ≤ 308 := near
      have nonneg : 0 ≤ (exponent : Int) := by omega
      rw [scale, if_pos natural, if_pos nonneg]
      refine Binary.exists_ofRatio (by decide)
        (Nat.mul_pos (Binary.ratio_pos _) (Binary.ratio_pos _)) ?_
      rw [Binary.ratio_mul, Int.toNat_natCast]
      have left := (abs_le.mp (ofSignificand_spec positive small).2).2
      have right := (abs_le.mp (powerOfTen_spec near).2).2
      refine lt_of_le_of_lt ?_ inRange
      calc (ofSignificand significand).magnitude * (powerOfTen exponent).magnitude
          ≤ ((significand : ℚ) * (1 + 1 / 2 ^ 53)) * (10 ^ exponent * (1 + 1 / 2 ^ 53)) := by
            refine mul_le_mul (by linarith) (by linarith) (Binary.magnitude_nonneg _)
              (by positivity)
        _ = (significand : ℚ) * 10 ^ exponent * (1 + 1 / 2 ^ 53) ^ 2 := by ring

section shortest

variable {number : Binary}

/-- The greatest three doubles are too close to the end of the range for the general bound. -/
theorem exists_scale_greatest (negative : Bool) {significand : Nat}
    (great : Nat.pow 2 53 - 4 < significand) (inside : significand < Nat.pow 2 53) :
    ∃ result, scale 4
      (ofSignificand (Decimal.shortest .double ⟨negative, significand, 971⟩).digits)
      (Decimal.shortest .double ⟨negative, significand, 971⟩).exponent = some result := by
  have computed : ∀ below < 3, (scale 4
      (ofSignificand
        (Decimal.shortest .double ⟨negative, Nat.pow 2 53 - 1 - below, 971⟩).digits)
      (Decimal.shortest .double ⟨negative, Nat.pow 2 53 - 1 - below, 971⟩).exponent).isSome =
        true := by
    cases negative <;> decide +kernel
  obtain ⟨below, few, rfl⟩ : ∃ below < 3, significand = Nat.pow 2 53 - 1 - below :=
    ⟨Nat.pow 2 53 - 1 - significand, by omega, by omega⟩
  exact Option.isSome_iff_exists.mp (computed below few)

/-- Half a unit above any other double, two roundings do not lead out of the range. -/
theorem inRange_of_not_greatest (fits : number.Fits .double)
    (other : number.exponent = 971 → number.significand ≤ Nat.pow 2 53 - 4) :
    (number.magnitude + 2 ^ number.exponent / 2) * (1 + 1 / 2 ^ 53) ^ 2 < overflow .double := by
  have half : number.magnitude + 2 ^ number.exponent / 2 =
      (number.significand + 1 / 2) * 2 ^ number.exponent := by
    rw [Binary.magnitude]
    ring
  have most : (number.significand + 1 / 2) * (2 : ℚ) ^ number.exponent ≤
      (2 ^ 53 - 7 / 2) * 2 ^ (971 : Int) := by
    rcases fits.high.eq_or_lt with last | lower
    · have bound : number.significand + 4 ≤ 2 ^ 53 := by
        have := other last
        have : 4 ≤ Nat.pow 2 53 := by decide
        change _ ≤ Nat.pow 2 53
        omega
      have cast : (number.significand : ℚ) + 4 ≤ 2 ^ 53 := by exact_mod_cast bound
      rw [last]
      exact mul_le_mul_of_nonneg_right (by linarith) (by positivity)
    · have bound : number.significand + 1 ≤ 2 ^ 53 := fits.significand
      have cast : (number.significand : ℚ) + 1 ≤ 2 ^ 53 := by exact_mod_cast bound
      have place : (2 : ℚ) ^ number.exponent ≤ 2 ^ (970 : Int) :=
        zpow_le_zpow_right₀ (by norm_num) (Int.lt_add_one_iff.mp lower)
      calc (number.significand + 1 / 2) * (2 : ℚ) ^ number.exponent
          ≤ (2 ^ 53 - 1 / 2) * 2 ^ (970 : Int) :=
            mul_le_mul (by linarith) place (by positivity) (by norm_num)
        _ ≤ (2 ^ 53 - 7 / 2) * 2 * 2 ^ (970 : Int) :=
            mul_le_mul_of_nonneg_right (by norm_num) (by positivity)
        _ = (2 ^ 53 - 7 / 2) * 2 ^ (971 : Int) := by
            rw [mul_assoc, ← zpow_one_add₀ (by norm_num : (2 : ℚ) ≠ 0)]
            rfl
  rw [half]
  calc (number.significand + 1 / 2) * (2 : ℚ) ^ number.exponent * (1 + 1 / 2 ^ 53) ^ 2
      ≤ (2 ^ 53 - 7 / 2) * 2 ^ (971 : Int) * (1 + 1 / 2 ^ 53) ^ 2 :=
        mul_le_mul_of_nonneg_right most (by positivity)
    _ = (2 ^ 53 - 7 / 2) * (1 + 1 / 2 ^ 53) ^ 2 * 2 ^ (971 : Int) := by ring
    _ < (2 ^ 53 - 1 / 2) * 2 ^ (971 : Int) :=
        mul_lt_mul_of_pos_right (by norm_num) (by positivity)

/-- The digits of a double are scaled to a double. -/
theorem exists_scale_shortest (fits : number.Fits .double) (positive : 0 < number.significand) :
    ∃ result, scale 4 (ofSignificand (Decimal.shortest .double number).digits)
      (Decimal.shortest .double number).exponent = some result := by
  have near := Decimal.near_shortest fits positive
  by_cases great : number.exponent = 971 ∧ Nat.pow 2 53 - 4 < number.significand
  · obtain ⟨negative, significand, exponent⟩ := number
    obtain ⟨rfl, great⟩ := great
    exact exists_scale_greatest negative great fits.significand
  have inRange := inRange_of_not_greatest fits fun last => by
    by_contra! more
    exact great ⟨last, more⟩
  generalize Decimal.shortest .double number = decimal at near ⊢
  rcases lt_or_ge decimal.exponent 0 with negative | nonneg
  · exact exists_scale_of_neg 4 (fits_ofSignificand _) negative
  · obtain ⟨exponent, same⟩ := Int.eq_ofNat_of_zero_le nonneg
    have few := near.high
    have close := near.close
    rw [same] at few
    rw [Decimal.magnitude, same, zpow_natCast] at close
    have product : (decimal.digits : ℚ) * 10 ^ exponent * (1 + 1 / 2 ^ 53) ^ 2 <
        overflow .double :=
      lt_of_le_of_lt (mul_le_mul_of_nonneg_right close (by positivity)) inRange
    rw [same]
    exact exists_scale_of_nonneg 4 near.positive (near.short.trans_lt (by decide))
      (Int.ofNat_le.mp few) product

end shortest

end DatasetService.Json
