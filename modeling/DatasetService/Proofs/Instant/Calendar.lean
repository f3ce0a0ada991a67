import DatasetService.Instant

set_option autoImplicit false

/- Days and dates. A day has its place in an era of 400 years, in a year of the era and in a month
of the year. Every day has a date that is one, and the date has the day. -/
namespace DatasetService.Instant

/-- The days of an era before a year of it, without the leap day with which the era ends. -/
def daysBeforeYear (year : Int) : Int := 365 * year + year / 4 - year / 100

/-- The days of a year before a month of it, counted from March. -/
def daysBeforeMonth (month : Int) : Int := (153 * month + 2) / 5

def yearOfEra (day : Int) : Int := (day - day / 1460 + day / 36524 - day / 146096) / 365

/-- A year of an era that a day of the era lies in. -/
structure InYear (day year : Int) : Prop where
  low : 0 ≤ year
  high : year < 400
  starts : daysBeforeYear year ≤ day
  ends : day < daysBeforeYear (year + 1) + (year + 1) / 400

section years

/-- Years are found within centuries and blocks of four years. In each of them the last year takes
what is left, up to a day more than the others have. -/
theorem inYear_of_blocks {day century block rest year : Int}
    (placed : day = 36524 * century + 1461 * block + rest)
    (centuries : 0 ≤ century ∧ century ≤ 3) (blocks : 0 ≤ block ∧ block ≤ 24)
    (years : 0 ≤ year ∧ year ≤ 3) (starts : 365 * year ≤ rest)
    (ends : rest < 365 * (year + 1) ∨ year = 3 ∧ rest ≤ 1460)
    (short : day < 36524 * (century + 1)) :
    InYear day (100 * century + 4 * block + year) := by
  have fours : (100 * century + 4 * block + year) / 4 = 25 * century + block := by omega
  have hundreds : (100 * century + 4 * block + year) / 100 = century := by omega
  refine ⟨by omega, by omega, ?_, ?_⟩
  · rw [daysBeforeYear, fours, hundreds]
    omega
  · have positive : 0 ≤ (100 * century + 4 * block + year + 1) / 400 := by omega
    unfold daysBeforeYear
    by_cases within : year < 3
    · have sameFours : (100 * century + 4 * block + year + 1) / 4 = 25 * century + block := by omega
      have sameHundreds : (100 * century + 4 * block + year + 1) / 100 = century := by omega
      rw [sameFours, sameHundreds]
      omega
    · obtain rfl : year = 3 := by omega
      have nextFours : (100 * century + 4 * block + 3 + 1) / 4 = 25 * century + block + 1 := by
        omega
      rw [nextFours]
      by_cases last : block = 24
      · have nextHundreds : (100 * century + 4 * block + 3 + 1) / 100 = century + 1 := by omega
        rw [nextHundreds]
        omega
      · have sameHundreds : (100 * century + 4 * block + 3 + 1) / 100 = century := by omega
        rw [sameHundreds]
        omega

theorem inYear_yearOfEra {day : Int} (low : 0 ≤ day) (high : day < 146097) :
    InYear day (yearOfEra day) := by
  by_cases last : day = 146096
  · subst last
    exact ⟨by decide, by decide, by decide, by decide⟩
  · obtain ⟨century, centuryEq⟩ : ∃ century, century = day / 36524 := ⟨_, rfl⟩
    obtain ⟨block, blockEq⟩ : ∃ block, block = (day - 36524 * century) / 1461 := ⟨_, rfl⟩
    obtain ⟨rest, restEq⟩ : ∃ rest, rest = day - 36524 * century - 1461 * block := ⟨_, rfl⟩
    -- What the days of a block count too much for, which shows at the end of its last year alone.
    obtain ⟨late, lateEq⟩ : ∃ late, late = (24 * century + block + rest) / 1460 := ⟨_, rfl⟩
    have centuries : 0 ≤ century ∧ century ≤ 3 := by omega
    have blocks : 0 ≤ block ∧ block ≤ 24 ∧ 0 ≤ rest ∧ rest ≤ 1460 := by omega
    have lateCases : late = 0 ∨ late = 1 ∧ 1364 ≤ rest := by omega
    have days : day / 1460 = 25 * century + block + late := by omega
    have era : day / 146096 = 0 := by omega
    have year : yearOfEra day = 100 * century + 4 * block + (rest - late) / 365 := by
      rw [yearOfEra, days, ← centuryEq, era]
      omega
    rw [year]
    have placed : day = 36524 * century + 1461 * block + rest := by omega
    exact inYear_of_blocks placed centuries ⟨blocks.1, blocks.2.1⟩ (by omega) (by omega)
      (by omega) (by omega)

end years

theorem isLeapYear_iff (year : Int) :
    isLeapYear year = true ↔ year % 4 = 0 ∧ (year % 100 ≠ 0 ∨ year % 400 = 0) := by
  simp [isLeapYear]

/-- A year from March has a day more than 365 if the year by the calendar is a leap year that
begins in it. -/
theorem InYear.isLeapYear {day year : Int} (inYear : InYear day year) (era : Int)
    (last : 365 ≤ day - daysBeforeYear year) :
    day - daysBeforeYear year = 365 ∧ isLeapYear (year + era * 400 + 1) = true := by
  obtain ⟨low, high, -, ends⟩ := inYear
  unfold daysBeforeYear at last ends ⊢
  rw [isLeapYear_iff]
  omega

/-- The place of a day: its era, its year there, and its month and day from March on. -/
structure Place (days era year month day : Int) : Prop where
  years : 0 ≤ year ∧ year < 400
  months : 0 ≤ month ∧ month ≤ 11
  first : 1 ≤ day
  last : day ≤ daysBeforeMonth (month + 1) - daysBeforeMonth month
  whole : daysBeforeMonth month + day ≤ 365 ∨
    daysBeforeMonth month + day = 366 ∧ isLeapYear (year + era * 400 + 1) = true
  days : days + 719468 =
    era * 146097 + daysBeforeYear year + daysBeforeMonth month + day - 1

/-- The date of a place. A year begins two months before the next one from March. -/
def Date.ofPlace (era year month day : Int) : Date :=
  { year := if month < 10 then year + era * 400 else year + era * 400 + 1
    month := if month < 10 then month.toNat + 3 else month.toNat - 9
    day := day.toNat }

theorem exists_place (days : Int) : ∃ era year month day,
    Place days era year month day ∧ Date.ofDays days = Date.ofPlace era year month day := by
  let shifted := days + 719468
  let era := shifted / 146097
  let year := yearOfEra (shifted % 146097)
  let dayOfYear := shifted % 146097 - daysBeforeYear year
  let month := (5 * dayOfYear + 2) / 153
  have inYear : InYear (shifted % 146097) year := inYear_yearOfEra (by omega) (by omega)
  have low : 0 ≤ dayOfYear := Int.sub_nonneg_of_le inYear.starts
  have leap := inYear.isLeapYear era
  change 365 ≤ dayOfYear → dayOfYear = 365 ∧ _ at leap
  have high : dayOfYear ≤ 365 := by omega
  have months : 0 ≤ month ∧ month ≤ 11 ∧ daysBeforeMonth month ≤ dayOfYear ∧
      dayOfYear < daysBeforeMonth (month + 1) := by
    change 0 ≤ (5 * dayOfYear + 2) / 153 ∧ (5 * dayOfYear + 2) / 153 ≤ 11 ∧
      (153 * ((5 * dayOfYear + 2) / 153) + 2) / 5 ≤ dayOfYear ∧
      dayOfYear < (153 * ((5 * dayOfYear + 2) / 153 + 1) + 2) / 5
    omega
  refine ⟨era, year, month, dayOfYear - daysBeforeMonth month + 1,
    ⟨⟨inYear.low, inYear.high⟩, ⟨months.1, months.2.1⟩, by omega, by omega, ?_, ?_⟩, ?_⟩
  · by_cases last : 365 ≤ dayOfYear
    · exact Or.inr ⟨by omega, (leap last).2⟩
    · exact Or.inl (by omega)
  · have split : shifted = 146097 * era + shifted % 146097 := (Int.mul_ediv_add_emod _ _).symm
    change shifted = _
    omega
  · change Date.mk _ _ _ = Date.mk _ _ _
    congr 1
    · change (if (if month < 10 then month + 3 else month - 9) ≤ 2 then
        year + era * 400 + 1 else year + era * 400) = _
      omega
    · change (if month < 10 then month + 3 else month - 9).toNat =
        if month < 10 then month.toNat + 3 else month.toNat - 9
      split <;> omega

section place

variable {days era year month day : Int} (place : Place days era year month day)
include place

theorem Place.toDays : (Date.ofPlace era year month day).toDays = days := by
  obtain ⟨years, months, first, -, -, whole⟩ := place
  unfold daysBeforeYear daysBeforeMonth at whole
  unfold Date.toDays Date.ofPlace
  dsimp only
  by_cases early : month < 10
  · simp only [if_pos early]
    omega
  · simp only [if_neg early]
    omega

theorem Place.isValid : (Date.ofPlace era year month day).isValid = true := by
  obtain ⟨years, months, first, last, whole, -⟩ := place
  unfold daysBeforeMonth at last whole
  have known : 1 ≤ (Date.ofPlace era year month day).month ∧
      (Date.ofPlace era year month day).month ≤ 12 := by
    unfold Date.ofPlace
    dsimp only
    split <;> omega
  have short : (Date.ofPlace era year month day).day ≤
      daysInMonth (Date.ofPlace era year month day).year
        (Date.ofPlace era year month day).month := by
    unfold Date.ofPlace daysInMonth
    dsimp only
    by_cases early : month < 10
    · simp only [if_pos early, Bool.or_eq_true, decide_eq_true_eq]
      split
      · omega
      · split <;> omega
    · simp only [if_neg early, Bool.or_eq_true, decide_eq_true_eq]
      split
      · split
        · omega
        · rename_i common
          rcases whole with short | ⟨-, leap⟩
          · omega
          · exact absurd leap common
      · split <;> omega
  simp only [Date.isValid, Bool.and_eq_true, decide_eq_true_eq]
  exact ⟨⟨known, by change 1 ≤ day.toNat; omega⟩, short⟩

end place

/-- The date of a day is one of the calendar, and no other day has it. -/
theorem toDays_ofDays (days : Int) : (Date.ofDays days).toDays = days := by
  obtain ⟨era, year, month, day, place, date⟩ := exists_place days
  rw [date, place.toDays]

theorem isValid_ofDays (days : Int) : (Date.ofDays days).isValid = true := by
  obtain ⟨era, year, month, day, place, date⟩ := exists_place days
  rw [date, place.isValid]

end DatasetService.Instant
