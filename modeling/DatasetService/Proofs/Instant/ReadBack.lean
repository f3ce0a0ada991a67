import DatasetService.Proofs.Except
import DatasetService.Proofs.Instant.Calendar
import DatasetService.Proofs.Text.Runs
import Mathlib

set_option autoImplicit false

/- Reading the text of an instant. Each part is written with a fixed number of digits, and is
scanned up to that number, so that the parts are read one after the other. A year with a sign is
scanned up to the dash behind it. -/
namespace DatasetService.Instant

/-- Digits are scanned as a whole, if no digit follows them as far as the scan goes. -/
theorem scanNumber_digits {digits rest : List Char} {most : Nat} (nonempty : digits ≠ [])
    (all : ∀ c ∈ digits, c.isDigit = true) (fits : digits.length ≤ most)
    (halts : Text.Halts Char.isDigit (rest.take (most - digits.length))) :
    scanNumber most (digits ++ rest) = some (Literal.natOfDigits digits, rest) := by
  have taken : (digits ++ rest).take most = digits ++ rest.take (most - digits.length) := by
    rw [List.take_append, List.take_of_length_le fits]
  have run := ((Text.run_eq_iff Char.isDigit _ digits _).mpr ⟨rfl, all, halts⟩).1
  have some_ : digits.isEmpty = false := List.isEmpty_eq_false_iff.mpr nonempty
  rw [scanNumber, taken, run]
  simp only [some_, Bool.false_eq_true, if_false]
  rw [List.drop_left]

section digits

variable {width value : Nat} (wide : 0 < width) (small : value < 10 ^ width)

include wide small in
theorem length_padded : (padded width value).length = width := by
  have short : (Nat.toDigits 10 value).length ≤ width :=
    Nat.toDigits_length 10 value width wide small
  rw [padded, List.length_append, List.length_replicate]
  omega

theorem isDigit_of_mem_padded {c : Char} (member : c ∈ padded width value) :
    c.isDigit = true := by
  rcases List.mem_append.mp member with zero | digit
  · rw [List.eq_of_mem_replicate zero]
    rfl
  · exact Literal.isDigit_of_mem_toDigits digit

theorem padded_ne_nil : padded width value ≠ [] :=
  List.append_ne_nil_of_right_ne_nil _ Nat.toDigits_ne_nil

theorem natOfDigits_padded : Literal.natOfDigits (padded width value) = value := by
  have zeros (count : Nat) : Nat.ofDigitChars 10 (List.replicate count '0') 0 = 0 := by
    induction count with
    | zero => rfl
    | succ count ih => simp [List.replicate_succ, Nat.ofDigitChars_cons, ih]
  rw [Literal.natOfDigits_eq, padded, Nat.ofDigitChars_append, zeros,
    Nat.ofDigitChars_ten_toDigits]

/-- No blanks are skipped before a number. -/
theorem trimStart_padded (rest : List Char) :
    Text.trimStart (padded width value ++ rest) = padded width value ++ rest := by
  obtain ⟨c, more, same⟩ :=
    List.exists_cons_of_ne_nil (padded_ne_nil : padded width value ≠ [])
  have digit : c.isDigit = true := isDigit_of_mem_padded (same ▸ List.mem_cons_self)
  refine Text.dropWhile_of_halts _ _ ?_
  rw [same, List.cons_append, Text.halts_cons]
  exact Text.isBlank_of_isDigit digit

include wide small

/-- A padded number is scanned as a whole, if no digit follows it as far as the scan goes. -/
theorem scanNumber_padded {most : Nat} (fits : width ≤ most) (rest : List Char)
    (halts : Text.Halts Char.isDigit (rest.take (most - width))) :
    scanNumber most (padded width value ++ rest) = some (value, rest) := by
  have length := length_padded wide small
  rw [← length] at fits halts
  rw [scanNumber_digits padded_ne_nil (fun _ => isDigit_of_mem_padded) fits halts,
    natOfDigits_padded]

end digits

section scans

theorem scanPair_padded {value : Nat} (small : value < 100) (rest : List Char) :
    scanPair (padded 2 value ++ rest) = some (value, rest) := by
  rw [scanPair, trimStart_padded]
  exact scanNumber_padded Nat.two_pos small (le_refl _) rest (by simp)

theorem scanYear_padded {year : Nat} (small : year < 10000) (rest : List Char) :
    scanYear (padded 4 year ++ rest) = some ((year : Int), rest) := by
  have wide : 0 < 4 := by decide
  have read := scanNumber_padded wide small (le_refl 4) rest (by simp)
  have unsigned {sign : Char} (other : sign.isDigit = false) (more : List Char) :
      padded 4 year ++ rest ≠ sign :: more := by
    intro same
    have length := length_padded wide small
    cases digits : padded 4 year with
    | nil => simp [digits] at length
    | cons c _ =>
        rw [digits] at same
        obtain ⟨rfl, -⟩ := List.cons.inj same
        have digit : c.isDigit = true := isDigit_of_mem_padded (digits ▸ List.mem_cons_self)
        rw [other] at digit
        cases digit
  rw [scanYear, trimStart_padded]
  split
  · rename_i signed
    exact absurd signed (unsigned rfl _)
  · rename_i signed
    exact absurd signed (unsigned rfl _)
  · rw [read]
    rfl

/-- A sign is no blank, and every digit behind it counts. -/
theorem scanYear_signed {sign : Char} (isSign : sign = '-' ∨ sign = '+') (value : Nat)
    (rest : List Char) :
    scanYear (sign :: (padded 4 value ++ '-' :: rest)) =
      some (if sign = '-' then -(value : Int) else value, '-' :: rest) := by
  have start : Text.trimStart (sign :: (padded 4 value ++ '-' :: rest)) =
      sign :: (padded 4 value ++ '-' :: rest) := by
    refine Text.dropWhile_of_halts _ _ ((Text.halts_cons _ _ _).mpr ?_)
    rcases isSign with rfl | rfl <;> decide
  have read : scanNumber (padded 4 value ++ '-' :: rest).length (padded 4 value ++ '-' :: rest) =
      some (value, '-' :: rest) := by
    rw [scanNumber_digits padded_ne_nil (fun _ => isDigit_of_mem_padded) (by simp) (by simp),
      natOfDigits_padded]
  rw [scanYear, start]
  rcases isSign with rfl | rfl
  · exact congrArg (Option.map fun found => (-(found.1 : Int), found.2)) read
  · exact congrArg (Option.map fun found => ((found.1 : Int), found.2)) read

theorem scanYear_text (year : Int) (rest : List Char) :
    scanYear (yearText year ++ '-' :: rest) = some (year, '-' :: rest) := by
  unfold yearText
  split
  · rename_i inside
    simp only [Bool.and_eq_true, decide_eq_true_eq] at inside
    rw [scanYear_padded (by omega), Int.toNat_of_nonneg inside.1]
  · rw [List.cons_append]
    by_cases negative : year < 0
    · rw [if_pos negative, scanYear_signed (.inl rfl), if_pos rfl]
      have magnitude : -(year.natAbs : Int) = year := by omega
      rw [magnitude]
    · rw [if_neg negative, scanYear_signed (.inr rfl), if_neg (by decide)]
      have magnitude : (year.natAbs : Int) = year := by omega
      rw [magnitude]

theorem scanMark_self {mark : Char} (graphic : Text.isBlank mark = false) (rest : List Char) :
    scanMark mark (mark :: rest) = some rest := by
  have start : Text.trimStart (mark :: rest) = mark :: rest :=
    Text.dropWhile_of_halts _ _ ((Text.halts_cons _ _ _).mpr graphic)
  rw [scanMark, start]
  exact if_pos rfl

/-- Three, six or nine digits are enough for the nanoseconds that they are written for. -/
theorem scanFraction_text {nanos : Nat} (small : nanos < billion) :
    scanFraction (fractionText nanos ++ ['Z']) = some (nanos, ['Z']) := by
  have digits {width value : Nat} (wide : 0 < width) (fits : width ≤ 9)
      (short : value < 10 ^ width) (same : value * 10 ^ (9 - width) = nanos) :
      scanFraction ('.' :: padded width value ++ ['Z']) = some (nanos, ['Z']) := by
    have read := scanNumber_padded wide short fits ['Z']
      (by cases 9 - width <;> simp)
    have length := length_padded wide short
    simp only [scanFraction, List.cons_append, read, Option.bind_eq_bind, Option.bind_some,
      List.length_append, length]
    simp [same]
  unfold billion at small
  unfold fractionText
  split
  · rename_i none
    rw [none]
    rfl
  · split
    · exact digits (by decide) (by decide) (by omega) (by omega)
    · split
      · exact digits (by decide) (by decide) (by omega) (by omega)
      · exact digits (by decide) (by decide) (by omega) (by omega)

end scans

/-- The month and the day of a date that exists are written with two digits. -/
theorem two_digits_of_isValid {date : Date} (valid : date.isValid = true) :
    date.month < 100 ∧ date.day < 100 := by
  have longest : daysInMonth date.year date.month ≤ 31 := by
    unfold daysInMonth
    split <;> split <;> omega
  simp only [Date.isValid, Bool.and_eq_true, decide_eq_true_eq] at valid
  omega

/-- The parts of a text are read in turn. They are an instant if they are a date and a time of day
without a leap second. -/
theorem ofText?_parts {text : String} {year : Int} {month day hour minute second nanos : Nat}
    (years : yearInRange year = true) (seconds : second < 60) (minutes : minute < 60)
    (hours : hour < 24) (whole : nanos < billion)
    (valid : ({ year, month, day } : Date).isValid = true)
    (written : text.toList =
      yearText year ++ '-' :: (padded 2 month ++ '-' :: (padded 2 day ++
        'T' :: (padded 2 hour ++ ':' :: (padded 2 minute ++
          ':' :: (padded 2 second ++ (fractionText nanos ++ ['Z']))))))) :
    ofText? text =
      (some { seconds := ({ year, month, day } : Date).toDays * secondsPerDay +
                (hour * 3600 + minute * 60 + second)
              nanos : Instant }).filter inRange := by
  obtain ⟨shortMonth, shortDay⟩ := two_digits_of_isValid valid
  have dash : Text.isBlank '-' = false := by decide
  have colon : Text.isBlank ':' = false := by decide
  have offset : scanOffset (Text.trimStart ['Z']) = some (0, []) := by decide
  have blank : Text.isBlankText [] = true := rfl
  unfold ofText?
  rw [written]
  rw [bind_of_eq_some (scanYear_text year _)]
  dsimp only
  rw [bind_of_eq_some (scanMark_self dash _), bind_of_eq_some (scanPair_padded shortMonth _)]
  dsimp only
  rw [bind_of_eq_some (scanMark_self dash _), bind_of_eq_some (scanPair_padded shortDay _)]
  -- `T` goes on to the time of day.
  change (scanPair (padded 2 hour ++ _) >>= _) = _
  rw [bind_of_eq_some (scanPair_padded (by omega) _)]
  dsimp only
  rw [bind_of_eq_some (scanMark_self colon _), bind_of_eq_some (scanPair_padded (by omega) _)]
  dsimp only
  rw [bind_of_eq_some (scanMark_self colon _), bind_of_eq_some (scanPair_padded (by omega) _)]
  dsimp only
  rw [bind_of_eq_some (scanFraction_text whole)]
  dsimp only
  rw [bind_of_eq_some offset]
  dsimp only
  have ordinary : second ≠ 60 := by omega
  have accepted : (Text.isBlankText [] && yearInRange year &&
      ({ year, month, day } : Date).isValid && decide (hour < 24) && decide (minute < 60) &&
      decide (second ≤ 60)) = true := by
    rw [blank, years, valid, decide_eq_true hours, decide_eq_true minutes,
      decide_eq_true (by omega : second ≤ 60)]
    rfl
  rw [if_pos accepted, if_neg ordinary]
  simp only [Nat.zero_mul, Nat.add_zero, Int.sub_zero, Nat.cast_zero]

/-- An instant in the years that dates are kept for, and in no leap second. -/
structure Dated (instant : Instant) : Prop where
  inRange : instant.inRange = true
  whole : instant.nanos < billion

instance (instant : Instant) : Decidable instant.Dated :=
  decidable_of_iff (instant.inRange = true ∧ instant.nanos < billion)
    ⟨fun ⟨inRange, whole⟩ => ⟨inRange, whole⟩, fun dated => ⟨dated.inRange, dated.whole⟩⟩

section text

variable {instant : Instant} (dated : instant.Dated)
include dated

/-- The parts of the text, each with what follows it. -/
theorem text_toList :
    let date := Date.ofDays (instant.seconds / secondsPerDay)
    let time := (instant.seconds % secondsPerDay).toNat
    instant.text.toList =
      yearText date.year ++ '-' :: (padded 2 date.month ++ '-' :: (padded 2 date.day ++
        'T' :: (padded 2 (time / 3600) ++ ':' :: (padded 2 (time / 60 % 60) ++
          ':' :: (padded 2 (time % 60) ++ (fractionText instant.nanos ++ ['Z'])))))) := by
  intro date time
  have whole : ¬ billion ≤ instant.nanos := Nat.not_le.mpr dated.whole
  have nanos : instant.nanos % billion = instant.nanos := Nat.mod_eq_of_lt dated.whole
  rw [text, textWith, String.toList_ofList]
  change yearText date.year ++ '-' :: padded 2 date.month ++ '-' :: padded 2 date.day ++
    'T' :: padded 2 (time / 3600) ++ ':' :: padded 2 (time / 60 % 60) ++
      ':' :: padded 2 (time % 60 + if billion ≤ instant.nanos then 1 else 0) ++
        fractionText (instant.nanos % billion) ++ ['Z'] = _
  rw [if_neg whole, nanos]
  simp only [List.append_assoc, List.cons_append, Nat.add_zero]

/-- The text of a dated instant is read as the instant, to the nanosecond. -/
theorem ofText?_text : ofText? instant.text = some instant := by
  have written := text_toList dated
  have days := toDays_ofDays (instant.seconds / secondsPerDay)
  have valid := isValid_ofDays (instant.seconds / secondsPerDay)
  obtain ⟨ranged, whole⟩ := dated
  have years : yearInRange (Date.ofDays (instant.seconds / secondsPerDay)).year = true := ranged
  generalize Date.ofDays (instant.seconds / secondsPerDay) = date at written days valid years
  obtain ⟨year, month, day⟩ := date
  have split := Int.mul_ediv_add_emod instant.seconds secondsPerDay
  have early : instant.seconds % secondsPerDay < 86400 := Int.emod_lt_of_pos _ (by decide)
  have late : 0 ≤ instant.seconds % secondsPerDay := Int.emod_nonneg _ (by decide)
  generalize instant.seconds % secondsPerDay = time at written split early late
  obtain ⟨time, rfl⟩ := Int.eq_ofNat_of_zero_le late
  rw [ofText?_parts years (by omega) (by omega) (by omega) whole valid written, days,
    Int.toNat_natCast]
  have seconds : instant.seconds / secondsPerDay * secondsPerDay +
      (((time / 3600 : Nat) : Int) * 3600 + ((time / 60 % 60 : Nat) : Int) * 60 +
        ((time % 60 : Nat) : Int)) = instant.seconds := by
    rw [Int.mul_comm] at split
    omega
  rw [seconds, Option.filter_some, if_pos ranged]

end text

end DatasetService.Instant
