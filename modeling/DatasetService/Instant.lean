import DatasetService.Number.Literal
import DatasetService.Text.Blank
import DatasetService.Text.Split

set_option autoImplicit false

/- Points in time in UTC, on the proleptic Gregorian calendar, and their text as in
RFC 3339. A leap second is the second before it with a thousand million nanoseconds more. -/
namespace DatasetService

/-- Seconds since the start of 1970, and nanoseconds since the start of that second. -/
structure Instant where
  seconds : Int
  nanos : Nat := 0
deriving DecidableEq, Repr

namespace Instant

def secondsPerDay : Int := 86400

def billion : Nat := 1000000000

/-- Order in time. -/
def before (left right : Instant) : Bool :=
  left.seconds < right.seconds || (left.seconds == right.seconds && left.nanos < right.nanos)

def addSeconds (instant : Instant) (seconds : Int) : Instant :=
  { instant with seconds := instant.seconds + seconds }

theorem before_iff (left right : Instant) :
    left.before right = true ↔
      left.seconds < right.seconds ∨ left.seconds = right.seconds ∧ left.nanos < right.nanos := by
  simp [before]

theorem before_trans {first second third : Instant} (left : first.before second = true)
    (right : second.before third = true) : first.before third = true := by
  rw [before_iff] at left right ⊢
  omega

/-- Both sides of a comparison may be moved by one time. -/
theorem before_addSeconds (left right : Instant) (first second : Int) :
    (left.addSeconds first).before (right.addSeconds second) =
      left.before (right.addSeconds (second - first)) := by
  rw [Bool.eq_iff_iff, before_iff, before_iff]
  simp only [addSeconds]
  omega

structure Date where
  year : Int
  month : Nat
  day : Nat
deriving DecidableEq, Repr

def isLeapYear (year : Int) : Bool :=
  year % 4 == 0 && (year % 100 != 0 || year % 400 == 0)

def daysInMonth (year : Int) (month : Nat) : Nat :=
  if month = 2 then (if isLeapYear year then 29 else 28)
  else if month = 4 || month = 6 || month = 9 || month = 11 then 30
  else 31

def Date.isValid (date : Date) : Bool :=
  1 ≤ date.month && date.month ≤ 12 && 1 ≤ date.day &&
    date.day ≤ daysInMonth date.year date.month

/-- Days since the start of 1970. Years are counted from March, so that a leap day comes
last, and in eras of 400 years, which have equal length. -/
def Date.toDays (date : Date) : Int :=
  let year := if date.month ≤ 2 then date.year - 1 else date.year
  let era := year / 400
  let yearOfEra := year % 400
  let monthFromMarch : Int := ((date.month : Int) + 9) % 12
  let dayOfYear := (153 * monthFromMarch + 2) / 5 + (date.day : Int) - 1
  let dayOfEra := yearOfEra * 365 + yearOfEra / 4 - yearOfEra / 100 + dayOfYear
  era * 146097 + dayOfEra - 719468

def Date.ofDays (days : Int) : Date :=
  let shifted := days + 719468
  let era := shifted / 146097
  let dayOfEra := shifted % 146097
  let yearOfEra := (dayOfEra - dayOfEra / 1460 + dayOfEra / 36524 - dayOfEra / 146096) / 365
  let dayOfYear := dayOfEra - (365 * yearOfEra + yearOfEra / 4 - yearOfEra / 100)
  let monthFromMarch := (5 * dayOfYear + 2) / 153
  let day := dayOfYear - (153 * monthFromMarch + 2) / 5 + 1
  let month := if monthFromMarch < 10 then monthFromMarch + 3 else monthFromMarch - 9
  let year := yearOfEra + era * 400
  { year := if month ≤ 2 then year + 1 else year, month := month.toNat, day := day.toNat }

/-- A number with zeros in front up to a width. -/
def padded (width value : Nat) : List Char :=
  let digits := Nat.toDigits 10 value
  List.replicate (width - digits.length) '0' ++ digits

def yearText (year : Int) : List Char :=
  if 0 ≤ year && year ≤ 9999 then padded 4 year.toNat
  else (if year < 0 then '-' else '+') :: padded 4 year.natAbs

/-- No fraction for whole seconds, else three, six or nine digits. -/
def fractionText (nanos : Nat) : List Char :=
  if nanos = 0 then []
  else if nanos % 1000000 = 0 then '.' :: padded 3 (nanos / 1000000)
  else if nanos % 1000 = 0 then '.' :: padded 6 (nanos / 1000)
  else '.' :: padded 9 nanos

/-- The text of an instant, followed by a mark for the time zone. -/
def textWith (zone : List Char) (instant : Instant) : String :=
  let date := Date.ofDays (instant.seconds / secondsPerDay)
  let time := (instant.seconds % secondsPerDay).toNat
  let leap := if billion ≤ instant.nanos then 1 else 0
  String.ofList <|
    yearText date.year ++ '-' :: padded 2 date.month ++ '-' :: padded 2 date.day ++
      'T' :: padded 2 (time / 3600) ++ ':' :: padded 2 (time / 60 % 60) ++
      ':' :: padded 2 (time % 60 + leap) ++ fractionText (instant.nanos % billion) ++ zone

/-- The text with `Z` for UTC. -/
def text (instant : Instant) : String := instant.textWith ['Z']

/-- The text with the offset of UTC in digits. -/
def offsetText (instant : Instant) : String := instant.textWith "+00:00".toList

/-- Between one digit and `width` digits. -/
def scanNumber (width : Nat) (text : List Char) : Option (Nat × List Char) :=
  let digits := (text.take width).takeWhile Char.isDigit
  if digits.isEmpty then none
  else some (Literal.natOfDigits digits, text.drop digits.length)

/-- A number of at most two digits, with blanks before it. -/
def scanPair (text : List Char) : Option (Nat × List Char) := scanNumber 2 (Text.trimStart text)

/-- A year has four digits, or any number of them after a sign. -/
def scanYear (text : List Char) : Option (Int × List Char) :=
  match Text.trimStart text with
  | '-' :: rest => (scanNumber rest.length rest).map fun (year, rest) => (-(year : Int), rest)
  | '+' :: rest => (scanNumber rest.length rest).map fun (year, rest) => ((year : Int), rest)
  | rest => (scanNumber 4 rest).map fun (year, rest) => ((year : Int), rest)

/-- A separator with blanks before it. -/
def scanMark (mark : Char) (text : List Char) : Option (List Char) :=
  match Text.trimStart text with
  | c :: rest => if c = mark then some rest else none
  | [] => none

/-- A fraction of a second: nine digits count, and more are passed over. -/
def scanFraction (text : List Char) : Option (Nat × List Char) :=
  match text with
  | '.' :: rest => do
      let (value, after) ← scanNumber 9 rest
      let width := rest.length - after.length
      return (value * Nat.pow 10 (9 - width), after.dropWhile Char.isDigit)
  | _ => some (0, text)

/-- An offset from UTC in seconds: `Z`, `UTC`, or a sign, two digits of hours and two of
minutes, with colons or blanks between them. -/
def scanOffset (text : List Char) : Option (Int × List Char) :=
  if (text.take 3).map Char.toUpper = ['U', 'T', 'C'] then some (0, text.drop 3)
  else
    match text with
    | 'Z' :: rest => some (0, rest)
    | 'z' :: rest => some (0, rest)
    | sign :: h1 :: h2 :: rest =>
        match rest.dropWhile fun c => c == ':' || Text.isBlank c with
        | m1 :: m2 :: rest =>
            if (sign == '+' || sign == '-' || sign == '−') && h1.isDigit && h2.isDigit &&
                '0' ≤ m1 && m1 ≤ '5' && m2.isDigit then
              let hours := Literal.natOfDigits [h1, h2]
              let minutes := Literal.natOfDigits [m1, m2]
              let seconds : Int := hours * 3600 + minutes * 60
              if hours < 24 then some (if sign == '+' then seconds else -seconds, rest)
              else none
            else none
        | _ => none
    | _ => none

/-- The years that dates are kept for, by the calendar and in UTC. -/
def yearInRange (year : Int) : Bool := -262143 ≤ year && year ≤ 262142

/-- Whether an instant has a date that is kept for. -/
def inRange (instant : Instant) : Bool :=
  yearInRange (Date.ofDays (instant.seconds / secondsPerDay)).year

/-- Read an instant. Blanks may stand between its parts, `T` or one blank separates date
and time, and second 60 is a leap second. -/
def ofText? (text : String) : Option Instant := do
  let (year, rest) ← scanYear text.toList
  let rest ← scanMark '-' rest
  let (month, rest) ← scanPair rest
  let rest ← scanMark '-' rest
  let (day, rest) ← scanPair rest
  let rest ← match rest with
    | 'T' :: rest => some rest
    | 't' :: rest => some rest
    | ' ' :: rest => some rest
    | _ => none
  let (hour, rest) ← scanPair rest
  let rest ← scanMark ':' rest
  let (minute, rest) ← scanPair rest
  let rest ← scanMark ':' rest
  let (second, rest) ← scanPair rest
  let (fraction, rest) ← scanFraction rest
  let (offset, rest) ← scanOffset (Text.trimStart rest)
  let date : Date := { year, month, day }
  if Text.isBlankText rest && yearInRange year && date.isValid &&
      hour < 24 && minute < 60 && second ≤ 60 then
    let leap : Nat := if second = 60 then 1 else 0
    let time : Int := hour * 3600 + minute * 60 + second - (leap : Int)
    some { seconds := date.toDays * secondsPerDay + time - offset
           nanos := fraction + leap * billion : Instant } |>.filter inRange
  else none

end Instant
end DatasetService
