import DatasetService.Number.Binary
import DatasetService.Text.Ascii

set_option autoImplicit false

/- Numbers written in decimal: counts, signed integers, and reals with an optional
fraction and exponent. Nothing may stand before or after the number. -/
namespace DatasetService.Literal

def digitValue (c : Char) : Nat := c.toNat - 48

def natOfDigits (digits : List Char) : Nat :=
  digits.foldl (fun value digit => value * 10 + digitValue digit) 0

/-- A non-empty run of ASCII digits. -/
def digits? (text : List Char) : Option Nat :=
  if text.isEmpty then none
  else if text.all Char.isDigit then some (natOfDigits text)
  else none

def maxCount : Nat := 18446744073709551615

def minSigned : Int := -9223372036854775808

def maxSigned : Int := 9223372036854775807

/-- A count of 64 bits, with an optional plus sign. -/
def count? (text : List Char) : Option Nat :=
  let magnitude := match text with
    | '+' :: rest => digits? rest
    | _ => digits? text
  magnitude.filter (· ≤ maxCount)

theorem natOfDigits_eq (digits : List Char) :
    natOfDigits digits = Nat.ofDigitChars 10 digits 0 := by
  simp only [natOfDigits, digitValue, Nat.ofDigitChars_eq_foldl, Nat.mul_comm]
  rfl

theorem natOfDigits_toDigits (value : Nat) : natOfDigits (Nat.toDigits 10 value) = value := by
  rw [natOfDigits_eq, Nat.ofDigitChars_ten_toDigits]

theorem isDigit_of_mem_toDigits {value : Nat} {c : Char} (member : c ∈ Nat.toDigits 10 value) :
    c.isDigit = true :=
  Nat.isDigit_of_mem_toDigits (by decide) (by decide) member

theorem digits?_toDigits (value : Nat) : digits? (Nat.toDigits 10 value) = some value := by
  have nonempty : (Nat.toDigits 10 value).isEmpty = false := by simp [Nat.toDigits_ne_nil]
  have all : (Nat.toDigits 10 value).all Char.isDigit = true :=
    List.all_eq_true.mpr fun c member => isDigit_of_mem_toDigits member
  simp only [digits?, nonempty, all, natOfDigits_toDigits, if_true, Bool.false_eq_true, if_false]

/-- A number in decimal is read as a count if it has no more than 64 bits. -/
theorem count?_toDigits (value : Nat) :
    count? (Nat.toDigits 10 value) = if value ≤ maxCount then some value else none := by
  have read := digits?_toDigits value
  have unsigned : ∀ rest, Nat.toDigits 10 value ≠ '+' :: rest := by
    intro rest equal
    have member : '+' ∈ Nat.toDigits 10 value := by simp [equal]
    exact absurd (isDigit_of_mem_toDigits member) (by decide)
  unfold count?
  split
  · rename_i rest signed
    exact absurd signed (unsigned rest)
  · rw [read, Option.filter_some]
    simp only [decide_eq_true_eq]

/-- A signed integer of 64 bits, with an optional sign. -/
def signed? (text : List Char) : Option Int :=
  let value := match text with
    | '+' :: rest => (digits? rest).map Int.ofNat
    | '-' :: rest => (digits? rest).map fun magnitude => -Int.ofNat magnitude
    | _ => (digits? text).map Int.ofNat
  value.filter fun value => minSigned ≤ value && value ≤ maxSigned

/-- What a real number's text denotes before rounding. -/
inductive Real
  | notANumber
  | infinite (negative : Bool)
  | decimal (negative : Bool) (digits : Nat) (exponent : Int)
deriving DecidableEq, Repr

/-- The exponent part: empty, or `e` with an optional sign and digits. -/
def exponent? : List Char → Option Int
  | [] => some 0
  | mark :: rest =>
      if mark == 'e' || mark == 'E' then
        match rest with
        | '+' :: digits => (digits? digits).map Int.ofNat
        | '-' :: digits => (digits? digits).map fun magnitude => -Int.ofNat magnitude
        | digits => (digits? digits).map Int.ofNat
      else none

def unsignedReal? (negative : Bool) (text : List Char) : Option Real :=
  let word := Text.lower text
  if word = "nan".toList then some .notANumber
  else if word = "inf".toList || word = "infinity".toList then some (.infinite negative)
  else
    let whole := text.takeWhile Char.isDigit
    let afterWhole := text.dropWhile Char.isDigit
    let (fraction, tail) := match afterWhole with
      | '.' :: rest => (rest.takeWhile Char.isDigit, rest.dropWhile Char.isDigit)
      | rest => ([], rest)
    if whole.isEmpty && fraction.isEmpty then none
    else (exponent? tail).map fun exponent =>
      .decimal negative (natOfDigits (whole ++ fraction)) (exponent - (fraction.length : Int))

/-- A real number: `nan`, `inf` and `infinity` in any letter case, or digits with an
optional point and exponent, and an optional sign before each. -/
def real? (text : List Char) : Option Real :=
  match text with
  | '+' :: rest => unsignedReal? false rest
  | '-' :: rest => unsignedReal? true rest
  | _ => unsignedReal? false text

/-- The finite number of a format that a text denotes, if it denotes one. -/
def finite? (format : BinaryFormat) (text : List Char) : Option Binary :=
  match real? text with
  | some (.decimal negative digits exponent) => Binary.ofDecimal format negative digits exponent
  | _ => none

end DatasetService.Literal
