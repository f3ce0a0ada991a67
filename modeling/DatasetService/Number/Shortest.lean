import DatasetService.Number.Binary

set_option autoImplicit false

/- The shortest decimal that reads back as a given binary number: of all decimals in the
interval that rounds to the number, one with the fewest digits, and of those the nearest. -/
namespace DatasetService

/-- The decimal `digits * 10 ^ exponent`. -/
structure Decimal where
  digits : Nat
  exponent : Int
deriving DecidableEq, Repr

namespace Decimal

/-- A positive number and the ends of its rounding interval, as multiples of `num / den`. -/
structure Interval where
  low : Nat
  value : Nat
  high : Nat
  closed : Bool
  num : Nat
  den : Nat

/-- Halfway to the neighbours on both sides; below a power of two the lower neighbour is
half as far away. The ends round to the number when its significand is even. -/
def Interval.around (format : BinaryFormat) (number : Binary) : Interval :=
  let significand := number.significand
  let narrow :=
    significand == Nat.pow 2 (format.precision - 1) && format.minExponent < number.exponent
  let unit := Binary.scaleDown 1 1 (2 - number.exponent)
  { low := if narrow then 4 * significand - 1 else 4 * significand - 2
    value := 4 * significand
    high := 4 * significand + 2
    closed := significand % 2 == 0
    num := unit.1
    den := unit.2 }

/-- The power of ten as a ratio. -/
def powerOfTen (exponent : Int) : Nat × Nat :=
  if 0 ≤ exponent then (Nat.pow 10 exponent.toNat, 1) else (1, Nat.pow 10 (-exponent).toNat)

def Interval.contains (interval : Interval) (digits : Nat) (exponent : Int) : Bool :=
  let power := powerOfTen exponent
  let point := digits * power.1 * interval.den
  let low := interval.low * interval.num * power.2
  let high := interval.high * interval.num * power.2
  if interval.closed then low ≤ point && point ≤ high else low < point && point < high

/-- The exponent of the first decimal digit of the positive ratio `num / den`. -/
def leadingExponent (num den : Nat) : Int :=
  if den ≤ num then (Binary.digitCount (num / den) : Int) - 1
  else -(Binary.digitCount ((den + num - 1) / num - 1) : Int)

/-- The neighbours of the value on the grid of multiples of `10 ^ exponent`, if one of them
lies in the interval: the nearer one, and at equal distance the even one. -/
def Interval.onGrid (interval : Interval) (exponent : Int) : Option Nat :=
  let power := powerOfTen exponent
  let num := interval.value * interval.num * power.2
  let den := interval.den * power.1
  let below := num / den
  let above := below + 1
  match interval.contains below exponent, interval.contains above exponent with
  | true, true => some (Binary.roundHalfEven num den)
  | true, false => some below
  | false, true => some above
  | false, false => none

/-- Try grids with one more digit each until one has a point in the interval. -/
def search (interval : Interval) : Nat → Int → Decimal
  | 0, exponent =>
      { digits := (interval.onGrid exponent).getD 0, exponent }
  | fuel + 1, exponent =>
      match interval.onGrid exponent with
      | some digits => { digits, exponent }
      | none => search interval fuel (exponent - 1)

/-- Move trailing zeros of the digits into the exponent. -/
def stripZeros : Nat → Decimal → Decimal
  | 0, decimal => decimal
  | fuel + 1, decimal =>
      if decimal.digits % 10 = 0 && decimal.digits != 0 then
        stripZeros fuel { digits := decimal.digits / 10, exponent := decimal.exponent + 1 }
      else decimal

/-- The shortest decimal of a number other than zero. Seventeen digits always suffice for
a significand of 53 bits. -/
def shortest (format : BinaryFormat) (number : Binary) : Decimal :=
  let interval := Interval.around format number
  let leading := leadingExponent (interval.value * interval.num) interval.den
  let found := search interval 17 leading
  stripZeros (Binary.digitCount found.digits) found

/-- The decimal exponents of the first digit that are written without an exponent. -/
structure Style where
  leastPositional : Int
  greatestPositional : Int

def zeros (count : Nat) : List Char := List.replicate count '0'

def positional (digits : List Char) (leading : Int) : List Char :=
  if leading < 0 then
    ['0', '.'] ++ zeros ((-leading).toNat - 1) ++ digits
  else
    let whole := leading.toNat + 1
    if digits.length ≤ whole then
      digits ++ zeros (whole - digits.length) ++ ['.', '0']
    else digits.take whole ++ '.' :: digits.drop whole

def scientific (digits : List Char) (leading : Int) : List Char :=
  let fraction := match digits.drop 1 with
    | [] => []
    | rest => '.' :: rest
  let sign := if leading < 0 then '-' else '+'
  digits.take 1 ++ fraction ++ 'e' :: sign :: (Nat.toDigits 10 leading.natAbs)

/-- The text of a positive decimal. -/
def text (style : Style) (decimal : Decimal) : List Char :=
  let digits := Nat.toDigits 10 decimal.digits
  let leading := decimal.exponent + (digits.length : Int) - 1
  if style.leastPositional ≤ leading && leading ≤ style.greatestPositional then
    positional digits leading
  else scientific digits leading

end Decimal

/-- Numbers from `10 ^ -5` to below `10 ^ 16` are written without an exponent. -/
def Binary.style : Decimal.Style := { leastPositional := -5, greatestPositional := 15 }

def Binary.text (format : BinaryFormat) (number : Binary) : List Char :=
  let magnitude :=
    if number.isZero then ['0', '.', '0']
    else (Decimal.shortest format number).text Binary.style
  if number.negative then '-' :: magnitude else magnitude

end DatasetService
