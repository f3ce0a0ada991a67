set_option autoImplicit false

/- Binary floating point in exact arithmetic. A finite number is a signed significand
times a power of two; a ratio of naturals is rounded to the nearest such number, and a
ratio halfway between two of them to the one with the even significand. -/
namespace DatasetService

/-- The bits of a significand, and the least and greatest exponent of its last bit. -/
structure BinaryFormat where
  precision : Nat
  minExponent : Int
  maxExponent : Int

def BinaryFormat.double : BinaryFormat := ⟨53, -1074, 971⟩

def BinaryFormat.single : BinaryFormat := ⟨24, -149, 104⟩

/-- The finite number `± significand * 2 ^ exponent`. -/
structure Binary where
  negative : Bool
  significand : Nat
  exponent : Int
deriving DecidableEq, Repr

namespace Binary

/-- The ratio `num / den` divided by a power of two, again as a ratio. -/
def scaleDown (num den : Nat) (exponent : Int) : Nat × Nat :=
  if 0 ≤ exponent then (num, den * Nat.pow 2 exponent.toNat)
  else (num * Nat.pow 2 (-exponent).toNat, den)

def roundHalfEven (num den : Nat) : Nat :=
  let quotient := num / den
  let remainder := num % den
  if den < 2 * remainder || (2 * remainder == den && quotient % 2 == 1) then quotient + 1
  else quotient

/-- The exponent of the last place of the number nearest to a positive ratio. -/
def lastPlace (format : BinaryFormat) (num den : Nat) : Int :=
  let guess : Int := (num.log2 : Int) - (den.log2 : Int) - (format.precision : Int)
  let scaled := scaleDown num den guess
  let exponent := if scaled.1 / scaled.2 < Nat.pow 2 format.precision then guess else guess + 1
  max format.minExponent exponent

def zero (format : BinaryFormat) (negative : Bool) : Binary :=
  { negative, significand := 0, exponent := format.minExponent }

/-- The number nearest to `num / den`, or nothing where that is beyond the greatest one. -/
def ofRatio (format : BinaryFormat) (negative : Bool) (num den : Nat) : Option Binary :=
  if num = 0 then some (zero format negative)
  else
    let place := lastPlace format num den
    let scaled := scaleDown num den place
    let rounded := roundHalfEven scaled.1 scaled.2
    let result : Binary :=
      if rounded = Nat.pow 2 format.precision then
        { negative, significand := Nat.pow 2 (format.precision - 1), exponent := place + 1 }
      else { negative, significand := rounded, exponent := place }
    if format.maxExponent < result.exponent then none else some result

/-- The magnitude of a number as a ratio. -/
def ratio (number : Binary) : Nat × Nat :=
  scaleDown number.significand 1 (-number.exponent)

def isZero (number : Binary) : Bool := number.significand == 0

def multiply (format : BinaryFormat) (left right : Binary) : Option Binary :=
  ofRatio format (left.negative != right.negative)
    (left.ratio.1 * right.ratio.1) (left.ratio.2 * right.ratio.2)

/-- The quotient by a number other than zero. -/
def divide (format : BinaryFormat) (left right : Binary) : Option Binary :=
  ofRatio format (left.negative != right.negative)
    (left.ratio.1 * right.ratio.2) (left.ratio.2 * right.ratio.1)

/-- The number of decimal digits of a natural number; zero has one. -/
def digitCount (value : Nat) : Nat := (Nat.toDigits 10 value).length

/-- The number nearest to `digits * 10 ^ exponent`. Magnitudes beyond `10 ^ 400` or below
`10 ^ -400` are settled without computing the power. -/
def ofDecimal (format : BinaryFormat) (negative : Bool) (digits : Nat) (exponent : Int) :
    Option Binary :=
  if digits = 0 then some (zero format negative)
  else
    let magnitude := exponent + (digitCount digits : Int)
    if 400 < magnitude then none
    else if magnitude < -400 then some (zero format negative)
    else if 0 ≤ exponent then ofRatio format negative (digits * Nat.pow 10 exponent.toNat) 1
    else ofRatio format negative digits (Nat.pow 10 (-exponent).toNat)

/-- Order of magnitudes. -/
def magnitudeLe (left right : Binary) : Bool :=
  left.ratio.1 * right.ratio.2 ≤ right.ratio.1 * left.ratio.2

end Binary
end DatasetService
