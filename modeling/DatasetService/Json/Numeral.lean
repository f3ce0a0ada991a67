import DatasetService.Json.Error
import DatasetService.Json.Value
import DatasetService.Text.Utf8

set_option autoImplicit false

/- The numbers of JSON. Digits are read into a significand of 64 bits; those that no longer
fit only shift the decimal point. A number with a fraction or an exponent, and an integer
that 64 bits do not hold, is the significand as a double, scaled by a power of ten with one
rounding. -/
namespace DatasetService.Json

open Text (Bytes)

/-- Where reading stopped, given by what was left, or one byte after it. -/
structure Stop where
  fault : Fault
  rest : Bytes
  ahead : Bool := false

def stopAt {α : Type} (fault : Fault) (rest : Bytes) : Except Stop α :=
  .error { fault, rest }

def stopAhead {α : Type} (fault : Fault) (rest : Bytes) : Except Stop α :=
  .error { fault, rest, ahead := true }

def isDigitByte (byte : UInt8) : Bool := 0x30 ≤ byte && byte ≤ 0x39

def digitOf (byte : UInt8) : Nat := byte.toNat - 0x30

def skipDigits (bytes : Bytes) : Bytes := bytes.dropWhile isDigitByte

/-- A significand, the digits read into it, and what follows them. -/
structure Taken where
  significand : Nat
  count : Nat
  rest : Bytes

/-- Read digits as long as the significand stays below `2 ^ 64`. -/
def takeDigits (significand count : Nat) : Bytes → Taken
  | [] => { significand, count, rest := [] }
  | byte :: rest =>
      let grown := significand * 10 + digitOf byte
      if isDigitByte byte && grown < Nat.pow 2 64 then takeDigits grown (count + 1) rest
      else { significand, count, rest := byte :: rest }

def startsWithDigit : Bytes → Bool
  | [] => false
  | byte :: _ => isDigitByte byte

def double (value : Option Binary) : Binary :=
  value.getD (Binary.zero .double false)

def powerOfTen (exponent : Nat) : Binary :=
  double (Binary.ofDecimal .double false 1 exponent)

def ofSignificand (significand : Nat) : Binary :=
  double (Binary.ofRatio .double false significand 1)

/-- Scale by a power of ten. Exponents below -308 are taken in steps of 308 until the
number is zero or the exponent is in range; three steps make every significand zero. -/
def scale : Nat → Binary → Int → Option Binary
  | 0, number, _ => some number
  | fuel + 1, number, exponent =>
      if exponent.natAbs ≤ 308 then
        if 0 ≤ exponent then Binary.multiply .double number (powerOfTen exponent.toNat)
        else Binary.divide .double number (powerOfTen exponent.natAbs)
      else if number.isZero then some number
      else if 0 ≤ exponent then none
      else
        scale fuel (double (Binary.divide .double number (powerOfTen 308))) (exponent + 308)

/-- The double of a significand and a decimal exponent. -/
def fromParts (negative : Bool) (significand : Nat) (exponent : Int) (rest : Bytes) :
    Except Stop (Number × Bytes) :=
  match scale 4 (ofSignificand significand) exponent with
  | none => stopAt .numberOutOfRange rest
  | some number => .ok (.float { number with negative }, rest)

def maxExponent : Nat := 2147483647

/-- The digits of an exponent; nothing where they exceed `maxExponent`. -/
def exponentDigits (value : Nat) : Bytes → Option Nat × Bytes
  | [] => (some value, [])
  | byte :: rest =>
      if isDigitByte byte then
        let grown := value * 10 + digitOf byte
        if maxExponent < grown then (none, rest) else exponentDigits grown rest
      else (some value, byte :: rest)

/-- The exponent after its mark. One that is out of range makes a significand other than
zero too large, or with a minus sign zero. -/
def readExponent (negative : Bool) (significand : Nat) (start : Int) (bytes : Bytes) :
    Except Stop (Number × Bytes) :=
  let (down, digits) := match bytes with
    | 0x2B :: rest => (false, rest)
    | 0x2D :: rest => (true, rest)
    | rest => (false, rest)
  match digits with
  | [] => stopAt .endInValue []
  | byte :: rest =>
      if isDigitByte byte then
        match exponentDigits (digitOf byte) rest with
        | (none, rest) =>
            if significand ≠ 0 && !down then stopAt .numberOutOfRange rest
            else .ok (.float (Binary.zero .double negative), skipDigits rest)
        | (some value, rest) =>
            let exponent := if down then start - (value : Int) else start + (value : Int)
            fromParts negative significand exponent rest
      else stopAt .invalidNumber rest

def finishReal (negative : Bool) (significand : Nat) (exponent : Int) :
    Bytes → Except Stop (Number × Bytes)
  | [] => fromParts negative significand exponent []
  | byte :: rest =>
      if byte = 0x65 || byte = 0x45 then readExponent negative significand exponent rest
      else fromParts negative significand exponent (byte :: rest)

/-- The digits after a point, of which there is at least one. -/
def readFraction (negative : Bool) (significand : Nat) (exponent : Int) (bytes : Bytes) :
    Except Stop (Number × Bytes) :=
  let taken := takeDigits significand 0 bytes
  if taken.count = 0 && !startsWithDigit bytes then
    match bytes with
    | [] => stopAhead .endInValue []
    | _ => stopAhead .invalidNumber bytes
  else
    finishReal negative taken.significand (exponent - (taken.count : Int))
      (skipDigits taken.rest)

/-- An integer part that has been read, and what may follow it. -/
def finishNumber (negative : Bool) (significand : Nat) (bytes : Bytes) :
    Except Stop (Number × Bytes) :=
  match bytes with
  | 0x2E :: rest => readFraction negative significand 0 rest
  | 0x65 :: rest => readExponent negative significand 0 rest
  | 0x45 :: rest => readExponent negative significand 0 rest
  | _ =>
      if negative then
        if significand = 0 || Nat.pow 2 63 < significand then
          .ok (.float { ofSignificand significand with negative := true }, bytes)
        else .ok (.integer (-(significand : Int)), bytes)
      else .ok (.integer significand, bytes)

/-- Digits beyond 64 bits count as zeros. -/
def finishLong (negative : Bool) (significand : Nat) (bytes : Bytes) :
    Except Stop (Number × Bytes) :=
  let exponent : Int := (bytes.takeWhile isDigitByte).length
  match skipDigits bytes with
  | 0x2E :: rest => readFraction negative significand exponent rest
  | rest => finishReal negative significand exponent rest

/-- A number without its sign. -/
def readNumber (negative : Bool) : Bytes → Except Stop (Number × Bytes)
  | [] => stopAt .endInValue []
  | byte :: rest =>
      if byte = 0x30 then
        if startsWithDigit rest then stopAhead .invalidNumber rest
        else finishNumber negative 0 rest
      else if isDigitByte byte then
        let taken := takeDigits (digitOf byte) 1 rest
        if startsWithDigit taken.rest then finishLong negative taken.significand taken.rest
        else finishNumber negative taken.significand taken.rest
      else stopAt .invalidNumber rest

end DatasetService.Json
