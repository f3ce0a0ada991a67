import DatasetService.Text.Charset.Reading

set_option autoImplicit false

/- UTF-16 in either order of bytes. -/
namespace DatasetService.Text.Charset

/-- The code units of a byte sequence, and whether a byte is left over. -/
def units (big : Bool) : Bytes → List Nat × Bool
  | first :: second :: rest =>
      let unit := if big then first.toNat * 256 + second.toNat
        else second.toNat * 256 + first.toNat
      let (following, odd) := units big rest
      (unit :: following, odd)
  | [_] => ([], true)
  | [] => ([], false)

def isHigh (unit : Nat) : Bool := 0xD800 ≤ unit && unit < 0xDC00

def isLow (unit : Nat) : Bool := 0xDC00 ≤ unit && unit < 0xE000

/-- Join surrogate pairs. A byte left over at the end counts as ill formed, together with a
high surrogate before it. -/
def joinUnits (odd : Bool) : List Nat → List Char
  | [] => if odd then [replacement] else []
  | [unit] =>
      if isHigh unit then [replacement]
      else (if isLow unit then replacement else Char.ofNat unit) :: joinUnits odd []
  | unit :: next :: rest =>
      if isHigh unit then
        if isLow next then
          Char.ofNat (0x10000 + (unit - 0xD800) * 0x400 + (next - 0xDC00)) :: joinUnits odd rest
        else replacement :: joinUnits odd (next :: rest)
      else (if isLow unit then replacement else Char.ofNat unit) :: joinUnits odd (next :: rest)

end DatasetService.Text.Charset
