import DatasetService.Text.Hex
import DatasetService.Text.Split

set_option autoImplicit false

/- Percent-encoding, and the name-value pairs of forms and query strings. -/
namespace DatasetService.Text

/-- Each byte outside the ASCII letters and digits becomes `%` and two upper-case digits. -/
def percentEncode (text : List Char) : List Char :=
  (encode text).flatMap fun byte =>
    let c := Char.ofNat byte.toNat
    if c.isAlphanum then [c]
    else ['%', upperHexDigit (byte.toNat / 16), upperHexDigit (byte.toNat % 16)]

def hexByte? (byte : UInt8) : Option Nat := hexValue? (Char.ofNat byte.toNat)

/-- `%` with two digits after it stands for a byte; any other `%` for itself. -/
def percentDecode : Bytes → Bytes
  | 0x25 :: high :: low :: rest =>
      match hexByte? high, hexByte? low with
      | some high, some low => UInt8.ofNat (high * 16 + low) :: percentDecode rest
      | _, _ => 0x25 :: percentDecode (high :: low :: rest)
  | byte :: rest => byte :: percentDecode rest
  | [] => []

/-- One name or value of a form: `+` stands for a space, and what is not UTF-8 after
decoding is replaced. -/
def formText (bytes : Bytes) : String :=
  let spaced := bytes.map fun byte => if byte = 0x2B then 0x20 else byte
  String.ofList (decodeLossy (percentDecode spaced))

/-- The pairs of a form, in order. Empty pieces between `&` are skipped, and a piece
without `=` is a name with an empty value. -/
def formPairs (bytes : Bytes) : List (String × String) :=
  ((splitWhere (· == 0x26) bytes).filter (! ·.isEmpty)).map fun piece =>
    match splitFirst (· == 0x3D) piece with
    | some (name, value) => (formText name, formText value)
    | none => (formText piece, "")

end DatasetService.Text
