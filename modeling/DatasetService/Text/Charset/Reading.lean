import DatasetService.Text.Utf8

set_option autoImplicit false

/- Reading characters off the front of a byte sequence, one place after another. -/
namespace DatasetService.Text.Charset

/-- What stands in the text for bytes that are no character. -/
def replacement : Char := Char.ofNat 0xFFFD

/-- What is read at a place: the characters, and how many bytes after the first they take. -/
structure Reading where
  chars : List Char
  taken : Nat
deriving DecidableEq, Repr

namespace Reading

def single (c : Char) : Reading := ⟨[c], 0⟩

/-- Bytes that are no character. -/
def malformed (taken : Nat) : Reading := ⟨[replacement], taken⟩

/-- A character if there is one. -/
def ofChar (c : Option Char) (taken : Nat) : Reading := ⟨[c.getD replacement], taken⟩

end Reading

def isAsciiByte (byte : UInt8) : Bool := byte < 0x80

def asciiChar (byte : UInt8) : Char := Char.ofNat byte.toNat

def inRange (low high byte : UInt8) : Bool := low ≤ byte && byte ≤ high

/-- Read place after place to the end. -/
def readAll (next : UInt8 → Bytes → Reading) : Bytes → List Char
  | [] => []
  | first :: rest =>
      let reading := next first rest
      reading.chars ++ readAll next (rest.drop reading.taken)
termination_by bytes => bytes.length
decreasing_by
  simp only [List.length_cons, List.length_drop]
  omega

end DatasetService.Text.Charset
