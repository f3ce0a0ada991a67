set_option autoImplicit false

/- UTF-8. A byte sequence is read one character at a time; where no character starts,
the reader says how many bytes the ill-formed sequence has, so that it can be reported
or replaced as a whole. -/
namespace DatasetService.Text

abbrev Bytes := List UInt8

/-- The least and the greatest continuation byte after a leading byte, and how many
continuation bytes follow it. -/
structure Lead where
  count : Nat
  low : Nat := 0x80
  high : Nat := 0xBF

def lead? (byte : Nat) : Option Lead :=
  if byte < 0x80 then some { count := 0 }
  else if byte < 0xC2 then none
  else if byte < 0xE0 then some { count := 1 }
  else if byte = 0xE0 then some { count := 2, low := 0xA0 }
  else if byte = 0xED then some { count := 2, high := 0x9F }
  else if byte < 0xF0 then some { count := 2 }
  else if byte = 0xF0 then some { count := 3, low := 0x90 }
  else if byte < 0xF4 then some { count := 3 }
  else if byte = 0xF4 then some { count := 3, high := 0x8F }
  else none

/-- How many of the bytes continue a character that needs `count` more of them. -/
def continuation : Nat → Nat → Nat → Bytes → Nat
  | 0, _, _, _ => 0
  | _, _, _, [] => 0
  | count + 1, low, high, byte :: rest =>
      if low ≤ byte.toNat && byte.toNat ≤ high then
        continuation count 0x80 0xBF rest + 1
      else 0

/-- The payload bits of a leading byte with `count` continuation bytes. -/
def leadBits (count byte : Nat) : Nat :=
  match count with
  | 0 => byte
  | 1 => byte % 0x20
  | 2 => byte % 0x10
  | _ => byte % 0x08

def codePoint (start : Nat) (continuing : Bytes) : Nat :=
  continuing.foldl (fun value byte => value * 0x40 + byte.toNat % 0x40) start

/-- What stands at the start of a byte sequence. -/
inductive Utf8Head
  | character (value : Char) (width : Nat)
  | illFormed (width : Nat)

def utf8Head (first : UInt8) (rest : Bytes) : Utf8Head :=
  match lead? first.toNat with
  | none => .illFormed 1
  | some lead =>
      let found := continuation lead.count lead.low lead.high rest
      if found = lead.count then
        .character (Char.ofNat (codePoint (leadBits lead.count first.toNat) (rest.take found)))
          (found + 1)
      else .illFormed (found + 1)

/-- Read every byte; the first argument bounds the number of steps, and each step
consumes at least one byte. An ill-formed sequence is handed to `onBad`. -/
def readUtf8 (onBad : Char) : Nat → Bytes → List Char
  | 0, _ => []
  | _, [] => []
  | fuel + 1, first :: rest =>
      match utf8Head first rest with
      | .character value width => value :: readUtf8 onBad fuel (rest.drop (width - 1))
      | .illFormed width => onBad :: readUtf8 onBad fuel (rest.drop (width - 1))

/-- The text of the bytes, each ill-formed sequence replaced by U+FFFD. -/
def decodeLossy (bytes : Bytes) : List Char :=
  readUtf8 (Char.ofNat 0xFFFD) bytes.length bytes

def validUpToWithin : Nat → Bytes → Nat
  | 0, _ => 0
  | _, [] => 0
  | fuel + 1, first :: rest =>
      match utf8Head first rest with
      | .character _ width => width + validUpToWithin fuel (rest.drop (width - 1))
      | .illFormed _ => 0

/-- How many bytes precede the first ill-formed sequence. -/
def validUpTo (bytes : Bytes) : Nat := validUpToWithin bytes.length bytes

/-- The text of the bytes, if they are well formed throughout. -/
def decode? (bytes : Bytes) : Option (List Char) :=
  if validUpTo bytes = bytes.length then some (decodeLossy bytes) else none

def encode (text : List Char) : Bytes := text.flatMap String.utf8EncodeChar

/-- The number of bytes that a text takes. -/
def byteLength (text : List Char) : Nat := text.foldr (fun c length => c.utf8Size + length) 0

def bytesOf (text : String) : Bytes := encode text.toList

def stringOf? (bytes : Bytes) : Option String := (decode? bytes).map String.ofList

theorem encode_nil : encode [] = [] := rfl

theorem encode_append (left right : List Char) :
    encode (left ++ right) = encode left ++ encode right := by
  simp [encode]

end DatasetService.Text
