import DatasetService.Json.Numeral
import DatasetService.Text.Hex

set_option autoImplicit false

/- Reading JSON from bytes. A value may be read with care, or skimmed: then only its
syntax counts, and depth, range of numbers and pairing of surrogates do not. -/
namespace DatasetService.Json

open Text (Bytes)

inductive Care
  | full
  | skim
deriving DecidableEq

def isSpace (byte : UInt8) : Bool :=
  byte == 0x20 || byte == 0x0A || byte == 0x09 || byte == 0x0D

def skipSpace (bytes : Bytes) : Bytes := bytes.dropWhile isSpace

/-- The rest of a word such as `null` after its first letter. -/
def readWord (value : Value) : List Char → Bytes → Except Stop (Value × Bytes)
  | [], bytes => .ok (value, bytes)
  | _ :: _, [] => stopAt .endInValue []
  | letter :: letters, byte :: rest =>
      if byte.toNat = letter.toNat then readWord value letters rest
      else stopAt .expectedIdent rest

def hexUnit? (bytes : List UInt8) : Option Nat :=
  bytes.foldl (fun value byte => do
    let value ← value
    let digit ← Text.hexValue? (Char.ofNat byte.toNat)
    return value * 16 + digit) (some 0)

/-- The four digits of an escape. -/
def readUnit : Bytes → Except Stop (Nat × Bytes)
  | a :: b :: c :: d :: rest =>
      match hexUnit? [a, b, c, d] with
      | some value => .ok (value, rest)
      | none => stopAt .invalidEscape rest
  | _ => stopAt .endInString []

def isHighSurrogate (unit : Nat) : Bool := 0xD800 ≤ unit && unit ≤ 0xDBFF

def isLowSurrogate (unit : Nat) : Bool := 0xDC00 ≤ unit && unit ≤ 0xDFFF

/-- The character of an escape after `\u`. A high surrogate needs a low one in the escape
that follows it. -/
def readUnicode (bytes : Bytes) : Except Stop (Char × Bytes) := do
  let (unit, rest) ← readUnit bytes
  if isLowSurrogate unit then stopAt .loneSurrogate rest
  else if isHighSurrogate unit then
    match rest with
    | [] => stopAt .endInString []
    | 0x5C :: [] => stopAt .endInString []
    | 0x5C :: 0x75 :: rest =>
        let (second, rest) ← readUnit rest
        if isLowSurrogate second then
          .ok (Char.ofNat ((unit - 0xD800) * 0x400 + (second - 0xDC00) + 0x10000), rest)
        else stopAt .loneSurrogate rest
    | 0x5C :: _ :: rest => stopAt .endOfHexEscape rest
    | _ :: rest => stopAt .endOfHexEscape rest
  else .ok (Char.ofNat unit, rest)

/-- The bytes that an escape stands for, after its backslash. -/
def readEscape (care : Care) : Bytes → Except Stop (Bytes × Bytes)
  | [] => stopAt .endInString []
  | mark :: rest =>
      if mark = 0x22 || mark = 0x5C || mark = 0x2F then .ok ([mark], rest)
      else if mark = 0x62 then .ok ([0x08], rest)
      else if mark = 0x66 then .ok ([0x0C], rest)
      else if mark = 0x6E then .ok ([0x0A], rest)
      else if mark = 0x72 then .ok ([0x0D], rest)
      else if mark = 0x74 then .ok ([0x09], rest)
      else if mark = 0x75 then
        match care with
        | .full => (readUnicode rest).map fun (c, rest) => (Text.encode [c], rest)
        | .skim => (readUnit rest).map fun (_, rest) => ([], rest)
      else stopAt .invalidEscape rest

/-- The bytes of a string up to its closing quote, which is left. -/
def stringBytes (care : Care) : Nat → Bytes → Except Stop (Bytes × Bytes)
  | 0, _ => stopAt .endInString []
  | _, [] => stopAt .endInString []
  | fuel + 1, byte :: rest =>
      if byte = 0x22 then .ok ([], byte :: rest)
      else if byte = 0x5C then do
        let (bytes, rest) ← readEscape care rest
        let (more, rest) ← stringBytes care fuel rest
        return (bytes ++ more, rest)
      else if byte < 0x20 then stopAt .controlCharacter rest
      else do
        let (more, rest) ← stringBytes care fuel rest
        return (byte :: more, rest)

/-- A string after its opening quote. A fault in its UTF-8 is placed as far before the
closing quote as it is from the end of the content. -/
def readString (care : Care) (bytes : Bytes) : Except Stop (String × Bytes) := do
  let (content, rest) ← stringBytes care (bytes.length + 1) bytes
  match care, Text.stringOf? content with
  | _, some text => .ok (text, rest.drop 1)
  | .skim, none => .ok ("", rest.drop 1)
  | .full, none =>
      let faulty := content.length - Text.validUpTo content
      stopAhead .invalidUnicode (bytes.drop (bytes.length - rest.length - faulty))

def readColon (bytes : Bytes) : Except Stop (Unit × Bytes) :=
  match skipSpace bytes with
  | [] => stopAhead .endInObject []
  | 0x3A :: rest => .ok ((), rest)
  | rest => stopAhead .expectedColon rest

/-- What comes next in a list or an object: its end, or another element. -/
inductive Turn
  | done (rest : Bytes)
  | element (rest : Bytes)

def nextItem (first : Bool) (bytes : Bytes) : Except Stop Turn :=
  match skipSpace bytes with
  | [] => stopAhead .endInList []
  | 0x5D :: rest => .ok (.done rest)
  | byte :: rest =>
      if first then .ok (.element (byte :: rest))
      else if byte = 0x2C then
        match skipSpace rest with
        | [] => stopAhead .endInValue []
        | 0x5D :: rest => stopAhead .trailingComma (0x5D :: rest)
        | rest => .ok (.element rest)
      else stopAhead .expectedListEnd (byte :: rest)

/-- The next key starts after its opening quote. -/
def nextKey (first : Bool) (bytes : Bytes) : Except Stop Turn :=
  match skipSpace bytes with
  | [] => stopAhead .endInObject []
  | 0x7D :: rest => .ok (.done rest)
  | byte :: rest =>
      if first then
        if byte = 0x22 then .ok (.element rest) else stopAhead .keyNotString (byte :: rest)
      else if byte = 0x2C then
        match skipSpace rest with
        | [] => stopAhead .endInValue []
        | 0x22 :: rest => .ok (.element rest)
        | 0x7D :: rest => stopAhead .trailingComma (0x7D :: rest)
        | rest => stopAhead .keyNotString rest
      else stopAhead .expectedObjectEnd (byte :: rest)

def readNumberWith (care : Care) (negative : Bool) (bytes : Bytes) : Except Stop (Value × Bytes) :=
  match care, readNumber negative bytes with
  | _, .ok (number, rest) => .ok (.number number, rest)
  | .skim, .error { fault := .numberOutOfRange, rest, .. } => .ok (.null, skipDigits rest)
  | _, .error stop => .error stop

mutual

/-- One value. `depth` counts the lists and objects that may still be opened, less one. -/
def readValue (care : Care) : Nat → Nat → Bytes → Except Stop (Value × Bytes)
  | 0, _, bytes => stopAhead .endInValue bytes
  | fuel + 1, depth, bytes =>
      match skipSpace bytes with
      | [] => stopAhead .endInValue []
      | byte :: rest =>
          if byte = 0x6E then readWord .null "ull".toList rest
          else if byte = 0x74 then readWord (.bool true) "rue".toList rest
          else if byte = 0x66 then readWord (.bool false) "alse".toList rest
          else if byte = 0x2D then readNumberWith care true rest
          else if isDigitByte byte then readNumberWith care false (byte :: rest)
          else if byte = 0x22 then
            (readString care rest).map fun (text, rest) => (.string text, rest)
          else if byte = 0x5B then
            if care = .full && depth ≤ 1 then stopAhead .tooDeep (byte :: rest)
            else do
              let (items, rest) ← readItems care fuel (depth - 1) true rest
              return (.array items, rest)
          else if byte = 0x7B then
            if care = .full && depth ≤ 1 then stopAhead .tooDeep (byte :: rest)
            else do
              let (members, rest) ← readMembers care fuel (depth - 1) true rest
              return (Value.ofMembers members, rest)
          else stopAhead .expectedValue (byte :: rest)

def readItems (care : Care) : Nat → Nat → Bool → Bytes → Except Stop (List Value × Bytes)
  | 0, _, _, bytes => stopAhead .endInList bytes
  | fuel + 1, depth, first, bytes => do
      match ← nextItem first bytes with
      | .done rest => return ([], rest)
      | .element rest =>
          let (item, rest) ← readValue care fuel depth rest
          let (items, rest) ← readItems care fuel depth false rest
          return (item :: items, rest)

def readMembers (care : Care) : Nat → Nat → Bool → Bytes → Except Stop (Members × Bytes)
  | 0, _, _, bytes => stopAhead .endInObject bytes
  | fuel + 1, depth, first, bytes => do
      match ← nextKey first bytes with
      | .done rest => return ([], rest)
      | .element rest =>
          let (key, rest) ← readString care rest
          let ((), rest) ← readColon rest
          let (value, rest) ← readValue care fuel depth rest
          let (members, rest) ← readMembers care fuel depth false rest
          return ((key, value) :: members, rest)

end

/-- One more than the number of lists and objects that may be open at once. -/
def depthLimit : Nat := 128

def isNewline (byte : UInt8) : Bool := byte == 0x0A

/-- The line and column at which a reader stopped. -/
def locate (bytes : Bytes) (stop : Stop) : Error :=
  let consumed := bytes.length - stop.rest.length
  let index := if stop.ahead then min bytes.length (consumed + 1) else consumed
  let before := bytes.take index
  let lastLine := before.reverse.takeWhile (! isNewline ·)
  { fault := stop.fault
    line := 1 + before.countP isNewline
    column := lastLine.length }

/-- Run a reader over all bytes: only space may remain. -/
def readAll {α : Type} (reader : Bytes → Except Stop (α × Bytes)) (bytes : Bytes) :
    Except Error α :=
  match reader bytes with
  | .error stop => .error (locate bytes stop)
  | .ok (value, rest) =>
      match skipSpace rest with
      | [] => .ok value
      | rest => .error (locate bytes { fault := .trailingCharacters, rest, ahead := true })

/-- The JSON value that the bytes hold. -/
def parse (bytes : Bytes) : Except Error Value :=
  readAll (readValue .full (2 * bytes.length + 2) depthLimit) bytes

end DatasetService.Json
