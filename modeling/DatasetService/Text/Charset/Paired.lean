import DatasetService.Text.Charset.Big5Index
import DatasetService.Text.Charset.GbIndex
import DatasetService.Text.Charset.HangulIndex
import DatasetService.Text.Charset.JisIndex
import DatasetService.Text.Charset.Reading

set_option autoImplicit false

/- Encodings in which a lead byte and a trail byte are one character. A pair that is no
character is replaced as a whole, unless its trail byte is ASCII: that byte is then read
again by itself. -/
namespace DatasetService.Text.Charset

/-- An encoding of bytes and pairs. -/
structure Paired where
  /-- The character of a byte by itself. -/
  single? : UInt8 → Option Char
  isLead : UInt8 → Bool
  /-- The characters of a lead byte and a trail byte. -/
  pair? : UInt8 → UInt8 → Option (List Char)

def ascii? (byte : UInt8) : Option Char := if isAsciiByte byte then some (asciiChar byte) else none

/-- How many bytes a malformed pair takes after its lead byte. -/
def malformedTail (trail : UInt8) : Nat := if isAsciiByte trail then 0 else 1

def Paired.next (encoding : Paired) (first : UInt8) (rest : Bytes) : Reading :=
  match encoding.single? first with
  | some c => .single c
  | none =>
      match encoding.isLead first, rest with
      | true, trail :: _ =>
          match encoding.pair? first trail with
          | some chars => ⟨chars, 1⟩
          | none => .malformed (malformedTail trail)
      | _, _ => .malformed 0

def isHighLead (byte : UInt8) : Bool := inRange 0x81 0xFE byte

/-- How far a trail byte is from the byte `40`, when those from `7F` up to `high` do not count. -/
def trailPlace (trail high : UInt8) : Nat :=
  if trail ≤ 0x7E then trail.toNat - 0x40 else trail.toNat - 0x40 - (high.toNat - 0x7E)

/-! ### Hangul -/

def hangul : Paired where
  single? := ascii?
  isLead := isHighLead
  pair? lead trail :=
    if inRange 0x41 0xFE trail then
      (hangulIndex.char? ((lead.toNat - 0x81) * 190 + (trail.toNat - 0x41))).map fun c => [c]
    else none

/-! ### Big5 -/

/-- Four places hold a letter and an accent, for which Unicode has no one character. -/
def big5Accented? : Nat → Option (List Char)
  | 1133 => some ['\u00CA', '\u0304']
  | 1135 => some ['\u00CA', '\u030C']
  | 1164 => some ['\u00EA', '\u0304']
  | 1166 => some ['\u00EA', '\u030C']
  | _ => none

def big5Place? (lead trail : UInt8) : Option Nat :=
  if inRange 0x40 0x7E trail || inRange 0xA1 0xFE trail then
    some ((lead.toNat - 0x81) * 157 + trailPlace trail 0xA0)
  else none

def big5Pairs : Paired where
  single? := ascii?
  isLead := isHighLead
  pair? lead trail :=
    (big5Place? lead trail).bind fun place =>
      (big5Accented? place).or ((big5Index.char? place).map fun c => [c])

/-! ### Shift JIS -/

def halfKatakana? (byte : UInt8) : Option Char :=
  if inRange 0xA1 0xDF byte then some (Char.ofNat (0xFF61 + (byte.toNat - 0xA1))) else none

def shiftJisPlace? (lead trail : UInt8) : Option Nat :=
  if inRange 0x40 0x7E trail || inRange 0x80 0xFC trail then
    let row := if lead < 0xA0 then lead.toNat - 0x81 else lead.toNat - 0xC1
    some (row * 188 + trailPlace trail 0x7F)
  else none

/-- The rows for private use stand between those of the standard. -/
def shiftJisChar? (place : Nat) : Option Char :=
  if 8836 ≤ place && place ≤ 10715 then some (Char.ofNat (0xE000 + (place - 8836)))
  else jis0208.char? place

def shiftJisPairs : Paired where
  single? byte :=
    if byte ≤ 0x80 then some (asciiChar byte) else halfKatakana? byte
  isLead byte := inRange 0x81 0x9F byte || inRange 0xE0 0xFC byte
  pair? lead trail := ((shiftJisPlace? lead trail).bind shiftJisChar?).map fun c => [c]

/-! ### Extended Unix Code for Japanese -/

def rowByte (byte : UInt8) : Bool := inRange 0xA1 0xFE byte

/-- The character in a row and a column, each given by a byte from `A1` on. -/
def rowChar? (index : Index) (row column : UInt8) : Option Char :=
  if rowByte row && rowByte column then
    index.char? ((row.toNat - 0xA1) * 94 + (column.toNat - 0xA1))
  else none

def eucJpPairs : Paired where
  single? := ascii?
  isLead byte := byte == 0x8E || rowByte byte
  pair? lead trail :=
    (if lead == 0x8E then halfKatakana? trail else rowChar? jis0208 lead trail).map fun c => [c]

/-- The byte `8F` goes before a pair of the second character set. -/
def eucJpNext (first : UInt8) (rest : Bytes) : Reading :=
  if first == 0x8F then
    match rest with
    | [] => .malformed 0
    | row :: following =>
        if rowByte row then
          match following with
          | [] => .malformed 1
          | column :: _ =>
              match rowChar? jis0212 row column with
              | some c => ⟨[c], 2⟩
              | none => .malformed (1 + malformedTail column)
        else .malformed (malformedTail row)
  else eucJpPairs.next first rest

/-! ### GB 18030 -/

def gbPrivateChar? (place : Nat) : Option Char :=
  (gbPrivate.find? fun (start, count, _) => start ≤ place && place < start + count).map
    fun (start, _, first) => Char.ofNat (first + (place - start))

def gbPlace? (lead trail : UInt8) : Option Nat :=
  if inRange 0x40 0x7E trail || inRange 0x80 0xFE trail then
    some ((lead.toNat - 0x81) * 190 + trailPlace trail 0x7F)
  else none

def gbPairs : Paired where
  single? byte := if byte == 0x80 then some '€' else ascii? byte
  isLead := isHighLead
  pair? lead trail :=
    ((gbPlace? lead trail).bind fun place =>
      (gbIndex.char? place).or (gbPrivateChar? place)).map fun c => [c]

def digitByte (byte : UInt8) : Bool := inRange 0x30 0x39 byte

/-- The character at a place of four bytes. Past the basic plane they follow one another; in
it they stand in runs. -/
def gbFourChar? (place : Nat) : Option Char :=
  if place = 7457 then some (Char.ofNat 0xE7C7)
  else if 189000 ≤ place then
    if place ≤ 1237575 then some (Char.ofNat (0x10000 + (place - 189000))) else none
  else if place ≤ 39419 then
    (gbRanges.reverse.find? fun (start, _) => start ≤ place).map
      fun (start, first) => Char.ofNat (first + (place - start))
  else none

def gbFourPlace (first second third fourth : UInt8) : Nat :=
  (((first.toNat - 0x81) * 10 + (second.toNat - 0x30)) * 126 + (third.toNat - 0x81)) * 10 +
    (fourth.toNat - 0x30)

/-- A digit after a lead byte makes four bytes. Where these are not of the right kinds only the
lead byte is replaced. -/
def gbNext (first : UInt8) (rest : Bytes) : Reading :=
  match rest with
  | second :: following =>
      if isHighLead first && digitByte second then
        match following with
        | [] => .malformed 1
        | third :: following =>
            if isHighLead third then
              match following with
              | [] => .malformed 2
              | fourth :: _ =>
                  if digitByte fourth then
                    .ofChar (gbFourChar? (gbFourPlace first second third fourth)) 3
                  else .malformed 0
            else .malformed 0
      else gbPairs.next first rest
  | [] => gbPairs.next first rest

end DatasetService.Text.Charset
