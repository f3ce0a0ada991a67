import DatasetService.Text.Charset.JisIndex
import DatasetService.Text.Charset.Reading

set_option autoImplicit false

/- The encoding of Japanese in seven bits, in which escape sequences shift from one character
set to another. -/
namespace DatasetService.Text.Charset

/-- The character set that is shifted to. -/
inductive Shift
  | ascii
  | roman
  | katakana
  | kanji
deriving DecidableEq, Repr

namespace Shift

/-- The character set named by the two bytes after an escape. -/
def ofEscape? : Bytes → Option Shift
  | 0x28 :: 0x42 :: _ => some .ascii
  | 0x28 :: 0x4A :: _ => some .roman
  | 0x28 :: 0x49 :: _ => some .katakana
  | 0x24 :: 0x40 :: _ => some .kanji
  | 0x24 :: 0x42 :: _ => some .kanji
  | _ => none

/-- The characters of ASCII, without the two controls that shift in other encodings. -/
def asciiChar? (byte : UInt8) : Option Char :=
  if isAsciiByte byte && byte != 0x0E && byte != 0x0F then some (asciiChar byte) else none

/-- Roman has a yen sign and an overline where ASCII has a backslash and a tilde. -/
def romanChar? (byte : UInt8) : Option Char :=
  if byte == 0x5C then some '¥'
  else if byte == 0x7E then some '‾'
  else asciiChar? byte

def katakanaChar? (byte : UInt8) : Option Char :=
  if inRange 0x21 0x5F byte then some (Char.ofNat (0xFF61 + (byte.toNat - 0x21))) else none

def isKanjiByte (byte : UInt8) : Bool := inRange 0x21 0x7E byte

def kanjiNext (first : UInt8) (rest : Bytes) : Reading :=
  if isKanjiByte first then
    match rest with
    | [] => .malformed 0
    | second :: _ =>
        if isKanjiByte second then
          .ofChar (jis0208.char? ((first.toNat - 0x21) * 94 + (second.toNat - 0x21))) 1
        else .malformed (if second == 0x1B then 0 else 1)
  else .malformed 0

def next (shift : Shift) (first : UInt8) (rest : Bytes) : Reading :=
  match shift with
  | .ascii => .ofChar (asciiChar? first) 0
  | .roman => .ofChar (romanChar? first) 0
  | .katakana => .ofChar (katakanaChar? first) 0
  | .kanji => kanjiNext first rest

/-- Read in a character set; `idle` says that nothing was read since it was shifted to. A shift
that nothing is read after is replaced, and so is an escape that shifts to nothing. -/
def readFrom (shift : Shift) (idle : Bool) : Bytes → List Char
  | [] => []
  | first :: rest =>
      if first == 0x1B then
        match ofEscape? rest with
        | some target =>
            (if idle then [replacement] else []) ++ readFrom target true (rest.drop 2)
        | none => replacement :: readFrom shift false rest
      else
        let reading := shift.next first rest
        reading.chars ++ readFrom shift false (rest.drop reading.taken)
termination_by bytes => bytes.length
decreasing_by
  all_goals
    simp only [List.length_cons, List.length_drop]
    omega

end Shift
end DatasetService.Text.Charset
