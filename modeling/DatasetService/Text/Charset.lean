import DatasetService.Text.Ascii
import DatasetService.Text.Charset.ByteSets
import DatasetService.Text.Charset.Paired
import DatasetService.Text.Charset.Shifted
import DatasetService.Text.Charset.Utf16

set_option autoImplicit false

/- Text in a declared character encoding. A byte order mark wins over the declaration, and
what is ill formed is replaced by U+FFFD. -/
namespace DatasetService.Text

inductive Charset
  | utf8
  | utf16LittleEndian
  | utf16BigEndian
  | oneByte (set : Charset.ByteSet)
  | gb18030
  | big5
  | eucJp
  | iso2022Jp
  | shiftJis
  | eucKr
  /-- Bytes from `80` on are characters of private use. -/
  | userDefined
  /-- An encoding that is known and not read. -/
  | unread
deriving DecidableEq, Repr

namespace Charset

/-- The labels of the encodings that have more than one byte a character, or no table. -/
def labelled : List (Charset × List String) :=
  [(.utf8, ["unicode-1-1-utf-8", "unicode11utf8", "unicode20utf8", "utf-8", "utf8",
      "x-unicode20utf8"]),
   (.utf16LittleEndian, ["csunicode", "iso-10646-ucs-2", "ucs-2", "unicode", "unicodefeff",
      "utf-16", "utf-16le"]),
   (.utf16BigEndian, ["unicodefffe", "utf-16be"]),
   (.gb18030, ["chinese", "csgb2312", "csiso58gb231280", "gb2312", "gb_2312", "gb_2312-80", "gbk",
      "iso-ir-58", "x-gbk", "gb18030"]),
   (.big5, ["big5", "big5-hkscs", "cn-big5", "csbig5", "x-x-big5"]),
   (.eucJp, ["cseucpkdfmtjapanese", "euc-jp", "x-euc-jp"]),
   (.iso2022Jp, ["csiso2022jp", "iso-2022-jp"]),
   (.shiftJis, ["csshiftjis", "ms932", "ms_kanji", "shift-jis", "shift_jis", "sjis", "windows-31j",
      "x-sjis"]),
   (.eucKr, ["cseuckr", "csksc56011987", "euc-kr", "iso-ir-149", "korean", "ks_c_5601-1987",
      "ks_c_5601-1989", "ksc5601", "ksc_5601", "windows-949"]),
   (.userDefined, ["x-user-defined"]),
   (.unread, ["csiso2022kr", "hz-gb-2312", "iso-2022-cn", "iso-2022-cn-ext", "iso-2022-kr",
      "replacement"])]

/-- The blanks that may stand around a label. -/
def isLabelBlank (c : Char) : Bool := ['\t', '\n', '\x0C', '\r', ' '].contains c

def trimLabel (chars : List Char) : List Char :=
  ((chars.dropWhile isLabelBlank).reverse.dropWhile isLabelBlank).reverse

/-- The encoding with a label, in any letter case and with blanks around it. -/
def ofLabel? (label : String) : Option Charset :=
  let label := lowerString (String.ofList (trimLabel label.toList))
  match labelled.find? fun entry => entry.2.contains label with
  | some entry => some entry.1
  | none => (byteSets.find? fun set => set.labels.contains label).map .oneByte

def ByteSet.char? (set : ByteSet) (byte : UInt8) : Option Char :=
  if isAsciiByte byte then some (asciiChar byte) else set.upper.char? (byte.toNat - 0x80)

def userDefinedChar (byte : UInt8) : Char :=
  if isAsciiByte byte then asciiChar byte else Char.ofNat (0xF780 + (byte.toNat - 0x80))

/-- The text of bytes that do not begin with a byte order mark. -/
def decodeUnmarked (charset : Charset) (bytes : Bytes) : List Char :=
  match charset with
  | .utf8 => decodeLossy bytes
  | .utf16LittleEndian => joinUnits (units false bytes).2 (units false bytes).1
  | .utf16BigEndian => joinUnits (units true bytes).2 (units true bytes).1
  | .oneByte set => bytes.map fun byte => (set.char? byte).getD replacement
  | .gb18030 => readAll gbNext bytes
  | .big5 => readAll big5Pairs.next bytes
  | .eucJp => readAll eucJpNext bytes
  | .iso2022Jp => Shift.readFrom .ascii false bytes
  | .shiftJis => readAll shiftJisPairs.next bytes
  | .eucKr => readAll hangul.next bytes
  | .userDefined => bytes.map userDefinedChar
  | .unread => if bytes.isEmpty then [] else [replacement]

def decode (charset : Charset) (bytes : Bytes) : List Char :=
  match bytes with
  | 0xEF :: 0xBB :: 0xBF :: rest => decodeUnmarked .utf8 rest
  | 0xFF :: 0xFE :: rest => decodeUnmarked .utf16LittleEndian rest
  | 0xFE :: 0xFF :: rest => decodeUnmarked .utf16BigEndian rest
  | _ => decodeUnmarked charset bytes

end Charset
end DatasetService.Text
