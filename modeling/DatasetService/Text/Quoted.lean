import DatasetService.Text.Printable

set_option autoImplicit false

/- Text in quotes, for messages. A backslash goes before a quote and a backslash, and what is
not printable is written by its code point. -/
namespace DatasetService.Text

/-- The hexadecimal digits of a number. -/
def hexNumeral (value : Nat) : List Char := Nat.toDigits 16 value

def quotedChar (c : Char) : List Char :=
  match c with
  | '"' => ['\\', '"']
  | '\\' => ['\\', '\\']
  | '\t' => ['\\', 't']
  | '\r' => ['\\', 'r']
  | '\n' => ['\\', 'n']
  | '\x00' => ['\\', '0']
  | c => if isPrintable c then [c] else ['\\', 'u', '\x7b'] ++ hexNumeral c.toNat ++ ['\x7d']

def quoted (text : String) : String :=
  String.ofList ('"' :: text.toList.flatMap quotedChar ++ ['"'])

end DatasetService.Text
