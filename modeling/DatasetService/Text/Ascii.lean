set_option autoImplicit false

/- Letter case in ASCII: only the 26 letters have another case. -/
namespace DatasetService.Text

def lower (text : List Char) : List Char := text.map Char.toLower

def lowerString (text : String) : String := String.ofList (lower text.toList)

/-- The ASCII blanks: tab, line feed, form feed, carriage return and space. -/
def isAsciiBlank (byte : UInt8) : Bool :=
  byte == 0x09 || byte == 0x0A || byte == 0x0C || byte == 0x0D || byte == 0x20

end DatasetService.Text
