set_option autoImplicit false

/- Writing comma-separated records. A field is quoted when it holds a comma, a quote or an
end of line. A record without any character is written as an empty quoted field, so that it
is not taken for an empty line. -/
namespace DatasetService.Csv

def needsQuote (c : Char) : Bool := c == ',' || c == '"' || c == '\r' || c == '\n'

def doubleQuotes (text : List Char) : List Char :=
  text.flatMap fun c => if c = '"' then ['"', '"'] else [c]

def writeField (text : List Char) : List Char :=
  if text.any needsQuote then '"' :: doubleQuotes text ++ ['"'] else text

def writeFields : List (List Char) → List Char
  | [] => []
  | [field] => writeField field
  | field :: next :: fields => writeField field ++ ',' :: writeFields (next :: fields)

def writeRecord (fields : List String) : List Char :=
  let line := writeFields (fields.map String.toList)
  (if line.isEmpty then ['"', '"'] else line) ++ ['\n']

/-- The text of a header and its rows, if every row has as many fields as the header. -/
def write? (header : List String) (rows : List (List String)) : Option (List Char) :=
  if rows.all fun row => row.length == header.length then
    some (writeRecord header ++ rows.flatMap writeRecord)
  else none

end DatasetService.Csv
