import DatasetService.Text.Ascii
import DatasetService.Text.Blank

set_option autoImplicit false

/- The formats in which data can be asked for. -/
namespace DatasetService

inductive Format
  | json
  | csv
  | zip
deriving DecidableEq, Repr, Inhabited

namespace Format

def name : Format → String
  | .json => "json"
  | .csv => "csv"
  | .zip => "zip"

/-- The type by which content in this format is announced. -/
def contentType : Format → String
  | .json => "application/json"
  | .csv => "text/csv; charset=utf-8"
  | .zip => "application/zip"

/-- Read exactly the name of a format. -/
def ofExactName? (name : String) : Option Format :=
  if name = "json" then some .json
  else if name = "csv" then some .csv
  else if name = "zip" then some .zip
  else none

/-- Read the name of a format in any letter case, with blanks around it. -/
def ofNameChars? (name : List Char) : Option Format :=
  ofExactName? (String.ofList (Text.lower (Text.trim name)))

def ofName? (name : String) : Option Format := ofNameChars? name.toList

/-- The format with a media type, whose parameters do not count. -/
def ofMediaTypeChars? (mediaType : List Char) : Option Format :=
  let essence :=
    String.ofList (Text.lower (Text.trim (mediaType.takeWhile (· != ';'))))
  if essence = "application/json" || essence = "text/json" then some .json
  else if essence = "text/csv" || essence = "application/csv" then some .csv
  else if essence = "application/zip" || essence = "application/x-zip-compressed" then some .zip
  else none

def ofMediaType? (mediaType : String) : Option Format := ofMediaTypeChars? mediaType.toList

/-- The part of the content type before its slash. -/
def topLevel (format : Format) : List Char := format.contentType.toList.takeWhile (· != '/')

theorem ofExactName_name (format : Format) : ofExactName? format.name = some format := by
  cases format <;> rfl

end Format
end DatasetService
