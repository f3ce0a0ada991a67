import DatasetService.Text.Ascii
import DatasetService.Text.Split

set_option autoImplicit false

/- Media types with parameters: `type/subtype; name=value`. -/
namespace DatasetService.Http

structure MediaType where
  /-- Names of parameters, in lower case, with their values. -/
  parameters : List (List Char × List Char)
  /-- The text, with everything that has no letter case in lower case. -/
  text : List Char
deriving DecidableEq, Repr

namespace MediaType

def isTokenChar (c : Char) : Bool := c.isAlphanum || "!#$%&'*+-.^_\x60|~".toList.contains c

def isQuotable (c : Char) : Bool := ' ' ≤ c && c != '\x7f'

/-- A parameter, its text, and what follows. -/
structure Scan where
  name : List Char
  value : List Char
  text : List Char
  rest : List Char

/-- Charsets have no letter case. -/
def normalizedValue (name value : List Char) : List Char :=
  if name = "charset".toList then Text.lower value else value

/-- A value in quotes is not empty, and only spaces stand between it and the next semicolon. -/
def scanQuoted (name text : List Char) : Option Scan :=
  match text with
  | [] => none
  | first :: others =>
      if !isQuotable first then none
      else
        let inner := others.takeWhile fun c => isQuotable c && c != '"'
        match others.dropWhile fun c => isQuotable c && c != '"' with
        | '"' :: rest =>
            let value := normalizedValue name (first :: inner)
            let spaces := rest.takeWhile (· == ' ')
            let written := name ++ '=' :: '"' :: value ++ '"' :: spaces
            match rest.dropWhile (· == ' ') with
            | [] => some { name, value, text := written, rest := [] }
            | ';' :: rest => some { name, value, text := written ++ [';'], rest }
            | _ => none
        | _ => none

/-- A value without quotes may be empty at the end only. -/
def scanPlain (name text : List Char) : Option Scan :=
  let value := normalizedValue name (text.takeWhile isTokenChar)
  let written := name ++ '=' :: value
  match value, text.dropWhile isTokenChar with
  | _, [] => some { name, value, text := written, rest := [] }
  | _ :: _, ';' :: rest => some { name, value, text := written ++ [';'], rest }
  | _, _ => none

def scanParameter (text : List Char) : Option Scan :=
  let name := Text.lower (text.takeWhile isTokenChar)
  match name, text.dropWhile isTokenChar with
  | _ :: _, '=' :: '"' :: rest => scanQuoted name rest
  | _ :: _, '=' :: rest => scanPlain name rest
  | _, _ => none

/-- Parameters up to the end; the first argument bounds their number. -/
def scanParameters : Nat → List Char → Option MediaType
  | 0, _ => none
  | fuel + 1, text =>
      let spaces := text.takeWhile (· == ' ')
      match text.dropWhile (· == ' ') with
      | [] => some { parameters := [], text := spaces }
      | text => do
          let scan ← scanParameter text
          let others ← scanParameters fuel scan.rest
          return { parameters := (scan.name, scan.value) :: others.parameters
                   text := spaces ++ scan.text ++ others.text }

/-- Read a media type. A subtype may be empty where nothing follows it, and a semicolon with
nothing after it is left out. -/
def parse? (text : List Char) : Option MediaType :=
  match text.takeWhile isTokenChar, text.dropWhile isTokenChar with
  | kind@(_ :: _), '/' :: rest =>
      let subtype := rest.takeWhile isTokenChar
      let essence := Text.lower (kind ++ '/' :: subtype)
      match subtype, rest.dropWhile isTokenChar with
      | _, [] => some { parameters := [], text := essence }
      | _ :: _, ';' :: rest => do
          let following ← scanParameters (rest.length + 1) rest
          if following.parameters.isEmpty then return { parameters := [], text := essence }
          else
            return { parameters := following.parameters
                     text := essence ++ ';' :: following.text }
      | _, _ => none
  | _, _ => none

def parameter? (mediaType : MediaType) (name : String) : Option (List Char) :=
  (mediaType.parameters.find? fun pair => pair.1 == name.toList).map Prod.snd

end MediaType
end DatasetService.Http
