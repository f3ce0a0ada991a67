import DatasetService.Number.Literal
import DatasetService.Text.Percent
import DatasetService.Version

set_option autoImplicit false

/- Requests and responses. -/
namespace DatasetService.Http

open Text (Bytes)

structure Request where
  method : String := "GET"
  /-- The address that is asked for, with its query. -/
  target : String
  headers : List (String × Bytes) := []
  body : Bytes := []
deriving DecidableEq, Repr

/-- A byte of a header that may be read as text. -/
def isHeaderText (byte : UInt8) : Bool := (0x20 ≤ byte && byte < 0x7F) || byte == 0x09

/-- The first header of a name, if it may be read as text. Names have no letter case. -/
def Request.header? (request : Request) (name : String) : Option String :=
  (request.headers.find? fun header => Text.lowerString header.1 == Text.lowerString name).bind
    fun header => if header.2.all isHeaderText then Text.stringOf? header.2 else none

/-- Whether a text may be the value of a header. -/
def isHeaderValue (text : String) : Bool :=
  text.toList.all fun c => (' ' ≤ c && c != '\x7f') || c == '\t'

structure Response where
  status : Nat
  contentType : Option String := none
  disposition : Option String := none
  apiVersion : Option String := none
  body : Payload := .bytes []
deriving DecidableEq, Repr

def jsonType : String := "application/json"

def plainTextType : String := "text/plain; charset=utf-8"

def Response.text (status : Nat) (contentType text : String) : Response :=
  { status, contentType := some contentType, body := .bytes (Text.bytesOf text) }

/-- Where a request goes: a path as it is written, and a query. -/
structure Target where
  path : List Char
  query : List Char
deriving DecidableEq, Repr

namespace Target

def isSchemeChar (c : Char) : Bool := c.isAlphanum || c == '+' || c == '-' || c == '.'

/-- What follows the host in an address that begins with a scheme. -/
def afterHost? (text : List Char) : Option (List Char) :=
  match text.dropWhile isSchemeChar with
  | ':' :: '/' :: '/' :: rest => some (rest.dropWhile fun c => c != '/' && c != '?')
  | _ => none

/-- A path and a query; an empty path is written `/`. -/
def ofPath (text : List Char) : Target :=
  let path := text.takeWhile (· != '?')
  { path := if path.isEmpty then ['/'] else path
    query := (text.dropWhile (· != '?')).drop 1 }

/-- An address is a path, or a scheme and a host with a path; a host alone has no path at
all. What follows `#` does not count. -/
def parse (text : String) : Target :=
  let address := text.toList.takeWhile (· != '#')
  match address with
  | '/' :: _ => ofPath address
  | ['*'] => ofPath address
  | _ =>
      match afterHost? address with
      | some rest => ofPath rest
      | none => { path := [], query := [] }

end Target

def Request.at (request : Request) : Target := Target.parse request.target

/-- The pairs of the query, in order. -/
def Request.query (request : Request) : List (String × String) :=
  Text.formPairs (Text.encode request.at.query)

end DatasetService.Http
