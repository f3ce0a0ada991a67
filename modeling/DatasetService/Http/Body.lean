import DatasetService.Binding.Binder
import DatasetService.Http.Message
import DatasetService.Http.Multipart
import DatasetService.Json.Parser

set_option autoImplicit false

/- The values that a request's body contributes: members of a JSON object, pairs of a form,
or parts of a form. A body of another type contributes nothing. -/
namespace DatasetService.Http

open Binding (RawValue)
open Text (Bytes)

/-- A body that may be too long to be read. -/
inductive Content
  | whole (bytes : Bytes)
  | tooLong
deriving DecidableEq, Repr

/-- A body is read up to a limit. -/
def Content.upTo (limit : Nat) (bytes : Bytes) : Content :=
  if bytes.length ≤ limit then .whole bytes else .tooLong

namespace Body

abbrev Values := List (String × RawValue)

/-- The whole body, for readers that need all of it. -/
def buffered (content : Content) : Except ApiError Bytes :=
  match content with
  | .whole bytes => .ok bytes
  | .tooLong =>
      .error (.badRequest "Failed to buffer the request body: length limit exceeded")

def jsonValues (content : Content) : Except ApiError Values := do
  let bytes ← buffered content
  if bytes.all Text.isAsciiBlank then return []
  match Json.parse bytes with
  | .ok (.object members) => return members.map fun member => (member.1, .json member.2)
  | .ok _ => .error (.badRequest "request body must be a JSON object")
  | .error error => .error (.badRequest ("invalid JSON body: " ++ error.message))

def formType : String := "application/x-www-form-urlencoded"

/-- The pairs of a form. A request to get something has them in its query. -/
def formValues (request : Request) (contentType : String) (content : Content) :
    Except ApiError Values := do
  let bytes ←
    if request.method = "GET" then
      pure (Text.encode request.at.query)
    else if formType.toList.isPrefixOf contentType.toList then buffered content
    else .error (.badRequest ("Form requests must have \x60Content-Type: " ++ formType ++ "\x60"))
  return (Text.formPairs bytes).map fun pair => (pair.1, .text pair.2)

/-- A part with a file name is a file, any other one is text. -/
def partValue (part : Part) : RawValue :=
  match part.filename with
  | some filename =>
      .file
        { filename := some filename
          contentType := part.contentType.map fun mediaType => String.ofList mediaType.text
          bytes := part.data }
  | none => .text part.text

def invalidBoundary : ApiError :=
  .badRequest "Invalid \x60boundary\x60 for \x60multipart/form-data\x60 request"

/-- Parts without a name are skipped. -/
def multipartValues (contentType : String) (content : Content) : Except ApiError Values :=
  match (MediaType.parse? contentType.toList).bind fun mediaType =>
    mediaType.parameter? "boundary" with
  | none => .error invalidBoundary
  | some boundary =>
      match content with
      | .tooLong => .error (.badRequest "failed to read stream")
      | .whole bytes =>
          match Multipart.parse (Text.encode boundary) bytes with
          | .error error => .error (.badRequest error.message)
          | .ok parts => .ok (parts.filterMap fun part =>
              part.name.map fun name => (name, partValue part))

/-- The type of a body without parameters. -/
def essence (contentType : String) : String :=
  String.ofList (Text.lower (Text.trim (contentType.toList.takeWhile (· != ';'))))

/-- The values of a body. -/
def values (request : Request) (content : Content) : Except ApiError Values :=
  let contentType := (request.header? "content-type").getD ""
  let kind := essence contentType
  if kind = jsonType then jsonValues content
  else if kind = formType then formValues request contentType content
  else if kind = "multipart/form-data" then multipartValues contentType content
  else .ok []

end Body
end DatasetService.Http
