import DatasetService.Access
import DatasetService.Command
import DatasetService.Document
import DatasetService.Http.Body
import DatasetService.Http.Route

set_option autoImplicit false

/- A server: it binds the parameters of a request, runs the operation of its route, and
renders what comes of it. -/
namespace DatasetService.Http

structure Server (σ : Type) where
  settings : Settings := {}
  backend : Backend σ
  /-- The time that is told to clients. -/
  now : Instant
  /-- When the server shuts down and cancels every request. -/
  shutdownAt : Option Nat := none

/-- A JSON value as a response. -/
def Response.json (status : Nat) (value : Json.Value) : Response :=
  Response.text status jsonType value.compact

def Response.ofError (error : ApiError) : Response := Response.json error.status error.encode

def Response.ofEnvelope (envelope : Envelope) : Response :=
  Response.json envelope.status envelope.encode

def internalFailure (detail : String) : ApiError := .internal detail

/-- The value of content that must be JSON. -/
def contentValue (content : Payload) : Except ApiError Json.Value :=
  match content with
  | .bytes bytes =>
      match Json.parse bytes with
      | .ok value => .ok value
      | .error error => .error (internalFailure error.message)
  | .archive _ => .error (internalFailure "an archive is not JSON")

/-- A header that says something, without the blanks around it. -/
def headerText? (request : Request) (name : String) : Option String :=
  ((request.header? name).map fun value => String.ofList (Text.trim value.toList)).filter
    (· != "")

/-- Who makes a request. -/
def Request.owner (request : Request) : Owner :=
  { peername := headerText? request "x-peername"
    profileId := headerText? request "x-profile-id" }

/-- The length that a request declares for its body. -/
def Request.declaredLength? (request : Request) : Option Nat :=
  (request.header? "content-length").bind fun text => Literal.count? text.toList

/-- Whether a request asks for the head alone of what a route would answer. -/
def Request.asksForHead (request : Request) : Bool :=
  request.method == "HEAD" && (Route.ofPath? request.at.path).any fun (route, _) =>
    (route.operation? request.method).isSome

/-- A body is read up to its declared length, and no further than the server allows. -/
def Request.content (request : Request) (maxBytes : Nat) : Content :=
  Content.upTo (min maxBytes (request.declaredLength?.getD maxBytes)) request.body

/-- The reference in a path. -/
def decodeReference (captured : Option (List Char)) : Except ApiError (Option String) :=
  match captured with
  | none => .ok none
  | some raw =>
      match Text.stringOf? (Text.percentDecode (Text.encode raw)) with
      | some text => .ok (some text)
      | none => .error (.badRequest "Invalid URL: Invalid UTF-8 in \x60reference\x60")

/-- Fill the parameters of an operation. -/
def bindRequest (shape : ParamShape) (maxBytes : Nat) (request : Request)
    (captured : Option (List Char)) : Except ApiError shape.Params := do
  let reference ← decodeReference captured
  let body ← Body.values request (request.content maxBytes)
  Binding.bind shape
    { reference, owner := request.owner.peername, query := request.query, body
      accept := request.header? "accept" }

namespace Server

variable {σ : Type}

def remotes (server : Server σ) : History.Remotes :=
  { defaultRemote := server.settings.defaultRemote, fetchTimeout := server.settings.fetchTimeout }

def registry (server : Server σ) : Registry σ := Command.registry server.backend server.remotes

/-- Fill the parameters of an operation from a request. -/
def bound (server : Server σ) (shape : ParamShape) (request : Request)
    (captured : Option (List Char)) : Action σ shape.Params :=
  Action.ofExcept (bindRequest shape server.settings.maxUploadBytes request captured)

/-- What is told of the server itself. -/
def health (server : Server σ) : Response :=
  Response.json 200 (.object
    [("status", .string "healthy"),
     ("api_version", .string server.settings.apiVersion),
     ("read_only", .bool server.settings.readOnly),
     ("timestamp", .string server.now.offsetText)])

/-- A page of versions, with the addresses of the pages beside it. -/
def versionPage (base : String) (page : PageToken) (items : List Version) : Response :=
  Response.ofEnvelope
    { data := Version.encodeAll items
      pagination := some (Pagination.of base page items.length) }

/-- Content in a format: JSON goes into an envelope, all else is sent as it is. -/
def contentResponse (format : Format) (contentType : String) (disposition : Option String)
    (content : Payload) : Except ApiError Response :=
  match format with
  | .json => do
      let data ← contentValue content
      return Response.ofEnvelope { data }
  | _ => .ok
      { status := 200, contentType := some contentType
        disposition := disposition.filter isHeaderValue, body := content }

def versionResponse (status : Nat) (version : Version) : Response :=
  Response.ofEnvelope { status, data := version.encode }

/-- An image cannot be sent if its type cannot be written into a header. -/
def imageResponse (image : Image) : Response :=
  if isHeaderValue image.contentType then
    { status := 200, contentType := some image.contentType, body := .bytes image.bytes }
  else Response.text 500 plainTextType "failed to parse header value"

/-- An archive is saved under the name of its dataset. -/
def archiveDisposition (format : Format) (name : String) : Option String :=
  if format = .zip then some ("attachment; filename=\"" ++ name ++ ".zip\"") else none

def history (server : Server σ) (scope : Scope) (params : LogParams) : Action σ Response := do
  let base := "/history/" ++ params.reference.slug
  let (resolution, metadata) ←
    server.registry.call scope Command.logName { type := .logParams, value := params }
      .resolution
  let resolution : Resolution := resolution
  return versionPage base (metadata.page.getD resolution.page) resolution.items

def query (server : Server σ) (scope : Scope) (params : SqlParams) : Action σ Response := do
  let (content, metadata) ←
    server.registry.call scope Command.sqlName { type := .sqlParams, value := params }
      .content
  let contentType := metadata.contentType.getD params.outputFormat.contentType
  Action.ofExcept (contentResponse params.outputFormat contentType none content)

def get (server : Server σ) (scope : Scope) (params : GetParams) : Action σ Response := do
  let answer ← scope.perform server.backend (.get params.reference params.format)
  let content ← Action.ofStore answer
  Action.ofExcept (contentResponse params.format params.format.contentType
    (archiveDisposition params.format params.reference.name) content)

def list (server : Server σ) (scope : Scope) (params : ListParams) : Action σ Response := do
  let (items, metadata) ←
    server.registry.call scope Command.listName { type := .listParams, value := params }
      .versions
  let items : List Version := items
  match metadata.page with
  | some page => return versionPage "/list" page items
  | none => return Response.ofEnvelope { data := Version.encodeAll items }

/-- The remote that a dataset is published to. -/
def publishRemote (server : Server σ) (params : PublishParams) : String :=
  History.fallbackRemote params.remote server.settings.defaultRemote

def publish (server : Server σ) (scope : Scope) (params : PublishParams) :
    Action σ Response := do
  let answer ←
    scope.perform server.backend (.publish params.reference (server.publishRemote params))
  let version ← Action.ofStore answer
  return versionResponse 200 version

def unpublish (server : Server σ) (scope : Scope) (params : PublishParams) :
    Action σ Response := do
  let answer ←
    scope.perform server.backend (.unpublish params.reference (server.publishRemote params))
  let version ← Action.ofStore answer
  return versionResponse 200 version

def save (server : Server σ) (scope : Scope) (params : SaveParams) : Action σ Response := do
  let answer ← scope.perform server.backend (.save params.reference params.request)
  let version ← Action.ofStore answer
  return versionResponse 201 version

/-- Whose image is asked for: without a name and an identifier the caller's own. -/
def imageSubject (owner : Owner) (params : ProfileImageParams) : Option String × Option String :=
  if params.peername.isNone && params.id.isNone then (owner.peername, owner.profileId)
  else (params.peername, params.id)

def image (server : Server σ) (scope : Scope) (kind : ImageKind) (owner : Owner)
    (params : ProfileImageParams) : Action σ Response := do
  let (peername, id) := imageSubject owner params
  if peername.isNone && id.isNone then
    Action.fail (.badRequest "either peername or id is required")
  else
    let answer ← scope.perform server.backend (.image kind peername id)
    let image ← Action.ofStore answer
    return imageResponse image

/-- Bind the parameters of an operation and run it. -/
def run (server : Server σ) (scope : Scope) (request : Request) (captured : Option (List Char))
    (operation : Operation) : Action σ Response :=
  match operation with
  | .health => return server.health
  | .history => do server.history scope (← server.bound .log request captured)
  | .query => do server.query scope (← server.bound .sql request captured)
  | .get => do server.get scope (← server.bound .get request captured)
  | .list => do server.list scope (← server.bound .list request captured)
  | .publish => do server.publish scope (← server.bound .publish request captured)
  | .unpublish => do server.unpublish scope (← server.bound .publish request captured)
  | .save => do server.save scope (← server.bound .save request captured)
  | .image kind => do
      server.image scope kind request.owner (← server.bound .profileImage request captured)

/-- Run an action for its response; an action that waits for ever has none. -/
def respond (action : Action σ Response) : StateM (World σ) (Option Response) := do
  match ← action.run with
  | .ok response => return some response
  | .error (.failed error) => return some (Response.ofError error)
  | .error .pending => return none

/-- Answer a request on a route, after the gate of a read-only server. -/
def answer (server : Server σ) (request : Request) (route : Route) (captured : Option (List Char))
    (operation : Operation) : StateM (World σ) (Option Response) := do
  let world ← getThe (World σ)
  let scope := Scope.starting world.clock server.shutdownAt server.settings.requestTimeout
  respond do
    Action.ofExcept (Access.check server.settings.readOnly route.pattern)
    server.run scope request captured operation

/-- Find the operation of a request and answer it. -/
def dispatch (server : Server σ) (request : Request) : StateM (World σ) (Option Response) :=
  let path := String.ofList request.at.path
  match Route.ofPath? request.at.path with
  | none => return some (Response.ofError (.unknownRoute path))
  | some (route, captured) =>
      match route.operation? request.method with
      | none => return some (Response.ofError (.unknownRoute (request.method ++ " " ++ path)))
      | some operation => server.answer request route captured operation

/-- The version that every response tells. -/
def toldVersion (settings : Settings) : String :=
  if isHeaderValue settings.apiVersion then settings.apiVersion else "unknown"

/-- Whether a request declares more than the server reads. -/
def declaresTooMuch (server : Server σ) (request : Request) : Bool :=
  request.declaredLength?.any (server.settings.maxUploadBytes < ·)

/-- A response as a request gets it: with the version of the server, and without its body if
only the head is asked for. -/
def present (server : Server σ) (request : Request) (response : Response) : Response :=
  { response with
    body := if request.asksForHead then .bytes [] else response.body
    apiVersion := some (toldVersion server.settings) }

/-- Answer a request. One that declares too long a body goes no further. -/
def serve (server : Server σ) (request : Request) : StateM (World σ) (Option Response) := do
  let response ←
    if server.declaresTooMuch request then
      pure (some (Response.text 413 plainTextType "length limit exceeded"))
    else server.dispatch request
  return response.map (server.present request)

end Server
end DatasetService.Http
