import DatasetService.Config.Basic
import DatasetService.Json.Form
import DatasetService.Page.Token
import DatasetService.Binding.Params

set_option autoImplicit false

/- The JSON forms of the values that are sent and received. Members are written in a fixed
order, and most of those with nothing to say are left out. -/
namespace DatasetService

open Json (Form Value optionalMember asString? asBool? asCount?)

def Format.form : Form Format := Form.choice Format.name Format.ofExactName?

def ImageKind.form : Form ImageKind := Form.choice ImageKind.name ImageKind.ofName?

namespace Reference

def encode (reference : Reference) : Value :=
  .object
    ([("username", .string reference.username)] ++
     optionalMember "name"
       (if reference.hasName then some (.string reference.name) else none) ++
     optionalMember "path" (reference.path.map .string) ++
     optionalMember "selector" (reference.selector.map .string))

/-- Only the user name must be given. -/
def decode (value : Value) : Option Reference := do
  let username ← Json.required asString? value 0 "username"
  let name ← Json.defaulted asString? "" value 1 "name"
  let path ← Json.defaulted Json.asOptionalString? none value 2 "path"
  let selector ← Json.defaulted Json.asOptionalString? none value 3 "selector"
  return { username, name, path, selector }

def form : Form Reference where
  shape := .record [("username", .any), ("name", .any), ("path", .any), ("selector", .any)]
  encode := encode
  decode := decode

end Reference

def Instant.decode (value : Value) : Option Instant := (asString? value).bind Instant.ofText?

namespace Version

def encode (version : Version) : Value :=
  .object
    ([("username", .string version.username),
      ("name", .string version.name),
      ("path", .string version.path)] ++
     optionalMember "profile_id" (version.profileId.map .string) ++
     [("commit_time", .string version.commitTime.text),
      ("commit_title", .string version.commitTitle)] ++
     optionalMember "commit_message" (version.commitMessage.map .string) ++
     [("body_rows", .ofNat version.bodyRows),
      ("body_size", .ofNat version.bodySize),
      ("published", .bool version.published),
      ("foreign", .bool version.foreign)])

def decode (value : Value) : Option Version := do
  let username ← Json.required asString? value 0 "username"
  let name ← Json.required asString? value 1 "name"
  let path ← Json.required asString? value 2 "path"
  let profileId ← Json.optional asString? value 3 "profile_id"
  let commitTime ← Json.required Instant.decode value 4 "commit_time"
  let commitTitle ← Json.required asString? value 5 "commit_title"
  let commitMessage ← Json.optional asString? value 6 "commit_message"
  let bodyRows ← Json.required (asCount? maxCount) value 7 "body_rows"
  let bodySize ← Json.required (asCount? maxCount) value 8 "body_size"
  let published ← Json.required asBool? value 9 "published"
  let foreign ← Json.required asBool? value 10 "foreign"
  return { username, name, path, profileId, commitTime, commitTitle, commitMessage,
           bodyRows, bodySize, published, foreign }

def form : Form Version where
  shape := .record
    [("username", .any), ("name", .any), ("path", .any), ("profile_id", .any),
     ("commit_time", .any), ("commit_title", .any), ("commit_message", .any),
     ("body_rows", .any), ("body_size", .any), ("published", .any), ("foreign", .any)]
  encode := encode
  decode := decode

/-- A list of versions, as it is sent. -/
def encodeAll (versions : List Version) : Value := .array (versions.map encode)

end Version

namespace PageToken

def encode (token : PageToken) : Value :=
  .object
    ([("page", .ofNat token.page),
      ("page_size", .ofNat token.pageSize),
      ("limit", .ofNat token.limit),
      ("offset", .ofNat token.offset)] ++
     optionalMember "order_by" (token.orderBy.map .string))

def decode (value : Value) : Option PageToken := do
  let page ← Json.required (asCount? maxCount) value 0 "page"
  let pageSize ← Json.required (asCount? maxCount) value 1 "page_size"
  let limit ← Json.required (asCount? maxCount) value 2 "limit"
  let offset ← Json.required (asCount? maxCount) value 3 "offset"
  let orderBy ← Json.optional asString? value 4 "order_by"
  return { page, pageSize, limit, offset, orderBy }

def form : Form PageToken where
  shape := .record
    [("page", .any), ("page_size", .any), ("limit", .any), ("offset", .any), ("order_by", .any)]
  encode := encode
  decode := decode

end PageToken

namespace Owner

/-- Both members are written, as null if need be. -/
def encode (owner : Owner) : Value :=
  .object
    [("peername", Json.ofOptional owner.peername),
     ("profile_id", Json.ofOptional owner.profileId)]

def decode (value : Value) : Option Owner := do
  let peername ← Json.optional asString? value 0 "peername"
  let profileId ← Json.optional asString? value 1 "profile_id"
  return { peername, profileId }

def form : Form Owner where
  shape := .record [("peername", .any), ("profile_id", .any)]
  encode := encode
  decode := decode

end Owner

namespace ServerConfig

def shape : Json.Shape := .record
  [("host", .any), ("port", .any), ("read_only", .any), ("api_version", .any),
   ("max_upload_bytes", .any), ("request_timeout_secs", .any)]

def encode (config : ServerConfig) : Value :=
  .object
    [("host", .string config.host),
     ("port", .ofNat config.port),
     ("read_only", .bool config.readOnly),
     ("api_version", .string config.apiVersion),
     ("max_upload_bytes", .ofNat config.maxUploadBytes),
     ("request_timeout_secs", .ofNat config.requestTimeoutSecs)]

def decode (value : Value) : Option ServerConfig := do
  let host ← Json.required asString? value 0 "host"
  let port ← Json.required (asCount? maxPort) value 1 "port"
  let readOnly ← Json.required asBool? value 2 "read_only"
  let apiVersion ← Json.required asString? value 3 "api_version"
  let maxUploadBytes ← Json.required (asCount? maxCount) value 4 "max_upload_bytes"
  let requestTimeoutSecs ← Json.required (asCount? maxCount) value 5 "request_timeout_secs"
  return { host, port, readOnly, apiVersion, maxUploadBytes, requestTimeoutSecs }

end ServerConfig

namespace RemoteConfig

def shape : Json.Shape := .record [("default_remote", .any), ("fetch_timeout_secs", .any)]

def encode (config : RemoteConfig) : Value :=
  .object
    [("default_remote", .string config.defaultRemote),
     ("fetch_timeout_secs", .ofNat config.fetchTimeoutSecs)]

def decode (value : Value) : Option RemoteConfig := do
  let defaultRemote ← Json.required asString? value 0 "default_remote"
  let fetchTimeoutSecs ← Json.required (asCount? maxCount) value 1 "fetch_timeout_secs"
  return { defaultRemote, fetchTimeoutSecs }

end RemoteConfig

namespace StoreConfig

def shape : Json.Shape := .record [("load_seed_data", .any)]

def encode (config : StoreConfig) : Value :=
  .object [("load_seed_data", .bool config.loadSeedData)]

def decode (value : Value) : Option StoreConfig := do
  let loadSeedData ← Json.required asBool? value 0 "load_seed_data"
  return { loadSeedData }

end StoreConfig

namespace AppConfig

def encode (config : AppConfig) : Value :=
  .object
    [("server", config.server.encode),
     ("remote", config.remote.encode),
     ("store", config.store.encode)]

def decode (value : Value) : Option AppConfig := do
  let server ← Json.required ServerConfig.decode value 0 "server"
  let remote ← Json.required RemoteConfig.decode value 1 "remote"
  let store ← Json.required StoreConfig.decode value 2 "store"
  return { server, remote, store }

def form : Form AppConfig where
  shape := .record
    [("server", ServerConfig.shape), ("remote", RemoteConfig.shape),
     ("store", StoreConfig.shape)]
  encode := encode
  decode := decode

end AppConfig

/-- The window of a list request, with its order and filters. -/
def ListParams.encode (params : ListParams) : Value :=
  .object
    ([("limit", .ofNat params.limit), ("offset", .ofNat params.offset)] ++
     optionalMember "order_by" (params.orderBy.map .string) ++
     optionalMember "peername" (params.peername.map .string) ++
     optionalMember "published" (params.published.map .bool))

def Pagination.encode (pagination : Pagination) : Value :=
  .object
    ([("page", .ofNat pagination.page),
      ("page_size", .ofNat pagination.pageSize),
      ("limit", .ofNat pagination.limit),
      ("offset", .ofNat pagination.offset)] ++
     optionalMember "next_url" (pagination.nextUrl.map .string) ++
     optionalMember "prev_url" (pagination.prevUrl.map .string))

/-- What a successful answer in JSON holds. -/
structure Envelope where
  status : Nat := 200
  data : Value
  pagination : Option Pagination := none
deriving BEq, Repr

def Envelope.encode (envelope : Envelope) : Value :=
  .object
    ([("meta", .object [("code", .ofNat envelope.status)]), ("data", envelope.data)] ++
     optionalMember "pagination" (envelope.pagination.map Pagination.encode))

/-- What a failed answer holds. -/
def errorDocument (status : Nat) (message : String) : Value :=
  .object [("code", .ofNat status), ("error", .string message)]

def ApiError.encode (error : ApiError) : Value := errorDocument error.status error.message

theorem Format.form_lawful : Format.form.Lawful :=
  Form.choice_lawful _ _ Format.ofExactName_name

end DatasetService
