import DatasetService.Backend
import DatasetService.Page.Token
import DatasetService.Store.Basic

set_option autoImplicit false

/- The version history of a dataset: that of this node, or else that of a remote. -/
namespace DatasetService

/-- Which history answered. -/
inductive Origin
  | here
  | remote
deriving DecidableEq, Repr

def Origin.name : Origin → String
  | .here => "local"
  | .remote => "remote"

structure Resolution where
  items : List Version
  page : PageToken
  origin : Origin
deriving DecidableEq, Repr

namespace History

/-- What follows the answer of local history. -/
inductive Stage
  | resolved (resolution : Resolution)
  | remoteFallback (remote : String)
  | failed (error : ApiError)
deriving DecidableEq, Repr

/-- Where to look besides local history, and how long to wait for it in milliseconds. -/
structure Remotes where
  defaultRemote : String := registryName
  fetchTimeout : Nat := 15000
deriving DecidableEq, Repr

/-- Local history alone cannot be asked together with a remote. -/
def checkSources (params : LogParams) : Except ApiError Unit :=
  if params.isLocal && (params.remote.isSome || params.pull) then
    .error (.badRequest "cannot combine \"local\" with \"remote\" or \"pull\"")
  else .ok ()

/-- The remote to ask: the one requested, if it is not blank, or the configured one. The
default registry is called by the empty name. -/
def fallbackRemote (requested : Option String) (defaultRemote : String) : String :=
  let named := (requested.map fun name => String.ofList (Text.trim name.toList)).filter (· != "")
  let remote := named.getD defaultRemote
  if remote = registryName then "" else remote

def afterLocal (params : LogParams) (defaultRemote : String)
    (answer : Except StoreError (List Version)) : Stage :=
  match answer with
  | .ok items => .resolved { items, page := params.list.page, origin := .here }
  | .error (.noHistory _) => .failed (.noHistory params.reference.slug)
  | .error (.notFound _) =>
      if params.isLocal then .failed (.localUnavailable params.reference.slug)
      else .remoteFallback (fallbackRemote params.remote defaultRemote)
  | .error error => .failed (.ofStore error)

/-- What a failure of a remote means. Its internal failures are not told. -/
def fetchFailure (reference : String) : StoreError → ApiError
  | .notFound _ => .notFound reference
  | .noHistory _ => .noHistory reference
  | .invalid message => .remoteFailure message
  | .remoteFailure message => .remoteFailure message
  | .internal _ => .remoteFailure ("could not fetch history of " ++ reference)

/-- The window of a remote's whole history. -/
def windowed (params : ListParams) (items : List Version) : Resolution :=
  let window := Window.clamp params.limit params.offset
  { items := window.slice items
    page := PageToken.ofWindow window.limit window.offset
    origin := .remote }

variable {σ : Type}

def fetchRemote (backend : Backend σ) (scope : Scope) (remotes : Remotes) (params : LogParams)
    (remote : String) : Action σ Resolution := do
  let reference := params.reference.slug
  match ← scope.performWithin remotes.fetchTimeout backend (.fetch params.reference remote) with
  | none => Action.fail (.remoteFailure ("fetching history of " ++ reference ++ " timed out"))
  | some (.error error) => Action.fail (fetchFailure reference error)
  | some (.ok items) => return windowed params.list items

/-- Find the history of a dataset: local history first, unless the remote is asked for, and
a remote where the dataset is not known locally. -/
def resolve (backend : Backend σ) (scope : Scope) (remotes : Remotes) (params : LogParams) :
    Action σ Resolution := do
  Action.ofExcept (checkSources params)
  if params.pull then
    fetchRemote backend scope remotes params
      (fallbackRemote params.remote remotes.defaultRemote)
  else
    let answer ← scope.perform backend (.log params.reference params.list)
    match afterLocal params remotes.defaultRemote answer with
    | .resolved resolution => return resolution
    | .remoteFallback remote => fetchRemote backend scope remotes params remote
    | .failed error => Action.fail error

end History
end DatasetService
