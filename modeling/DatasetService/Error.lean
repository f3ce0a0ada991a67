import DatasetService.Reference.Basic

set_option autoImplicit false

/- Failures of the stores, and what a client is told of them. -/
namespace DatasetService

/-- Why a store does not answer. -/
inductive StoreError
  /-- The dataset or the version is absent. -/
  | notFound (what : String)
  /-- The dataset has no version. -/
  | noHistory (reference : String)
  /-- The request makes sense, but the store cannot serve it. -/
  | invalid (message : String)
  /-- A remote failed. -/
  | remoteFailure (message : String)
  | internal (message : String)
deriving DecidableEq, Repr

def StoreError.message : StoreError → String
  | .notFound what => what ++ " not found"
  | .noHistory reference => reference ++ " has no history"
  | .invalid message => message
  | .remoteFailure message => message
  | .internal message => message

/-- Every failure that is reported to a client. -/
inductive ApiError
  | reference (error : Reference.Error)
  | formatConflict (requested other : String)
  | badRequest (message : String)
  | forbidden (route : String)
  | noHistory (reference : String)
  | notFound (what : String)
  /-- A dataset that was demanded from local history is absent. -/
  | localUnavailable (reference : String)
  | unknownRoute (route : String)
  | unknownCommand (name : String)
  | dispatchType (command expected : String)
  | remoteFailure (message : String)
  | canceled
  | deadlineExceeded
  /-- Details of an internal failure are not for the client. -/
  | internal (detail : String)
deriving DecidableEq, Repr

namespace ApiError

def message : ApiError → String
  | .reference error => error.message
  | .formatConflict requested other =>
      "format \"" ++ requested ++ "\" conflicts with " ++ other
  | .badRequest message => message
  | .forbidden route => route ++ " is not available in read-only mode"
  | .noHistory dataset => "dataset " ++ dataset ++ " has no history"
  | .notFound what => what ++ " not found"
  | .localUnavailable dataset => "dataset " ++ dataset ++ " is not available locally"
  | .unknownRoute route => "no route for " ++ route
  | .unknownCommand name => "unknown command \"" ++ name ++ "\""
  | .dispatchType command expected =>
      "command \"" ++ command ++ "\" exchanged a value of an unexpected type (expected " ++
        expected ++ ")"
  | .remoteFailure message => "remote request failed: " ++ message
  | .canceled => "request canceled"
  | .deadlineExceeded => "request deadline exceeded"
  | .internal _ => "internal server error"

/-- The status code of a failure. There is no registered one for a canceled request. -/
def status : ApiError → Nat
  | .reference _ | .formatConflict _ _ | .badRequest _ => 400
  | .forbidden _ => 403
  | .noHistory _ => 422
  | .notFound _ | .unknownRoute _ | .unknownCommand _ => 404
  | .canceled => 499
  | .deadlineExceeded => 504
  | .localUnavailable _ | .dispatchType _ _ | .remoteFailure _ | .internal _ => 500

def ofStore : StoreError → ApiError
  | .notFound what => .notFound what
  | .noHistory dataset => .noHistory dataset
  | .invalid message => .badRequest message
  | .remoteFailure message => .remoteFailure message
  | .internal message => .internal message

end ApiError
end DatasetService
