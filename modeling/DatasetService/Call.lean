import DatasetService.Binding.Params

set_option autoImplicit false

/- The calls that are made to a backend, and the type of the answer to each. -/
namespace DatasetService

inductive Call
  /-- A window onto the local history of a reference. -/
  | log (reference : Reference) (params : ListParams)
  /-- The whole history that a remote holds; the empty name is that of the registry. -/
  | fetch (reference : Reference) (remote : String)
  | exec (query : String) (format : Format)
  | get (reference : Reference) (format : Format)
  | list (params : ListParams)
  | save (reference : Reference) (request : SaveRequest)
  | publish (reference : Reference) (remote : String)
  | unpublish (reference : Reference) (remote : String)
  | image (kind : ImageKind) (peername id : Option String)
deriving DecidableEq, Repr

abbrev Call.Answer : Call → Type
  | .log _ _ => List Version
  | .fetch _ _ => List Version
  | .exec _ _ => Payload
  | .get _ _ => Payload
  | .list _ => List Version
  | .save _ _ => Version
  | .publish _ _ => Version
  | .unpublish _ _ => Version
  | .image _ _ _ => Image

end DatasetService
