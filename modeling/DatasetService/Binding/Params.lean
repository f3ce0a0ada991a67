import DatasetService.Binding.Manifest
import DatasetService.Page.Token
import DatasetService.Text.Blank

set_option autoImplicit false

/- The parameters of each kind of request: their manifests, how a value is put into a
field, and what must hold of all fields together. -/
namespace DatasetService

def orderByUpdated : String := "updated"

def orderByName : String := "name"

/-- A window onto a list, with an order and filters. -/
structure ListParams where
  limit : Nat := defaultLimit
  offset : Nat := 0
  orderBy : Option String := none
  peername : Option String := none
  published : Option Bool := none
deriving DecidableEq, Repr, Inhabited

/-- The page on which the window lies. -/
def ListParams.page (params : ListParams) : PageToken :=
  (PageToken.ofWindow params.limit params.offset).withOrder params.orderBy

structure LogParams where
  reference : Reference := {}
  list : ListParams := {}
  /-- Ask local history alone. -/
  isLocal : Bool := false
  /-- The remote to fall back to, if not the configured one. -/
  remote : Option String := none
  /-- Ask the remote before local history. -/
  pull : Bool := false
deriving DecidableEq, Repr, Inhabited

structure GetParams where
  reference : Reference := {}
  format : Format := .json
deriving DecidableEq, Repr, Inhabited

structure SqlParams where
  query : String := ""
  outputFormat : Format := .json
deriving DecidableEq, Repr, Inhabited

structure PublishParams where
  reference : Reference := {}
  remote : Option String := none
deriving DecidableEq, Repr, Inhabited

structure SaveParams where
  reference : Reference := {}
  title : Option String := none
  message : Option String := none
  body : Option Upload := none
deriving DecidableEq, Repr, Inhabited

def SaveParams.request (params : SaveParams) : SaveRequest :=
  { title := params.title, message := params.message, body := params.body }

structure ProfileImageParams where
  peername : Option String := none
  id : Option String := none
deriving DecidableEq, Repr, Inhabited

/-- A text that is there only if it is not empty. -/
def nonempty (text : String) : Option String := if text = "" then none else some text

def ListParams.manifest : List FieldSpec :=
  [{ name := "limit", kind := .limit }, { name := "offset", kind := .offset },
   { name := "order_by", kind := .text }, { name := "peername", kind := .text },
   { name := "published", kind := .flag }]

def ListParams.assignWindow (params : ListParams) (field : String) (value : BoundValue) :
    Except String ListParams :=
  match field, value with
  | "limit", .count limit => .ok { params with limit }
  | "offset", .count offset => .ok { params with offset }
  | _, _ => .error (mismatch field value)

def ListParams.assign (params : ListParams) (field : String) (value : BoundValue) :
    Except String ListParams :=
  match field, value with
  | "order_by", .text text => .ok { params with orderBy := some text }
  | "peername", .text text => .ok { params with peername := some text }
  | "published", .flag flag => .ok { params with published := some flag }
  | _, _ => params.assignWindow field value

def ListParams.validate (params : ListParams) : Except String Unit :=
  match params.orderBy with
  | none => .ok ()
  | some order =>
      if order = orderByUpdated || order = orderByName then .ok ()
      else .error ("order_by must be \"" ++ orderByUpdated ++ "\" or \"" ++ orderByName ++
        "\", got \"" ++ order ++ "\"")

/-- A reference that must name a dataset and not only a user. -/
def requireName (reference : Reference) : Except String Unit :=
  if reference.hasName then .ok ()
  else .error ("reference \"" ++ reference.text ++
    "\" must name a dataset (username/name)")

def referenceField : FieldSpec := { name := "reference", kind := .reference, required := true }

def LogParams.manifest : List FieldSpec :=
  [referenceField, { name := "limit", kind := .limit }, { name := "offset", kind := .offset },
   { name := "local", kind := .flag }, { name := "remote", kind := .text },
   { name := "pull", kind := .flag }]

def LogParams.assign (params : LogParams) (field : String) (value : BoundValue) :
    Except String LogParams :=
  match field, value with
  | "reference", .reference reference => .ok { params with reference }
  | "local", .flag isLocal => .ok { params with isLocal }
  | "remote", .text remote => .ok { params with remote := nonempty remote }
  | "pull", .flag pull => .ok { params with pull }
  | _, _ => (params.list.assignWindow field value).map fun list => { params with list }

def LogParams.validate (params : LogParams) : Except String Unit :=
  requireName params.reference

def GetParams.manifest : List FieldSpec :=
  [referenceField, { name := "format", kind := .format }]

def GetParams.assign (params : GetParams) (field : String) (value : BoundValue) :
    Except String GetParams :=
  match field, value with
  | "reference", .reference reference => .ok { params with reference }
  | "format", .format format => .ok { params with format }
  | _, _ => .error (mismatch field value)

def GetParams.validate (params : GetParams) : Except String Unit := do
  requireName params.reference
  if params.format = .zip && params.reference.selector.isSome then
    .error
      "zip format exports a whole dataset and cannot be combined with a selector"
  else .ok ()

def SqlParams.manifest : List FieldSpec :=
  [{ name := "query", kind := .text, required := true },
   { name := "output_format", kind := .format }]

def SqlParams.assign (params : SqlParams) (field : String) (value : BoundValue) :
    Except String SqlParams :=
  match field, value with
  | "query", .text query => .ok { params with query }
  | "output_format", .format outputFormat => .ok { params with outputFormat }
  | _, _ => .error (mismatch field value)

def SqlParams.validate (params : SqlParams) : Except String Unit :=
  if Text.isBlankText params.query.toList then .error "query must not be empty"
  else if params.outputFormat = .zip then .error "sql output_format must be json or csv"
  else .ok ()

def PublishParams.manifest : List FieldSpec :=
  [referenceField, { name := "remote", kind := .text }]

def PublishParams.assign (params : PublishParams) (field : String) (value : BoundValue) :
    Except String PublishParams :=
  match field, value with
  | "reference", .reference reference => .ok { params with reference }
  | "remote", .text remote => .ok { params with remote := nonempty remote }
  | _, _ => .error (mismatch field value)

def PublishParams.validate (params : PublishParams) : Except String Unit :=
  requireName params.reference

def SaveParams.manifest : List FieldSpec :=
  [referenceField, { name := "title", kind := .text }, { name := "message", kind := .text },
   { name := "body", kind := .file }]

def SaveParams.assign (params : SaveParams) (field : String) (value : BoundValue) :
    Except String SaveParams :=
  match field, value with
  | "reference", .reference reference => .ok { params with reference }
  | "title", .text title => .ok { params with title := some title }
  | "message", .text message => .ok { params with message := some message }
  | "body", .file body => .ok { params with body := some body }
  | _, _ => .error (mismatch field value)

def SaveParams.validate (params : SaveParams) : Except String Unit := do
  requireName params.reference
  if params.reference.path.isSome || params.reference.selector.isSome then
    .error "save targets a dataset, not a version or selector"
  else .ok ()

def ProfileImageParams.manifest : List FieldSpec :=
  [{ name := "peername", kind := .text }, { name := "id", kind := .text }]

def ProfileImageParams.assign (params : ProfileImageParams) (field : String)
    (value : BoundValue) : Except String ProfileImageParams :=
  match field, value with
  | "peername", .text peername => .ok { params with peername := nonempty peername }
  | "id", .text id => .ok { params with id := nonempty id }
  | _, _ => .error (mismatch field value)

/-- The kinds of parameters. -/
inductive ParamShape
  | list
  | log
  | get
  | sql
  | publish
  | save
  | profileImage
deriving DecidableEq, Repr

namespace ParamShape

abbrev Params : ParamShape → Type
  | .list => ListParams
  | .log => LogParams
  | .get => GetParams
  | .sql => SqlParams
  | .publish => PublishParams
  | .save => SaveParams
  | .profileImage => ProfileImageParams

/-- The parameters before any field is filled. -/
def initial : (shape : ParamShape) → shape.Params
  | .list => ({} : ListParams)
  | .log => ({} : LogParams)
  | .get => ({} : GetParams)
  | .sql => ({} : SqlParams)
  | .publish => ({} : PublishParams)
  | .save => ({} : SaveParams)
  | .profileImage => ({} : ProfileImageParams)

def manifest : ParamShape → List FieldSpec
  | .list => ListParams.manifest
  | .log => LogParams.manifest
  | .get => GetParams.manifest
  | .sql => SqlParams.manifest
  | .publish => PublishParams.manifest
  | .save => SaveParams.manifest
  | .profileImage => ProfileImageParams.manifest

/-- Put a value into a field. -/
def assign : (shape : ParamShape) → shape.Params → String → BoundValue →
    Except String shape.Params
  | .list => ListParams.assign
  | .log => LogParams.assign
  | .get => GetParams.assign
  | .sql => SqlParams.assign
  | .publish => PublishParams.assign
  | .save => SaveParams.assign
  | .profileImage => ProfileImageParams.assign

/-- Check what must hold of all fields together. -/
def validate : (shape : ParamShape) → shape.Params → Except String Unit
  | .list => ListParams.validate
  | .log => LogParams.validate
  | .get => GetParams.validate
  | .sql => SqlParams.validate
  | .publish => PublishParams.validate
  | .save => SaveParams.validate
  | .profileImage => fun _ => .ok ()

/-- The field that holds the reference, if there is one. -/
def referenceField? (shape : ParamShape) : Option FieldSpec :=
  shape.manifest.find? fun field => field.kind = .reference

end ParamShape
end DatasetService
