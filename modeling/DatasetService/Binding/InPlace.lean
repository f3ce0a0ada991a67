import DatasetService.Binding.Params

set_option autoImplicit false

/- Putting values into parameters in place. What a refusal leaves behind are the parameters as
they are at that point. -/
namespace DatasetService

/-- Work on parameters, which may say why it does not go on. -/
abbrev Filling (σ α : Type) : Type := ExceptT String (StateM σ) α

namespace Filling

variable {σ τ : Type}

def refuse (field : String) (value : BoundValue) : Filling σ Unit := throw (mismatch field value)

/-- Work on a part of the parameters, and leave the rest of them. -/
def onPart (part : σ → τ) (put : τ → σ → σ) (filling : Filling τ Unit) : Filling σ Unit :=
  ExceptT.mk fun params =>
    let (result, after) := filling.run.run (part params)
    (result, put after params)

end Filling

def ListParams.fillWindow (field : String) (value : BoundValue) : Filling ListParams Unit :=
  match field, value with
  | "limit", .count limit => modify fun params => { params with limit }
  | "offset", .count offset => modify fun params => { params with offset }
  | _, _ => Filling.refuse field value

def ListParams.fill (field : String) (value : BoundValue) : Filling ListParams Unit :=
  match field, value with
  | "order_by", .text text => modify fun params => { params with orderBy := some text }
  | "peername", .text text => modify fun params => { params with peername := some text }
  | "published", .flag flag => modify fun params => { params with published := some flag }
  | _, _ => fillWindow field value

def LogParams.fill (field : String) (value : BoundValue) : Filling LogParams Unit :=
  match field, value with
  | "reference", .reference reference => modify fun params => { params with reference }
  | "local", .flag isLocal => modify fun params => { params with isLocal }
  | "remote", .text remote => modify fun params => { params with remote := nonempty remote }
  | "pull", .flag pull => modify fun params => { params with pull }
  | _, _ =>
      Filling.onPart LogParams.list (fun list params => { params with list })
        (ListParams.fillWindow field value)

def GetParams.fill (field : String) (value : BoundValue) : Filling GetParams Unit :=
  match field, value with
  | "reference", .reference reference => modify fun params => { params with reference }
  | "format", .format format => modify fun params => { params with format }
  | _, _ => Filling.refuse field value

def SqlParams.fill (field : String) (value : BoundValue) : Filling SqlParams Unit :=
  match field, value with
  | "query", .text query => modify fun params => { params with query }
  | "output_format", .format outputFormat => modify fun params => { params with outputFormat }
  | _, _ => Filling.refuse field value

def PublishParams.fill (field : String) (value : BoundValue) : Filling PublishParams Unit :=
  match field, value with
  | "reference", .reference reference => modify fun params => { params with reference }
  | "remote", .text remote => modify fun params => { params with remote := nonempty remote }
  | _, _ => Filling.refuse field value

def SaveParams.fill (field : String) (value : BoundValue) : Filling SaveParams Unit :=
  match field, value with
  | "reference", .reference reference => modify fun params => { params with reference }
  | "title", .text title => modify fun params => { params with title := some title }
  | "message", .text message => modify fun params => { params with message := some message }
  | "body", .file body => modify fun params => { params with body := some body }
  | _, _ => Filling.refuse field value

def ProfileImageParams.fill (field : String) (value : BoundValue) :
    Filling ProfileImageParams Unit :=
  match field, value with
  | "peername", .text peername => modify fun params => { params with peername := nonempty peername }
  | "id", .text id => modify fun params => { params with id := nonempty id }
  | _, _ => Filling.refuse field value

/-- Put a value into a field, in place. -/
def ParamShape.fill : (shape : ParamShape) → String → BoundValue → Filling shape.Params Unit
  | .list => ListParams.fill
  | .log => LogParams.fill
  | .get => GetParams.fill
  | .sql => SqlParams.fill
  | .publish => PublishParams.fill
  | .save => SaveParams.fill
  | .profileImage => ProfileImageParams.fill

end DatasetService
