import DatasetService.Binding.Params
import DatasetService.Format.Negotiation
import DatasetService.Json.Printer
import DatasetService.Reference.Transport

set_option autoImplicit false

/- Binding: filling parameters from what a request carries. Values of the body win over
those of the query, and of several values of one name the last counts. -/
namespace DatasetService.Binding

/-- A value of a request's body. -/
inductive RawValue
  | text (value : String)
  | json (value : Json.Value)
  | file (value : Upload)
deriving BEq, Repr

/-- A null says nothing. -/
def RawValue.isNull : RawValue → Bool
  | .json .null => true
  | _ => false

/-- What a request contributes. -/
structure RawInput where
  /-- The reference in the path. -/
  reference : Option String := none
  /-- The name for which the alias of the caller stands. -/
  owner : Option String := none
  query : List (String × String) := []
  body : List (String × RawValue) := []
  accept : Option String := none

def lastNamed {α : Type} (name : String) (pairs : List (String × α)) : Option α :=
  (pairs.reverse.find? fun pair => pair.1 == name).map Prod.snd

/-- The value that counts for a name. -/
def RawInput.effective (input : RawInput) (name : String) : Option RawValue :=
  (lastNamed name (input.body.filter fun pair => !pair.2.isNull)).or
    ((lastNamed name input.query).map .text)

def parameterError (field rule : String) : ApiError :=
  .badRequest ("parameter \"" ++ field ++ "\" must be " ++ rule)

/-- Text, also where a number, a truth value or a file is given for it. -/
def asText (field : String) (raw : RawValue) : Except ApiError String :=
  match raw with
  | .text text => .ok text
  | .json (.string text) => .ok text
  | .json (.number number) => .ok (Json.Value.number number).compact
  | .json (.bool flag) => .ok (Json.Value.bool flag).compact
  | .json _ => .error (parameterError field "a string")
  | .file upload =>
      match Text.stringOf? upload.bytes with
      | some text => .ok text
      | none => .error (parameterError field "UTF-8 text")

/-- A flag that is given without a value is set. -/
def flagOfText? (text : String) : Option Bool :=
  let word := String.ofList (Text.lower (Text.trim text.toList))
  if word = "" || word = "true" || word = "1" || word = "yes" || word = "on" then some true
  else if word = "false" || word = "0" || word = "no" || word = "off" then some false
  else none

def flagOfNumber? (number : Json.Number) : Option Bool :=
  if number.signed? = some 0 then some false
  else if number.signed? = some 1 then some true
  else none

def asFlag (field : String) (raw : RawValue) : Except ApiError Bool :=
  let flag := match raw with
    | .json (.bool flag) => some flag
    | .json (.number number) => flagOfNumber? number
    | .text text => flagOfText? text
    | .json (.string text) => flagOfText? text
    | _ => none
  match flag with
  | some flag => .ok flag
  | none => .error (parameterError field "a boolean")

def integerOfText? (text : String) : Option Int := Literal.signed? (Text.trim text.toList)

def asInteger (field : String) (raw : RawValue) : Except ApiError Int :=
  let value := match raw with
    | .json (.number number) => number.signed?
    | .text text => integerOfText? text
    | .json (.string text) => integerOfText? text
    | _ => none
  match value with
  | some value => .ok value
  | none => .error (parameterError field "an integer")

/-- A file, or content in place of one; JSON is written anew. -/
def asUpload (raw : RawValue) : Upload :=
  match raw with
  | .file upload => upload
  | .text text => { bytes := Text.bytesOf text }
  | .json value =>
      { contentType := some "application/json", bytes := Text.bytesOf value.compact }

/-- Apply a reading to a value that may be absent. -/
def whenGiven {α : Type} (raw : Option RawValue) (read : RawValue → Except ApiError α) :
    Except ApiError (Option α) :=
  match raw with
  | none => .ok none
  | some raw => (read raw).map some

/-- Whether a reference in the path holds more than slashes. -/
def namesSomething (raw : String) : Bool := raw.toList.any (· != '/')

def missingReference : ApiError := .badRequest "missing dataset reference"

def missingField (field : FieldSpec) : ApiError :=
  .badRequest ("missing required parameter \"" ++ field.name ++ "\"")

/-- The text of the reference: that of the path, or else of the field of its name. -/
def referenceText (field : FieldSpec) (input : RawInput) :
    Except ApiError (Option String) :=
  match input.reference.filter namesSomething with
  | some raw => .ok (some raw)
  | none => do
      let text ← whenGiven (input.effective field.name) (asText field.name)
      return text.filter (· != "")

def parseReference (field : FieldSpec) (input : RawInput) :
    Except ApiError (Option Reference) := do
  match ← referenceText field input with
  | some raw =>
      match Reference.resolve raw input.owner with
      | .ok reference => return some reference
      | .error error => .error (.reference error)
  | none => if field.required then .error missingReference else return none

/-- Parameters that are being filled, and the reference, which is put in last because the
format may still take a suffix off its selector. -/
structure Progress (shape : ParamShape) where
  params : shape.Params
  reference : Option Reference

def assigned (shape : ParamShape) (params : shape.Params) (field : String)
    (value : BoundValue) : Except ApiError shape.Params :=
  match shape.assign params field value with
  | .ok params => .ok params
  | .error message => .error (.badRequest message)

/-- The value of a field other than the reference and the format. -/
def fieldValue (field : FieldSpec) (raw : Option RawValue) :
    Except ApiError (Option BoundValue) :=
  match field.kind with
  | .limit => do
      let limit ← whenGiven raw (asInteger field.name)
      return some (.count (Window.ofSigned (limit.getD 0) 0).limit)
  | .offset => do
      let offset ← whenGiven raw (asInteger field.name)
      return some (.count (Window.ofSigned 1 (offset.getD 0)).offset)
  | .text => do
      let text ← whenGiven raw (asText field.name)
      return text.map .text
  | .flag => do
      let flag ← whenGiven raw (asFlag field.name)
      return flag.map .flag
  | .file => return raw.map fun raw => .file (asUpload raw)
  | .reference => return none
  | .format => return none

/-- Fill one field. -/
def bindField (shape : ParamShape) (input : RawInput) (progress : Progress shape)
    (field : FieldSpec) : Except ApiError (Progress shape) := do
  let raw := input.effective field.name
  match field.kind with
  | .reference => return progress
  | .format =>
      let explicit ← whenGiven raw (asText field.name)
      let selector := progress.reference.bind Reference.selector
      let result ← Negotiation.negotiate explicit selector input.accept
      let params ← assigned shape progress.params field.name (.format result.format)
      return { params
               reference := progress.reference.map fun reference =>
                 { reference with selector := result.selector } }
  | _ =>
      match ← fieldValue field raw with
      | some value =>
          let params ← assigned shape progress.params field.name value
          return { progress with params }
      | none => if field.required then .error (missingField field) else return progress

/-- Fill fields in order. -/
def bindFields (shape : ParamShape) (input : RawInput) :
    List FieldSpec → Progress shape → Except ApiError (Progress shape)
  | [], progress => .ok progress
  | field :: fields, progress => do
      let progress ← bindField shape input progress field
      bindFields shape input fields progress

def validated (shape : ParamShape) (params : shape.Params) : Except ApiError shape.Params :=
  match shape.validate params with
  | .ok () => .ok params
  | .error message => .error (.badRequest message)

/-- Fill the parameters of a shape from a request. -/
def bind (shape : ParamShape) (input : RawInput) : Except ApiError shape.Params := do
  let reference ← match shape.referenceField? with
    | some field => parseReference field input
    | none => .ok none
  let progress ← bindFields shape input shape.manifest { params := shape.initial, reference }
  let params ← match shape.referenceField?, progress.reference with
    | some field, some reference =>
        assigned shape progress.params field.name (.reference reference)
    | _, _ => .ok progress.params
  validated shape params

end DatasetService.Binding
