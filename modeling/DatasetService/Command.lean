import DatasetService.History

set_option autoImplicit false

/- Commands by name. Parameters and results cross the registry as values that carry their
type, which is checked on both sides. -/
namespace DatasetService

/-- The types of values that commands exchange. -/
inductive ValueType
  | listParams
  | logParams
  | sqlParams
  | count32
  | text
  | content
  | versions
  | resolution
  | count64
deriving DecidableEq, Repr

namespace ValueType

abbrev Carrier : ValueType → Type
  | .listParams => ListParams
  | .logParams => LogParams
  | .sqlParams => SqlParams
  | .count32 => Nat
  | .text => String
  | .content => Payload
  | .versions => List Version
  | .resolution => Resolution
  | .count64 => Nat

def name : ValueType → String
  | .listParams => "list parameters"
  | .logParams => "history parameters"
  | .sqlParams => "query parameters"
  | .count32 => "count of 32 bits"
  | .text => "text"
  | .content => "content"
  | .versions => "versions"
  | .resolution => "history"
  | .count64 => "count of 64 bits"

end ValueType

/-- A value together with its type. -/
structure Erased where
  type : ValueType
  value : type.Carrier

/-- The value, if it is of a type. -/
def Erased.cast? (erased : Erased) (type : ValueType) : Option type.Carrier :=
  if h : erased.type = type then some (h ▸ erased.value) else none

/-- What a command reports beside its result. -/
structure Metadata where
  contentType : Option String := none
  page : Option PageToken := none
deriving DecidableEq, Repr

structure Command (σ : Type) where
  name : String
  input : ValueType
  output : ValueType
  run : Scope → input.Carrier → Action σ (output.Carrier × Metadata)

/-- Commands by name, and how types are named in failures. -/
structure Registry (σ : Type) where
  commands : Assoc String (Command σ) := []
  typeName : ValueType → String := ValueType.name

namespace Registry

variable {σ : Type}

/-- Add a command, in place of one of its name. -/
def register (registry : Registry σ) (command : Command σ) : Registry σ :=
  { registry with commands := Assoc.set command.name command registry.commands }

/-- The names of the commands, in order. -/
def names (registry : Registry σ) : List String :=
  (Assoc.keys registry.commands).mergeSort fun left right => left ≤ right

/-- Run a command on a value that carries its type. -/
def dispatch (registry : Registry σ) (scope : Scope) (name : String) (params : Erased) :
    Action σ (Erased × Metadata) :=
  match Assoc.get? name registry.commands with
  | none => Action.fail (.unknownCommand name)
  | some command =>
      match params.cast? command.input with
      | none => Action.fail (.dispatchType command.name (registry.typeName command.input))
      | some params => do
          let (value, metadata) ← command.run scope params
          return ({ type := command.output, value }, metadata)

/-- Run a command whose result is expected to be of a type. -/
def call (registry : Registry σ) (scope : Scope) (name : String) (params : Erased)
    (output : ValueType) : Action σ (output.Carrier × Metadata) := do
  let (erased, metadata) ← registry.dispatch scope name params
  match erased.cast? output with
  | none => Action.fail (.dispatchType name (registry.typeName output))
  | some value => return (value, metadata)

end Registry

namespace Command

variable {σ : Type}

def sqlName : String := "sql.exec"

def listName : String := "dataset.list"

def logName : String := "dataset.log"

/-- Run a query. -/
def sql (backend : Backend σ) : Command σ where
  name := sqlName
  input := .sqlParams
  output := .content
  run := fun scope (params : SqlParams) => do
    let answer ← scope.perform backend (.exec params.query params.outputFormat)
    let content ← Action.ofStore answer
    return (content, { contentType := some params.outputFormat.contentType })

/-- List the latest versions. -/
def list (backend : Backend σ) : Command σ where
  name := listName
  input := .listParams
  output := .versions
  run := fun scope (params : ListParams) => do
    let answer ← scope.perform backend (.list params)
    let items ← Action.ofStore answer
    return (items, { page := some params.page })

/-- Find the history of a dataset. -/
def log (backend : Backend σ) (remotes : History.Remotes) : Command σ where
  name := logName
  input := .logParams
  output := .resolution
  run := fun scope (params : LogParams) => do
    let resolution ← History.resolve backend scope remotes params
    let page := resolution.page.withOrder params.list.orderBy
    return (resolution, { page := some page })

/-- Multiply a count by a factor. -/
def scaling (name : String) (factor : Nat) : Command σ where
  name
  input := .count32
  output := .count64
  run := fun scope (count : Nat) => do
    let product ← scope.run [] fun state => (Reply.after 0 (count * factor), state)
    return (product, { contentType := some "text/plain" })

/-- The commands of a server. -/
def registry (backend : Backend σ) (remotes : History.Remotes) : Registry σ :=
  let empty : Registry σ := {}
  ((empty.register (sql backend)).register (list backend)).register (log backend remotes)

end Command
end DatasetService
