import DatasetService.Config.Basic
import DatasetService.Number.Literal
import DatasetService.Number.Shortest
import DatasetService.Page.Window
import DatasetService.Text.Split

set_option autoImplicit false

/- Configuration from environment variables. A variable names a place in a tree of
settings, `DSGATE_SERVER__PORT` that of `port` in `server`; its value is read as what it
looks like and is converted to what the place holds. -/
namespace DatasetService.Environment

/-- A value that a variable gave, or a group of values. -/
inductive Setting
  | unset
  | flag (value : Bool)
  | integer (value : Int)
  | real (value : Literal.Real)
  | text (value : String)
  | table (entries : List (String × Setting))
  | items (settings : List (Nat × Setting))
deriving Repr

/-- What the text of a variable looks like: a truth value in any letter case, an integer of
64 bits, a real number, or else text. -/
def Setting.ofText (text : String) : Setting :=
  let word := Text.lowerString text
  if word = "true" then .flag true
  else if word = "false" then .flag false
  else
    match Literal.signed? text.toList with
    | some value => .integer value
    | none =>
        match Literal.real? text.toList with
        | some value => .real value
        | none => .text text

/-- One step into the tree. A negative index counts from the end. -/
inductive Step
  | key (name : String)
  | index (place : Int)
deriving DecidableEq, Repr

namespace Setting

def entries : Setting → List (String × Setting)
  | .table entries => entries
  | _ => []

/-- The elements of a list by their indices; at any other index there is nothing set. -/
def elements : Setting → List (Nat × Setting)
  | .items settings => settings
  | _ => []

/-- One more than the greatest index. -/
def length (settings : List (Nat × Setting)) : Nat :=
  settings.foldl (fun length element => max length (element.1 + 1)) 0

def indexIn (settings : List (Nat × Setting)) (place : Int) : Nat :=
  (if place < 0 then length settings + place else place).toNat

/-- Put a value at a path, over whatever is in its way. -/
def put : List Step → Setting → Setting → Setting
  | [], value, _ => value
  | .key name :: path, value, current =>
      let old := (Assoc.get? name current.entries).getD .unset
      .table (Assoc.set name (put path value old) current.entries)
  | .index place :: path, value, current =>
      let index := indexIn current.elements place
      let old := (Assoc.get? index current.elements).getD .unset
      .items (Assoc.set index (put path value old) current.elements)

end Setting

/-- Characters of keys in a path. -/
def isKeyChar (c : Char) : Bool := c.isAlphanum || c == ' ' || c == '_' || c == '-'

def isPadding (c : Char) : Bool := c == ' ' || c == '\t'

/-- An index in brackets, after the first of them, and what follows. -/
def scanIndex (text : List Char) : Option (Int × List Char) :=
  let text := text.dropWhile isPadding
  let isSigned := text.head? == some '-'
  let digits := if isSigned then text.drop 1 else text
  match Literal.digits? (digits.takeWhile Char.isDigit),
      (digits.dropWhile Char.isDigit).dropWhile isPadding with
  | some magnitude, ']' :: rest =>
      let place : Int := if isSigned then -magnitude else magnitude
      if Literal.minSigned ≤ place && place ≤ Literal.maxSigned then some (place, rest) else none
  | _, _ => none

/-- Further steps: a dot and a key, or an index in brackets. -/
def stepsAfter : Nat → List Char → Option (List Step)
  | _, [] => some []
  | 0, _ => none
  | fuel + 1, '.' :: rest =>
      match rest.takeWhile isKeyChar with
      | [] => none
      | key =>
          (stepsAfter fuel (rest.dropWhile isKeyChar)).map fun steps =>
            .key (String.ofList key) :: steps
  | fuel + 1, '[' :: rest =>
      match scanIndex rest with
      | some (place, rest) => (stepsAfter fuel rest).map fun steps => .index place :: steps
      | none => none
  | _, _ => none

/-- The path that a text describes; a text that describes none is a key of its own. -/
def path (text : List Char) : List Step :=
  match text.takeWhile isKeyChar with
  | [] => [.key (String.ofList text)]
  | key =>
      match stepsAfter text.length (text.dropWhile isKeyChar) with
      | some steps => .key (String.ofList key) :: steps
      | none => [.key (String.ofList text)]

/-- What the names of all variables start with, in lower case. -/
def namespaceMark : List Char := "dsgate_".toList

/-- Two underscores separate the steps of a path. -/
def separatorsToDots : List Char → List Char
  | '_' :: '_' :: rest => '.' :: separatorsToDots rest
  | c :: rest => c :: separatorsToDots rest
  | [] => []

/-- The place that a variable names, if it is one of this program. -/
def place? (name : String) : Option (List Step) :=
  (Text.dropStart? namespaceMark (Text.lower name.toList)).map fun rest =>
    path (separatorsToDots rest)

/-- Apply one variable to a tree. -/
def apply (tree : Setting) (assignment : String × String) : Setting :=
  match place? assignment.1 with
  | some path => Setting.put path (Setting.ofText assignment.2) tree
  | none => tree

/-- A number rounded to the nearest integer, halves away from zero, within 64 bits. -/
def roundedCount (number : Binary) : Nat :=
  if number.negative then 0
  else
    let ratio := number.ratio
    min ((2 * ratio.1 + ratio.2) / (2 * ratio.2)) maxCount

def countOfReal (value : Literal.Real) : Nat :=
  match value with
  | .notANumber => 0
  | .infinite negative => if negative then 0 else maxCount
  | .decimal negative digits exponent =>
      match Binary.ofDecimal .double negative digits exponent with
      | some number => roundedCount number
      | none => if negative then 0 else maxCount

def flagOfWord? (text : String) : Option Bool :=
  let word := Text.lowerString text
  if word = "1" || word = "true" || word = "on" || word = "yes" then some true
  else if word = "0" || word = "false" || word = "off" || word = "no" then some false
  else none

def realIsZero (value : Literal.Real) : Bool :=
  match value with
  | .decimal negative digits exponent =>
      (Binary.ofDecimal .double negative digits exponent).any Binary.isZero
  | _ => false

/-- The digits of a number without an exponent, and without a point if it is whole. -/
def plainText (number : Binary) : String :=
  let magnitude :=
    if number.isZero then ['0']
    else
      let decimal := Decimal.shortest .double number
      let digits := Nat.toDigits 10 decimal.digits
      if 0 ≤ decimal.exponent then digits ++ Decimal.zeros decimal.exponent.toNat
      else Decimal.positional digits (decimal.exponent + (digits.length : Int) - 1)
  String.ofList (if number.negative then '-' :: magnitude else magnitude)

def signedInfinity (negative : Bool) : String := if negative then "-inf" else "inf"

def textOfReal (value : Literal.Real) : String :=
  match value with
  | .notANumber => "NaN"
  | .infinite negative => signedInfinity negative
  | .decimal negative digits exponent =>
      match Binary.ofDecimal .double negative digits exponent with
      | some number => plainText number
      | none => signedInfinity negative

def toText? : Setting → Option String
  | .text value => some value
  | .flag value => some (if value then "true" else "false")
  | .integer value => some (toString value)
  | .real value => some (textOfReal value)
  | _ => none

def toFlag? : Setting → Option Bool
  | .flag value => some value
  | .integer value => some (value != 0)
  | .real value => some (!realIsZero value)
  | .text value => flagOfWord? value
  | _ => none

/-- A count of 64 bits. -/
def toCount? : Setting → Option Nat
  | .flag value => some value.toNat
  | .integer value => if 0 ≤ value then some value.toNat else none
  | .real value => some (countOfReal value)
  | .text value =>
      match flagOfWord? value with
      | some flag => some flag.toNat
      | none => Literal.count? value.toList
  | _ => none

def toPort? (setting : Setting) : Option Nat := (toCount? setting).filter (· ≤ maxPort)

/-- A member of a group: by its key in a table, or by its place in a list. -/
def member? {α : Type} (convert : Setting → Option α) (group : Setting) (index : Nat)
    (key : String) : Option α :=
  match group with
  | .table entries => (Assoc.get? key entries).bind convert
  | .items settings => (Assoc.get? index settings).bind convert
  | _ => none

def toServer? (group : Setting) : Option ServerConfig := do
  let host ← member? toText? group 0 "host"
  let port ← member? toPort? group 1 "port"
  let readOnly ← member? toFlag? group 2 "read_only"
  let apiVersion ← member? toText? group 3 "api_version"
  let maxUploadBytes ← member? toCount? group 4 "max_upload_bytes"
  let requestTimeoutSecs ← member? toCount? group 5 "request_timeout_secs"
  return { host, port, readOnly, apiVersion, maxUploadBytes, requestTimeoutSecs }

def toRemote? (group : Setting) : Option RemoteConfig := do
  let defaultRemote ← member? toText? group 0 "default_remote"
  let fetchTimeoutSecs ← member? toCount? group 1 "fetch_timeout_secs"
  return { defaultRemote, fetchTimeoutSecs }

def toStore? (group : Setting) : Option StoreConfig := do
  let loadSeedData ← member? toFlag? group 0 "load_seed_data"
  return { loadSeedData }

def toConfig? (group : Setting) : Option AppConfig := do
  let server ← member? toServer? group 0 "server"
  let remote ← member? toRemote? group 1 "remote"
  let store ← member? toStore? group 2 "store"
  return { server, remote, store }

/-- The tree of a configuration. -/
def ofConfig (config : AppConfig) : Setting :=
  .table
    [("server", .table
      [("host", .text config.server.host),
       ("port", .integer config.server.port),
       ("read_only", .flag config.server.readOnly),
       ("api_version", .text config.server.apiVersion),
       ("max_upload_bytes", .integer config.server.maxUploadBytes),
       ("request_timeout_secs", .integer config.server.requestTimeoutSecs)]),
     ("remote", .table
      [("default_remote", .text config.remote.defaultRemote),
       ("fetch_timeout_secs", .integer config.remote.fetchTimeoutSecs)]),
     ("store", .table [("load_seed_data", .flag config.store.loadSeedData)])]

/-- The default configuration with the variables applied in order, if every value fits. -/
def load (assignments : List (String × String)) : Option AppConfig :=
  toConfig? (assignments.foldl apply (ofConfig {}))

end DatasetService.Environment
