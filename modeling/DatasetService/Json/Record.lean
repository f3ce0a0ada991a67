import DatasetService.Json.Parser

set_option autoImplicit false

/- Records in JSON: an object with known members, or an array of their values in order.
Unknown members are skimmed, and a known member may be given once only. -/
namespace DatasetService.Json

open Text (Bytes)

/-- What a reader expects. Only records treat their members apart. -/
inductive Shape
  | any
  | choice
  | record (fields : List (String × Shape))

abbrev Fields := List (String × Shape)

def fieldShape? (fields : Fields) (key : String) : Option Shape :=
  (fields.find? fun field => field.1 == key).map Prod.snd

mutual

/-- A value of the expected shape. The members of a record are kept as they are written. -/
def readShape : Nat → Nat → Shape → Bytes → Except Stop (Value × Bytes)
  | 0, _, _, bytes => stopAhead .endInValue bytes
  | fuel + 1, depth, shape, bytes =>
      match shape, skipSpace bytes with
      | .record fields, 0x5B :: rest => do
          if depth ≤ 1 then stopAhead .tooDeep rest
          let (items, rest) ← readPositional fuel (depth - 1) fields true rest
          return (.array items, rest)
      | .record fields, 0x7B :: rest => do
          if depth ≤ 1 then stopAhead .tooDeep rest
          let (members, rest) ← readFields fuel (depth - 1) fields [] true rest
          return (.object members, rest)
      | .choice, 0x7B :: rest => do
          if depth ≤ 1 then stopAhead .tooDeep rest
          let (members, rest) ← readMembers .full (2 * rest.length + 2) (depth - 1) true rest
          return (.object members, rest)
      | _, _ => readValue .full (2 * bytes.length + 2) depth bytes

def readPositional : Nat → Nat → Fields → Bool → Bytes → Except Stop (List Value × Bytes)
  | 0, _, _, _, bytes => stopAhead .endInList bytes
  | fuel + 1, depth, fields, first, bytes => do
      match ← nextItem first bytes, fields with
      | .done rest, _ => return ([], rest)
      | .element rest, [] => stopAhead .trailingCharacters rest
      | .element rest, (_, shape) :: fields =>
          let (item, rest) ← readShape fuel depth shape rest
          let (items, rest) ← readPositional fuel depth fields false rest
          return (item :: items, rest)

def readFields : Nat → Nat → Fields → List String → Bool → Bytes →
    Except Stop (Members × Bytes)
  | 0, _, _, _, _, bytes => stopAhead .endInObject bytes
  | fuel + 1, depth, fields, seen, first, bytes => do
      match ← nextKey first bytes with
      | .done rest => return ([], rest)
      | .element rest =>
          let (key, rest) ← readString .full rest
          let ((), rest) ← readColon rest
          match fieldShape? fields key with
          | none =>
              let (_, rest) ← readValue .skim (2 * rest.length + 2) depth rest
              readFields fuel depth fields seen false rest
          | some shape =>
              if seen.contains key then stopAt .unexpectedMember rest
              else
                let (value, rest) ← readShape fuel depth shape rest
                let (members, rest) ← readFields fuel depth fields (key :: seen) false rest
                return ((key, value) :: members, rest)

end

def parseShape (shape : Shape) (bytes : Bytes) : Except Error Value :=
  readAll (readShape (2 * bytes.length + 2) depthLimit shape) bytes

/-- What a record says of one of its fields. A field that a list is too short for cannot
be left out as a member of an object can. -/
inductive Slot
  | given (value : Value)
  | omitted
  | beyond

def slot (record : Value) (index : Nat) (key : String) : Option Slot :=
  match record with
  | .object members => some <|
      match Value.member? members key with
      | some value => .given value
      | none => .omitted
  | .array items => some <|
      match items[index]? with
      | some value => .given value
      | none => .beyond
  | _ => none

def asString? : Value → Option String
  | .string text => some text
  | _ => none

def asBool? : Value → Option Bool
  | .bool value => some value
  | _ => none

/-- A count up to a bound. -/
def asCount? (bound : Nat) : Value → Option Nat
  | .number (.integer value) => if 0 ≤ value && value ≤ bound then some value.toNat else none
  | _ => none

/-- A field that must be given. -/
def required {α : Type} (decode : Value → Option α) (record : Value) (index : Nat)
    (key : String) : Option α := do
  match ← slot record index key with
  | .given value => decode value
  | _ => none

/-- A field that may be null, or omitted from an object. -/
def optional {α : Type} (decode : Value → Option α) (record : Value) (index : Nat)
    (key : String) : Option (Option α) := do
  match ← slot record index key with
  | .given .null => some none
  | .given value => (decode value).map some
  | .omitted => some none
  | .beyond => none

/-- A field with a default in place of what is not given. -/
def defaulted {α : Type} (decode : Value → Option α) (default : α) (record : Value)
    (index : Nat) (key : String) : Option α := do
  match ← slot record index key with
  | .given value => decode value
  | _ => some default

/-- A string or null. -/
def asOptionalString? : Value → Option (Option String)
  | .null => some none
  | .string text => some (some text)
  | _ => none

/-- The name of a choice: a string, or the only key of an object whose value is null. -/
def asChoice? : Value → Option String
  | .string name => some name
  | .object [(name, .null)] => some name
  | _ => none

/-- A member that is left out when there is nothing to say. -/
def optionalMember (key : String) (value : Option Value) : Members :=
  match value with
  | some value => [(key, value)]
  | none => []

end DatasetService.Json
