import DatasetService.Number.Binary

set_option autoImplicit false

/- JSON values. The members of an object are kept in the order in which they are written;
`Value.ofMembers` orders them by key and keeps the last of equal keys. -/
namespace DatasetService.Json

/-- A number is an integer of 64 bits, signed or unsigned, or a finite double. -/
inductive Number
  | integer (value : Int)
  | float (value : Binary)
deriving DecidableEq, Repr

inductive Value
  | null
  | bool (value : Bool)
  | number (value : Number)
  | string (value : String)
  | array (items : List Value)
  | object (members : List (String × Value))
deriving BEq, Repr

abbrev Members := List (String × Value)

def Value.ofNat (value : Nat) : Value := .number (.integer (Int.ofNat value))

def Value.ofInt (value : Int) : Value := .number (.integer value)

/-- The integer of a number, if it is one of 64 bits with a sign. -/
def Number.signed? : Number → Option Int
  | .integer value => if value < Int.pow 2 63 then some value else none
  | .float _ => none

/-- Put a member at its place among members ordered by key, over one of the same key. -/
def insertMember (key : String) (value : Value) : Members → Members
  | [] => [(key, value)]
  | (other, old) :: rest =>
      if key = other then (key, value) :: rest
      else if key < other then (key, value) :: (other, old) :: rest
      else (other, old) :: insertMember key value rest

def orderMembers (members : Members) : Members :=
  members.foldl (fun ordered member => insertMember member.1 member.2 ordered) []

def Value.ofMembers (members : Members) : Value := .object (orderMembers members)

def Value.member? (members : Members) (key : String) : Option Value :=
  (members.find? fun member => member.1 == key).map Prod.snd

end DatasetService.Json
