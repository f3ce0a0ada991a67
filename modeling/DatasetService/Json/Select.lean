import DatasetService.Json.Value
import DatasetService.Number.Literal
import DatasetService.Text.Split

set_option autoImplicit false

/- Selectors: paths into a JSON value, whose segments are separated by slashes or dots. -/
namespace DatasetService.Json

/-- The part of a value under a key or, in an array, at an index. -/
def Value.child? (value : Value) (segment : List Char) : Option Value :=
  match value with
  | .object members => Value.member? members (String.ofList segment)
  | .array items => (Literal.count? segment).bind fun index => items[index]?
  | _ => none

def isSelectorSeparator (c : Char) : Bool := c == '/' || c == '.'

/-- Follow segments one after the other. -/
def Value.follow? (value : Value) : List (List Char) → Option Value
  | [] => some value
  | segment :: segments => (value.child? segment).bind fun child => child.follow? segments

def Value.select? (value : Value) (selector : String) : Option Value :=
  value.follow? (Text.splitWhere isSelectorSeparator selector.toList)

end DatasetService.Json
