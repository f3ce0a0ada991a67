import DatasetService.Json.Value
import DatasetService.Number.Shortest
import DatasetService.Text.Hex

set_option autoImplicit false

/- Writing JSON: without any space, or with one element a line and an indentation of two. -/
namespace DatasetService.Json

def escape (c : Char) : List Char :=
  if c = '"' then ['\\', '"']
  else if c = '\\' then ['\\', '\\']
  else if c = '\x08' then ['\\', 'b']
  else if c = '\x0c' then ['\\', 'f']
  else if c = '\n' then ['\\', 'n']
  else if c = '\r' then ['\\', 'r']
  else if c = '\t' then ['\\', 't']
  else if c.toNat < 0x20 then
    ['\\', 'u', '0', '0', Text.hexDigit (c.toNat / 16), Text.hexDigit (c.toNat % 16)]
  else [c]

def quote (text : String) : List Char :=
  '"' :: text.toList.flatMap escape ++ ['"']

def Number.text : Number → List Char
  | .integer value => (toString value).toList
  | .float value => value.text .double

mutual

def Value.write : Value → List Char
  | .null => "null".toList
  | .bool true => "true".toList
  | .bool false => "false".toList
  | .number value => value.text
  | .string value => quote value
  | .array items => '[' :: writeItems items ++ [']']
  | .object members => '\x7b' :: writeMembers members ++ ['\x7d']

def writeItems : List Value → List Char
  | [] => []
  | [item] => item.write
  | item :: next :: items => item.write ++ ',' :: writeItems (next :: items)

def writeMembers : List (String × Value) → List Char
  | [] => []
  | [(key, value)] => quote key ++ ':' :: value.write
  | (key, value) :: next :: members =>
      quote key ++ ':' :: value.write ++ ',' :: writeMembers (next :: members)

end

/-- The text of a value without any space. -/
def Value.compact (value : Value) : String := String.ofList value.write

def newline (depth : Nat) : List Char := '\n' :: List.replicate (2 * depth) ' '

mutual

def Value.writeIndented (depth : Nat) : Value → List Char
  | .array [] => "[]".toList
  | .array (item :: items) =>
      '[' :: indentedItems (depth + 1) (item :: items) ++ newline depth ++ [']']
  | .object [] => ['\x7b', '\x7d']
  | .object (member :: members) =>
      '\x7b' :: indentedMembers (depth + 1) (member :: members) ++ newline depth ++ ['\x7d']
  | .null => "null".toList
  | .bool true => "true".toList
  | .bool false => "false".toList
  | .number value => value.text
  | .string value => quote value

def indentedItems (depth : Nat) : List Value → List Char
  | [] => []
  | [item] => newline depth ++ item.writeIndented depth
  | item :: next :: items =>
      newline depth ++ item.writeIndented depth ++ ',' :: indentedItems depth (next :: items)

def indentedMembers (depth : Nat) : List (String × Value) → List Char
  | [] => []
  | [(key, value)] => newline depth ++ quote key ++ ':' :: ' ' :: value.writeIndented depth
  | (key, value) :: next :: members =>
      newline depth ++ quote key ++ ':' :: ' ' :: value.writeIndented depth ++
        ',' :: indentedMembers depth (next :: members)

end

/-- The text of a value with each element on a line of its own. -/
def Value.pretty (value : Value) : String := String.ofList (value.writeIndented 0)

end DatasetService.Json
