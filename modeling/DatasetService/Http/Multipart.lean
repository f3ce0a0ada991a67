import DatasetService.Http.MediaType
import DatasetService.Text.Charset
import DatasetService.Text.Quoted

set_option autoImplicit false

/- Forms in several parts, `multipart/form-data`. A part has headers and data; each part
and the end are announced by a line with the boundary. -/
namespace DatasetService.Http

open Text (Bytes)

structure Part where
  name : Option String
  filename : Option String
  contentType : Option MediaType
  data : Bytes
deriving DecidableEq, Repr

namespace Multipart

inductive Error
  | incompleteStream
  | unreadableHeaders
  | incompleteData (name : Option String)
deriving DecidableEq, Repr

def Error.message : Error → String
  | .incompleteStream => "incomplete multipart stream"
  | .unreadableHeaders => "failed to read headers"
  | .incompleteData name =>
      "field " ++ Text.quoted (name.getD "<unknown>") ++ " received with incomplete data"

def carriageReturn : UInt8 := 0x0D

def lineFeed : UInt8 := 0x0A

def lineEnd : Bytes := [carriageReturn, lineFeed]

def dashes : Bytes := [0x2D, 0x2D]

def isPadding (byte : UInt8) : Bool := byte == 0x20 || byte == 0x09

def isNameByte (byte : UInt8) : Bool :=
  let c := Char.ofNat byte.toNat
  c.isAlphanum || "!#$%&'*+-.^_\x60|~".toList.contains c

def isValueByte (byte : UInt8) : Bool := byte == 0x09 || (0x20 ≤ byte && byte != 0x7F)

abbrev Header := String × Bytes

/-- What follows a line end. -/
def afterLineEnd? : Bytes → Option Bytes
  | 0x0D :: 0x0A :: rest => some rest
  | 0x0A :: rest => some rest
  | _ => none

/-- One header line: a name, a colon at once, and a value without blanks around it. -/
def scanHeader (bytes : Bytes) : Option (Header × Bytes) :=
  match bytes.takeWhile isNameByte, bytes.dropWhile isNameByte with
  | name@(_ :: _), 0x3A :: rest => do
      let rest := rest.dropWhile isPadding
      let value := rest.takeWhile isValueByte
      let following ← afterLineEnd? (rest.dropWhile isValueByte)
      let trimmed := (value.reverse.dropWhile isPadding).reverse
      return ((Text.lowerString (String.ofList (Text.decodeLossy name)), trimmed), following)
  | _, _ => none

/-- The headers of a part, up to an empty line; no more than the first argument. -/
def scanHeaders : Nat → Bytes → Option (List Header)
  | fuel, bytes =>
      match afterLineEnd? bytes with
      | some _ => some []
      | none =>
          match fuel with
          | 0 => none
          | fuel + 1 => do
              let (header, rest) ← scanHeader bytes
              let headers ← scanHeaders fuel rest
              return header :: headers

/-- The greatest number of headers of a part. -/
def maxHeaders : Nat := 32

/-- The value of a header; of several of one name the last counts. -/
def headerValue? (headers : List Header) (name : String) : Option Bytes :=
  (headers.reverse.find? fun header => header.1 == name).map Prod.snd

def isAttributeStart (before : Option UInt8) : Bool :=
  match before with
  | none => true
  | some byte => Text.isAsciiBlank byte || byte == 0x3B

def skipBlank (bytes : Bytes) : Bytes := bytes.dropWhile Text.isAsciiBlank

/-- A value up to its closing quote. A quote after a backslash belongs to the value, and
that backslash does not. -/
def quotedValue? : Bytes → Option Bytes
  | [] => none
  | 0x22 :: _ => some []
  | 0x5C :: 0x22 :: rest => (quotedValue? rest).map (0x22 :: ·)
  | byte :: rest => (quotedValue? rest).map (byte :: ·)

/-- What an attribute's name is followed by: an equals sign and a value, in quotes or up to
the next semicolon or space. -/
def attributeValue? (bytes : Bytes) : Option Bytes :=
  match skipBlank bytes with
  | 0x3D :: rest =>
      match skipBlank rest with
      | 0x22 :: rest => quotedValue? rest
      | rest => some (rest.takeWhile fun byte => byte != 0x3B && byte != 0x20)
  | _ => none

/-- An attribute of a disposition. It begins where a blank, a semicolon or nothing precedes
its name. -/
def attribute? (name : Bytes) : Nat → Bytes → Option Bytes
  | 0, _ => none
  | fuel + 1, bytes =>
      match Text.findSlice name bytes with
      | none => none
      | some (before, found) =>
          let rest := found.drop name.length
          if isAttributeStart before.getLast? then attributeValue? rest
          else attribute? name fuel rest

def attributeText? (headers : List Header) (name : String) : Option String := do
  let disposition ← headerValue? headers "content-disposition"
  let value ← attribute? (Text.bytesOf name) (disposition.length + 1) disposition
  Text.stringOf? value

def contentType? (headers : List Header) : Option MediaType := do
  let value ← headerValue? headers "content-type"
  let text ← Text.decode? value
  if text.all fun c => c.toNat < 0x80 then MediaType.parse? text else none

/-- The lines after a boundary: padding, a line end, headers, and an empty line. -/
def scanPartHead (bytes : Bytes) : Except Error (List Header × Bytes) :=
  match bytes.dropWhile isPadding with
  | 0x0D :: 0x0A :: rest =>
      match Text.findSlice (lineEnd ++ lineEnd) rest with
      | none => .error .incompleteStream
      | some (before, following) =>
          match scanHeaders maxHeaders (before ++ lineEnd ++ lineEnd) with
          | some headers => .ok (headers, following.drop 4)
          | none => .error .unreadableHeaders
  | _ => .error .incompleteStream

/-- The parts that follow a boundary; the first argument bounds their number. -/
def scanParts (boundary : Bytes) : Nat → Bytes → Except Error (List Part)
  | 0, _ => .error .incompleteStream
  | fuel + 1, bytes =>
      match bytes with
      | 0x2D :: 0x2D :: _ => .ok []
      | _ :: _ :: _ => do
          let (headers, rest) ← scanPartHead bytes
          let name := attributeText? headers "name"
          match Text.findSlice (lineEnd ++ dashes ++ boundary) rest with
          | none => .error (.incompleteData name)
          | some (data, following) =>
              let parts ← scanParts boundary fuel
                (following.drop (lineEnd.length + dashes.length + boundary.length))
              return { name
                       filename := attributeText? headers "filename"
                       contentType := contentType? headers
                       data } :: parts
      | _ => .error .incompleteStream

/-- The parts of a form. What precedes the first boundary is skipped. -/
def parse (boundary : Bytes) (bytes : Bytes) : Except Error (List Part) :=
  match Text.findSlice (dashes ++ boundary) bytes with
  | none => .error .incompleteStream
  | some (_, found) =>
      scanParts boundary (bytes.length + 1) (found.drop (dashes.length + boundary.length))

end Multipart

/-- The text of a part in the encoding that it declares. -/
def Part.text (part : Part) : String :=
  let charset := do
    let label ← (← part.contentType).parameter? "charset"
    Text.Charset.ofLabel? (String.ofList label)
  String.ofList ((charset.getD .utf8).decode part.data)

end DatasetService.Http
