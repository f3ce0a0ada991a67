import DatasetService.Reference.Basic
import DatasetService.Text.Split

set_option autoImplicit false

/- Reading references. The text is consumed from the left, each part as long as it goes;
an error points at the first character that no reference could have there, or at the end. -/
namespace DatasetService.Reference

def isIdentifierChar (c : Char) : Bool := c.isAlphanum || c == '_' || c == '-'

def isPathChar (c : Char) : Bool := isIdentifierChar c || c == '.'

def isSelectorChar (c : Char) : Bool := isPathChar c || c == '/'

/-- The number of bytes before `rest`, which ends `input`. -/
def offset (input rest : List Char) : Nat := Text.byteLength input - Text.byteLength rest

/-- Stop at `rest`: at its first character, or at the end for want of `gap`. -/
def stop (input rest : List Char) (gap : Gap) : Error :=
  match rest with
  | [] => .malformed (String.ofList input) (Text.byteLength input) gap
  | c :: _ => .unexpectedCharacter (String.ofList rest) (offset input rest) c

/-- A version path after `@`: one segment, or a slash, a segment, a slash and a segment. -/
def parsePath (input text : List Char) : Except Error (List Char × List Char) :=
  match text with
  | '/' :: text =>
      let first := text.takeWhile isPathChar
      match first, text.dropWhile isPathChar with
      | _ :: _, '/' :: rest =>
          match rest.takeWhile isPathChar with
          | [] => .error (stop input rest .versionPathEnd)
          | second =>
              .ok ('/' :: first ++ '/' :: second, rest.dropWhile isPathChar)
      | _, rest => .error (stop input rest .versionPathEnd)
  | _ =>
      match text.takeWhile isPathChar with
      | [] => .error (stop input text .versionPath)
      | segment => .ok (segment, text.dropWhile isPathChar)

/-- A selector: segments with slashes between them, to the end of the text. -/
def parseSelector (input text : List Char) : Except Error (List Char) :=
  let selector := text.takeWhile isSelectorChar
  let rest := text.dropWhile isSelectorChar
  match selector, rest with
  | [], _ => .error (stop input text .selector)
  | _, _ :: _ => .error (stop input rest .selector)
  | _, [] =>
      if (Text.splitAt '/' selector).any List.isEmpty then
        .error (.malformed (String.ofList selector) (offset input text) .selectorSegment)
      else .ok selector

/-- What follows the name and the version: nothing, or a slash and a selector. -/
def parseTail (input text : List Char) (reference : Reference) : Except Error Reference :=
  match text with
  | [] => .ok reference
  | '/' :: text =>
      match parseSelector input text with
      | .error error => .error error
      | .ok selector => .ok { reference with selector := some (String.ofList selector) }
  | _ => .error (stop input text .selector)

/-- A dataset name with an optional version, and what follows them. -/
def parseName (input text : List Char) (username : String) : Except Error Reference :=
  match text.takeWhile isIdentifierChar with
  | [] => .error (stop input text .datasetName)
  | name =>
      let reference : Reference := { username, name := String.ofList name }
      match text.dropWhile isIdentifierChar with
      | '@' :: rest =>
          match parsePath input rest with
          | .error error => .error error
          | .ok (path, rest) =>
              parseTail input rest { reference with path := some (String.ofList path) }
      | rest => parseTail input rest reference

def parseChars (input : List Char) : Except Error Reference :=
  match input.takeWhile isIdentifierChar with
  | [] => .error (stop input input .emptyReference)
  | username =>
      let username := String.ofList username
      if username = ownerAlias then .error (.reservedUsername username)
      else
        match input.dropWhile isIdentifierChar with
        | [] => .ok { username }
        | '/' :: rest => parseName input rest username
        | rest => .error (stop input rest .datasetName)

/-- Read the text of a reference. The alias of the caller is refused as a user name. -/
def parse (text : String) : Except Error Reference := parseChars text.toList

end DatasetService.Reference
