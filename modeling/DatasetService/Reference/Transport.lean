import DatasetService.Reference.Parser

set_option autoImplicit false

/- References in request paths. There a segment `at` may stand for `@`, slashes may
surround the reference, a query may follow it, and the caller may be named by an alias. -/
namespace DatasetService.Reference

/-- The segment that stands for `@`. -/
def versionMarker : List Char := ['a', 't']

/-- Cut a list of segments at the first `at`. -/
def cutAtMarker : List (List Char) → Option (List (List Char) × List (List Char))
  | [] => none
  | segment :: segments =>
      if segment = versionMarker then some ([], segments)
      else (cutAtMarker segments).map fun parts => (segment :: parts.1, parts.2)

/-- Replace the first segment `at` after the user and the name by `@`. -/
def markVersion (path : List Char) : List Char :=
  let (leading, body) : List Char × List Char := match path with
    | '/' :: rest => (['/'], rest)
    | _ => ([], path)
  let segments := Text.splitAt '/' body
  match cutAtMarker (segments.drop 2) with
  | none => path
  | some (before, after) =>
      let head := leading ++ Text.joinWith '/' (segments.take 2 ++ before) ++ ['@']
      match Text.joinWith '/' after with
      | [] => head
      | tail => head ++ '/' :: tail

def dropLeadingSlash : List Char → List Char
  | '/' :: rest => rest
  | text => text

def dropTrailingSlash (text : List Char) : List Char :=
  match text.getLast? with
  | some '/' => text.dropLast
  | _ => text

/-- The text before the first question mark. -/
def dropQuery (text : List Char) : List Char := text.takeWhile (· != '?')

def normalizeChars (raw : List Char) : List Char :=
  dropTrailingSlash (dropLeadingSlash (markVersion (dropQuery raw)))

/-- Bring a request path into the form of a reference. -/
def normalizePath (raw : String) : String := String.ofList (normalizeChars raw.toList)

/-- Read a reference from a request path. -/
def ofPath (raw : String) : Except Error Reference := parse (normalizePath raw)

/-- Put the owner's name in place of the alias, where the alias is the whole first segment. -/
def substituteOwner (owner text : List Char) : List Char :=
  match Text.dropStart? ownerAlias.toList text with
  | some [] => owner
  | some ('/' :: rest) => owner ++ '/' :: rest
  | _ => text

/-- Read a reference from a request path on behalf of a caller, if one is known. -/
def resolve (raw : String) (owner : Option String) : Except Error Reference :=
  let normalized := normalizeChars raw.toList
  match owner.filter (· != "") with
  | some owner => parseChars (substituteOwner owner.toList normalized)
  | none => parseChars normalized

end DatasetService.Reference
