import DatasetService.Text.Utf8

set_option autoImplicit false

/- References to datasets: `username/name[@path][/selector]`. -/
namespace DatasetService

/-- The user name that stands for the caller. -/
def ownerAlias : String := "me"

/-- A reference to a user, a dataset, one version of it, or a part of it. -/
structure Reference where
  username : String := ""
  /-- Empty where only a user is named. -/
  name : String := ""
  path : Option String := none
  selector : Option String := none
deriving DecidableEq, Repr, Inhabited

namespace Reference

def hasName (reference : Reference) : Bool := reference.name != ""

/-- The user and the dataset, without version and selector. -/
def slug (reference : Reference) : String :=
  if reference.hasName then reference.username ++ "/" ++ reference.name
  else reference.username

def optionalPart (mark : String) : Option String → String
  | none => ""
  | some part => mark ++ part

/-- The text of a reference. -/
def text (reference : Reference) : String :=
  reference.slug ++ optionalPart "@" reference.path ++ optionalPart "/" reference.selector

/-- What a reference that ends too early lacks. -/
inductive Gap
  | emptyReference
  | datasetName
  | versionPath
  | versionPathEnd
  | selector
  | selectorSegment
deriving DecidableEq, Repr

def Gap.reason : Gap → String
  | .emptyReference => "empty reference"
  | .datasetName => "missing dataset name"
  | .versionPath => "missing version path after '@'"
  | .versionPathEnd => "incomplete version path"
  | .selector => "missing selector"
  | .selectorSegment => "empty selector segment"

/-- Why a text is not a reference. Positions count bytes. -/
inductive Error
  | unexpectedCharacter (fragment : String) (position : Nat) (character : Char)
  | malformed (fragment : String) (position : Nat) (gap : Gap)
  | reservedUsername (username : String)
deriving DecidableEq, Repr

def Error.position? : Error → Option Nat
  | .unexpectedCharacter _ position _ => some position
  | .malformed _ position _ => some position
  | .reservedUsername _ => none

def Error.message : Error → String
  | .unexpectedCharacter _ position character =>
      "unexpected character at position " ++ toString position ++ ": '" ++
        String.singleton character ++ "'"
  | .malformed fragment position gap =>
      gap.reason ++ " at position " ++ toString position ++ ": '" ++ fragment ++ "'"
  | .reservedUsername username =>
      "username \"" ++ username ++ "\" is a reserved alias and cannot name a dataset owner here"

end Reference
end DatasetService
