import DatasetService.Format.Basic
import DatasetService.Reference.Basic
import DatasetService.Version

set_option autoImplicit false

/- Manifests: the fields that a set of parameters has, and how each is filled. -/
namespace DatasetService

inductive FieldKind
  /-- A reference from the path. -/
  | reference
  | text
  | flag
  /-- An output format, negotiated with the selector and the header. -/
  | format
  | limit
  | offset
  /-- A file, or content in place of one. -/
  | file
deriving DecidableEq, Repr

def FieldKind.name : FieldKind → String
  | .reference => "Ref"
  | .text => "Text"
  | .flag => "Flag"
  | .format => "Format"
  | .limit => "Limit"
  | .offset => "Offset"
  | .file => "File"

structure FieldSpec where
  name : String
  kind : FieldKind
  required : Bool := false
deriving DecidableEq, Repr

/-- A value for a field. -/
inductive BoundValue
  | reference (value : Reference)
  | text (value : String)
  | flag (value : Bool)
  | format (value : Format)
  | count (value : Nat)
  | file (value : Upload)
deriving DecidableEq, Repr

def BoundValue.description : BoundValue → String
  | .reference _ => "a dataset reference"
  | .text _ => "text"
  | .flag _ => "a boolean"
  | .format _ => "a format"
  | .count _ => "a count"
  | .file _ => "a file"

/-- Whether a field of this kind holds the value. -/
def FieldKind.holds : FieldKind → BoundValue → Bool
  | .reference, .reference _ => true
  | .text, .text _ => true
  | .flag, .flag _ => true
  | .format, .format _ => true
  | .limit, .count _ => true
  | .offset, .count _ => true
  | .file, .file _ => true
  | _, _ => false

/-- What is said of a value that a field does not hold. -/
def mismatch (field : String) (value : BoundValue) : String :=
  "parameter \"" ++ field ++ "\" cannot hold " ++ value.description

end DatasetService
