import DatasetService.Instant
import DatasetService.Text.Ascii
import DatasetService.Text.Utf8

set_option autoImplicit false

/- Versions of datasets, and what is uploaded to make them. -/
namespace DatasetService

open Text (Bytes)

/-- One entry of a dataset's history. -/
structure Version where
  username : String
  name : String
  /-- The path that names this version alone. -/
  path : String
  profileId : Option String := none
  commitTime : Instant
  commitTitle : String
  commitMessage : Option String := none
  bodyRows : Nat
  bodySize : Nat
  published : Bool := false
  /-- Whether the entry comes from a remote. -/
  foreign : Bool := false
deriving DecidableEq, Repr

/-- A file, or content given in place of one. -/
structure Upload where
  filename : Option String := none
  contentType : Option String := none
  bytes : Bytes := []
deriving DecidableEq, Repr, Inhabited

def containsSlice (pattern text : List Char) : Bool :=
  match text with
  | [] => pattern.isEmpty
  | _ :: rest => pattern.isPrefixOf text || containsSlice pattern rest

/-- An upload is CSV if its type mentions it, or its name ends in it. -/
def Upload.isCsv (upload : Upload) : Bool :=
  upload.contentType.any (fun type => containsSlice "csv".toList type.toList) ||
    upload.filename.any (fun name => ".csv".toList.isSuffixOf (Text.lower name.toList))

/-- What is given for a new version. -/
structure SaveRequest where
  title : Option String := none
  message : Option String := none
  body : Option Upload := none
deriving DecidableEq, Repr, Inhabited

inductive ImageKind
  | photo
  | poster
deriving DecidableEq, Repr

def ImageKind.name : ImageKind → String
  | .photo => "photo"
  | .poster => "poster"

def ImageKind.ofName? (name : String) : Option ImageKind :=
  if name = "photo" then some .photo
  else if name = "poster" then some .poster
  else none

structure Image where
  contentType : String
  bytes : Bytes
deriving DecidableEq, Repr

/-- Who makes a request. -/
structure Owner where
  peername : Option String := none
  profileId : Option String := none
deriving DecidableEq, Repr, Inhabited

def Owner.named (peername : String) : Owner := { peername := some peername }

def Owner.isAnonymous (owner : Owner) : Bool := owner.peername.isNone && owner.profileId.isNone

/-- One file of an archive. -/
structure ArchiveEntry where
  name : String
  bytes : Bytes
deriving DecidableEq, Repr

/-- Content that is sent: bytes, or an archive of files. -/
inductive Payload
  | bytes (content : Bytes)
  | archive (entries : List ArchiveEntry)
deriving DecidableEq, Repr

end DatasetService
