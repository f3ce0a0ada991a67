import DatasetService.Binding.Params
import DatasetService.Json.Select
import DatasetService.Store.Table

set_option autoImplicit false

/- Reading from a store: histories, documents, lists of datasets, and images. -/
namespace DatasetService

open Text (Bytes)

namespace Snapshot

def optionalText : Option String → Json.Value
  | some text => .string text
  | none => .null

/-- What is said of a version, without its rows. -/
def headerMembers (snapshot : Snapshot) : Json.Members :=
  [("username", .string snapshot.version.username),
   ("name", .string snapshot.version.name),
   ("path", .string snapshot.version.path),
   ("commit", .ofMembers
      [("title", .string snapshot.version.commitTitle),
       ("message", optionalText snapshot.version.commitMessage),
       ("timestamp", .string snapshot.version.commitTime.offsetText)]),
   ("meta", snapshot.metadata),
   ("structure", .ofMembers
      [("format", .string "csv"),
       ("columns", .array (snapshot.table.columns.map .string)),
       ("entries", .ofNat snapshot.table.rows.length)])]

def header (snapshot : Snapshot) : Json.Value := .ofMembers snapshot.headerMembers

/-- The whole of a version. -/
def document (snapshot : Snapshot) : Json.Value :=
  .ofMembers (snapshot.headerMembers ++ [("body", .array snapshot.table.objects)])

/-- The files of an export. -/
def archive (snapshot : Snapshot) : Except StoreError (List ArchiveEntry) := do
  let body ← snapshot.table.csv none
  return [{ name := "dataset.json", bytes := Text.bytesOf snapshot.header.pretty },
          { name := "body.csv", bytes := body }]

end Snapshot

namespace Store

/-- Versions from the one at a path on, or all if no path is given. -/
def fromPath? (history : List Snapshot) (path : Option String) : Option (List Snapshot) :=
  match path with
  | none => some history
  | some path =>
      match history.dropWhile fun snapshot => snapshot.version.path != path with
      | [] => none
      | rest => some rest

/-- The version at the path of a reference, or the latest. -/
def snapshot (store : Store) (reference : Reference) : Except StoreError Snapshot :=
  match store.history? reference.key with
  | none => .error (.notFound reference.slug)
  | some history =>
      match (fromPath? history reference.path).bind List.head? with
      | some snapshot => .ok snapshot
      | none => .error (.notFound reference.text)

/-- A window onto the local history, from the version of the reference on. -/
def log (store : Store) (reference : Reference) (params : ListParams) :
    Except StoreError (List Version) :=
  match store.history? reference.key with
  | none => .error (.notFound reference.slug)
  | some [] => .error (.noHistory reference.slug)
  | some history =>
      match fromPath? history reference.path with
      | none => .error (.notFound reference.text)
      | some rest =>
          .ok (((rest.drop params.offset).take params.limit).map Snapshot.version)

def unknownRemote (remote : String) : StoreError :=
  .remoteFailure ("unknown remote \"" ++ remoteName remote ++ "\"")

def missingOn (reference : Reference) (remote : String) : StoreError :=
  .notFound (reference.slug ++ " on " ++ remoteName remote)

/-- The whole history that a remote holds. -/
def fetch (store : Store) (reference : Reference) (remote : String) :
    Except StoreError (List Version) :=
  match store.remote? remote with
  | none => .error (unknownRemote remote)
  | some histories =>
      match Assoc.get? reference.key histories with
      | some history => .ok history
      | none => .error (missingOn reference remote)

/-- A dataset in a format, or the part of it that the selector names. -/
def get (store : Store) (reference : Reference) (format : Format) :
    Except StoreError Payload := do
  let snapshot ← store.snapshot reference
  match format, reference.selector with
  | .zip, none => return .archive (← snapshot.archive)
  | .zip, some _ => .error (.invalid "zip exports cannot address a selector")
  | .csv, none => return .bytes (← snapshot.table.csv none)
  | .csv, some "body" => return .bytes (← snapshot.table.csv none)
  | .csv, some selector =>
      .error (.invalid ("selector \"" ++ selector ++ "\" cannot be rendered as csv"))
  | .json, none => return .bytes (Text.bytesOf snapshot.document.compact)
  | .json, some selector =>
      match snapshot.document.select? selector with
      | some value => return .bytes (Text.bytesOf value.compact)
      | none =>
          .error (.notFound ("selector \"" ++ selector ++ "\" of " ++ reference.slug))

/-- The latest version of each dataset that has one. -/
def latest (store : Store) : List Version :=
  (Assoc.values store.datasets).filterMap fun history => history.head?.map Snapshot.version

def matchesFilters (params : ListParams) (version : Version) : Bool :=
  params.peername.all (· == version.username) && params.published.all (· == version.published)

/-- Order by user and name. -/
def nameLe (left right : Version) : Bool :=
  if left.username = right.username then left.name ≤ right.name
  else left.username < right.username

/-- Order by time, the latest first. -/
def timeLe (left right : Version) : Bool := !left.commitTime.before right.commitTime

def order (params : ListParams) : Version → Version → Bool :=
  if params.orderBy = some orderByName then nameLe else timeLe

/-- A window onto the latest versions that match, in order. -/
def list (store : Store) (params : ListParams) : List Version :=
  let sorted := (store.latest.filter (matchesFilters params)).mergeSort (order params)
  (sorted.drop params.offset).take params.limit

def matchesProfile (peername id : Option String) (profile : Profile) : Bool :=
  peername.all (· == profile.peername) && id.all (· == profile.id)

/-- The image of the first profile with the given name and identifier. -/
def image (store : Store) (kind : ImageKind) (peername id : Option String) :
    Except StoreError Image :=
  match store.profiles.find? (matchesProfile peername id) with
  | none => .error (.notFound ("profile " ++ (peername.or id).getD ""))
  | some profile =>
      match kind with
      | .photo => .ok profile.photo
      | .poster => .ok profile.poster

end Store
end DatasetService
