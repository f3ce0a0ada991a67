import DatasetService.Digest
import DatasetService.Store.Read

set_option autoImplicit false

/- Writing to a store. An operation either fails or returns the new store with the latest
version of the dataset. -/
namespace DatasetService.Store

/-- The path of a new version: a digest of the dataset's name, the path of the version
before it, the content given for it, and the time. -/
def versionPath (reference : Reference) (previous : Option Snapshot) (body : Option Upload)
    (time : Instant) : String :=
  let content := Text.bytesOf reference.slug ++
    (match previous with
      | some snapshot => Text.bytesOf snapshot.version.path
      | none => []) ++
    (match body with
      | some upload => upload.bytes
      | none => []) ++
    Text.bytesOf time.offsetText
  "/mem/" ++ String.ofList (Text.hexOf (Digest.sha256 content))

/-- The table of a new version and the size of its content. Without content both are those
of the version before. -/
def newTable (reference : Reference) (previous : Option Snapshot) (body : Option Upload) :
    Except StoreError (Table × Nat) :=
  match body, previous with
  | some upload, _ => (Table.ofUpload upload).map fun table => (table, upload.bytes.length)
  | none, some snapshot => .ok (snapshot.table, snapshot.version.bodySize)
  | none, none =>
      .error (.invalid (reference.slug ++ " has no versions yet, a body is required"))

def defaultTitle (previous : Option Snapshot) : String :=
  if previous.isSome then "updated dataset" else "created dataset"

def defaultMetadata (reference : Reference) : Json.Value :=
  .ofMembers [("title", .string reference.name)]

def profileId? (store : Store) (username : String) : Option String :=
  (store.profiles.find? fun profile => profile.peername == username).map Profile.id

/-- What a save stores of a table that it has read. One reading of the clock stands for two that
directly follow each other: the one that goes into the path, and the commit time. -/
def newSnapshot (store : Store) (reference : Reference) (request : SaveRequest) (time : Instant)
    (table : Table) (bodySize : Nat) : Snapshot :=
  let previous := (store.versions reference.key).head?
  { version :=
      { username := reference.username
        name := reference.name
        path := versionPath reference previous request.body time
        profileId := store.profileId? reference.username
        commitTime := time
        commitTitle := request.title.getD (defaultTitle previous)
        commitMessage := request.message
        bodyRows := table.rows.length
        bodySize
        published := (previous.map (·.version.published)).getD false
        foreign := false }
    metadata := (previous.map Snapshot.metadata).getD (defaultMetadata reference)
    table }

/-- Put a new version in front of the history of a dataset. -/
def save (store : Store) (reference : Reference) (request : SaveRequest) (time : Instant) :
    Except StoreError (Version × Store) := do
  let history := store.versions reference.key
  let (table, bodySize) ← newTable reference history.head? request.body
  let snapshot := store.newSnapshot reference request time table bodySize
  return (snapshot.version,
    { store with datasets := Assoc.set reference.key (snapshot :: history) store.datasets })

def setPublished (published : Bool) (snapshot : Snapshot) : Snapshot :=
  { snapshot with version := { snapshot.version with published } }

/-- Mark every version of a dataset as published, and copy its history to a remote. -/
def publish (store : Store) (reference : Reference) (remote : String) :
    Except StoreError (Version × Store) :=
  match store.history? reference.key with
  | none => .error (.notFound reference.slug)
  | some [] => .error (.noHistory reference.slug)
  | some (newest :: older) =>
      match store.remote? remote with
      | none => .error (unknownRemote remote)
      | some histories =>
          let history := (newest :: older).map (setPublished true)
          let copies := history.map fun snapshot => snapshot.version.onRemote
          .ok ((setPublished true newest).version,
            { store with
                datasets := Assoc.set reference.key history store.datasets
                remotes := Assoc.set (remoteName remote)
                  (Assoc.set reference.key copies histories) store.remotes })

/-- Remove a dataset from a remote, and mark every version of it as not published. -/
def unpublish (store : Store) (reference : Reference) (remote : String) :
    Except StoreError (Version × Store) :=
  match store.history? reference.key with
  | none => .error (.notFound reference.slug)
  | some [] => .error (.notFound reference.slug)
  | some (newest :: older) =>
      match store.remote? remote with
      | none => .error (unknownRemote remote)
      | some histories =>
          match Assoc.get? reference.key histories with
          | none => .error (missingOn reference remote)
          | some _ =>
              let history := (newest :: older).map (setPublished false)
              .ok ((setPublished false newest).version,
                { store with
                    datasets := Assoc.set reference.key history store.datasets
                    remotes := Assoc.set (remoteName remote)
                      (Assoc.remove reference.key histories) store.remotes })

end DatasetService.Store
