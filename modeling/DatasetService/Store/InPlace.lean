import DatasetService.Store.Write

set_option autoImplicit false

/- Writing to a store in place, one map after the other. What was written before a failure
stays written. -/
namespace DatasetService

/-- Work on a store. -/
abbrev InPlace (α : Type) : Type := ExceptT StoreError (StateM Store) α

namespace InPlace

def putHistory (key : DatasetKey) (history : List Snapshot) : InPlace Unit :=
  modify fun store => { store with datasets := Assoc.set key history store.datasets }

def putCopies (remote : String) (histories : Assoc DatasetKey (List Version)) : InPlace Unit :=
  modify fun store => { store with remotes := Assoc.set remote histories store.remotes }

/-- The table of a new version is all that can fail, and the version is written after it. -/
def save (reference : Reference) (request : SaveRequest) (time : Instant) : InPlace Version := do
  let store ← get
  let history := store.versions reference.key
  match Store.newTable reference history.head? request.body with
  | .error error => throw error
  | .ok (table, bodySize) => do
      let snapshot := store.newSnapshot reference request time table bodySize
      putHistory reference.key (snapshot :: history)
      return snapshot.version

/-- The newest version of a dataset and those before it. Where there is none, the dataset is
not found, or it is `empty`. -/
def versionsOf (reference : Reference) (empty : StoreError) :
    InPlace (Snapshot × List Snapshot) := do
  match (← get).history? reference.key with
  | none => throw (.notFound reference.slug)
  | some [] => throw empty
  | some (newest :: older) => return (newest, older)

/-- What a known remote holds. -/
def copiesOn (remote : String) : InPlace (Assoc DatasetKey (List Version)) := do
  match (← get).remote? remote with
  | none => throw (Store.unknownRemote remote)
  | some histories => return histories

/-- The versions are marked first, and then copied to the remote. -/
def publish (reference : Reference) (remote : String) : InPlace Version := do
  let (newest, older) ← versionsOf reference (.noHistory reference.slug)
  let histories ← copiesOn remote
  let history := (newest :: older).map (Store.setPublished true)
  putHistory reference.key history
  putCopies (Store.remoteName remote)
    (Assoc.set reference.key (history.map fun snapshot => snapshot.version.onRemote) histories)
  return (Store.setPublished true newest).version

/-- The copies are removed first. Only then it shows whether there were any. -/
def unpublish (reference : Reference) (remote : String) : InPlace Version := do
  let (newest, older) ← versionsOf reference (.notFound reference.slug)
  let histories ← copiesOn remote
  putCopies (Store.remoteName remote) (Assoc.remove reference.key histories)
  if (Assoc.get? reference.key histories).isNone then
    throw (Store.missingOn reference remote)
  putHistory reference.key ((newest :: older).map (Store.setPublished false))
  return (Store.setPublished false newest).version

end InPlace
end DatasetService
