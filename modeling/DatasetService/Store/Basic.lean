import DatasetService.Assoc
import DatasetService.Error
import DatasetService.Json.Value
import DatasetService.Version

set_option autoImplicit false

/- A store: local histories, the histories that remotes hold, and profiles. -/
namespace DatasetService

/-- The owner and the name of a dataset. -/
structure DatasetKey where
  username : String
  name : String
deriving DecidableEq, Repr

def Reference.key (reference : Reference) : DatasetKey :=
  { username := reference.username, name := reference.name }

def Version.key (version : Version) : DatasetKey :=
  { username := version.username, name := version.name }

/-- Columns and rows. -/
structure Table where
  columns : List String
  rows : List (List Json.Value)
deriving BEq, Repr

/-- One stored version. -/
structure Snapshot where
  version : Version
  metadata : Json.Value
  table : Table
deriving Repr

structure Profile where
  id : String
  peername : String
  photo : Image
  poster : Image
deriving Repr

/-- Histories have the newest version first. A dataset with an empty history was made
known and has no version yet. -/
structure Store where
  datasets : Assoc DatasetKey (List Snapshot) := []
  remotes : Assoc String (Assoc DatasetKey (List Version)) := []
  profiles : List Profile := []
deriving Repr

/-- The name of the default registry. -/
def registryName : String := "registry"

namespace Store

/-- The remote that a name stands for: the empty name is that of the default registry. -/
def remoteName (remote : String) : String := if remote = "" then registryName else remote

def history? (store : Store) (key : DatasetKey) : Option (List Snapshot) :=
  Assoc.get? key store.datasets

/-- The versions of a dataset, none if it is not known. -/
def versions (store : Store) (key : DatasetKey) : List Snapshot := (store.history? key).getD []

def remote? (store : Store) (remote : String) : Option (Assoc DatasetKey (List Version)) :=
  Assoc.get? (remoteName remote) store.remotes

/-- Make a remote known. One that is known keeps its histories. -/
def addRemote (store : Store) (name : String) : Store :=
  match Assoc.get? name store.remotes with
  | some _ => store
  | none => { store with remotes := Assoc.set name [] store.remotes }

/-- A store that knows the default registry and nothing else. -/
def new : Store := ({} : Store).addRemote registryName

end Store

/-- A version as a remote reports it. -/
def Version.onRemote (version : Version) : Version :=
  { version with foreign := true, published := true }

end DatasetService
