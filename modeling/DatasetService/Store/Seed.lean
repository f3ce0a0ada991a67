import DatasetService.Store.Write

set_option autoImplicit false

/- A store with data for demonstrations. -/
namespace DatasetService.Store

open Text (Bytes)

/-- The smallest valid PNG. -/
def pixel : Image :=
  { contentType := "image/png"
    bytes :=
      [0x89, 0x50, 0x4e, 0x47, 0x0d, 0x0a, 0x1a, 0x0a, 0x00, 0x00, 0x00, 0x0d, 0x49, 0x48, 0x44,
       0x52, 0x00, 0x00, 0x00, 0x01, 0x00, 0x00, 0x00, 0x01, 0x08, 0x06, 0x00, 0x00, 0x00, 0x1f,
       0x15, 0xc4, 0x89, 0x00, 0x00, 0x00, 0x0d, 0x49, 0x44, 0x41, 0x54, 0x78, 0x9c, 0x63, 0x00,
       0x01, 0x00, 0x00, 0x05, 0x00, 0x01, 0x0d, 0x0a, 0x2d, 0xb4, 0x00, 0x00, 0x00, 0x00, 0x49,
       0x45, 0x4e, 0x44, 0xae, 0x42, 0x60, 0x82] }

/-- A version that is so many hours old. -/
def seedVersion (now : Instant) (username name : String) (age rows : Nat) : Version :=
  let digest := Digest.sha256 (Text.bytesOf (username ++ "/" ++ name ++ "#" ++ toString age))
  { username, name
    path := "/mem/" ++ String.ofList (Text.hexOf digest)
    commitTime := now.addSeconds (-3600 * (age : Int))
    commitTitle := "version " ++ toString age
    bodyRows := rows
    bodySize := rows * 24 }

/-- A number with one decimal. -/
def tenths (value : Nat) : Json.Value :=
  match Binary.ofDecimal .double false value (-1) with
  | some number => .number (.float number)
  | none => .null

def film (title : String) (year rating : Nat) : List Json.Value :=
  [.string title, .ofNat year, tenths rating]

def films : List (List Json.Value) :=
  [film "Metropolis" 1927 83, film "Stalker" 1979 81, film "Alien" 1979 85,
   film "Heat" 1995 83, film "Arrival" 2016 79]

def filmMetadata : Json.Value :=
  .ofMembers [("title", .string "Movies"), ("description", .string "Films worth a rewatch")]

/-- Each older version lacks one more row. -/
def filmSnapshot (now : Instant) (age : Nat) : Snapshot :=
  let rows := films.take (films.length - age)
  { version := seedVersion now "peer" "movies" age rows.length
    metadata := filmMetadata
    table := { columns := ["title", "year", "rating"], rows } }

def movies : DatasetKey := { username := "peer", name := "movies" }

def empty : DatasetKey := { username := "peer", name := "empty" }

def census : DatasetKey := { username := "registry_peer", name := "census" }

def censusVersion (now : Instant) (age : Nat) : Version :=
  (seedVersion now census.username census.name age 0).onRemote

/-- How many versions of the first dataset are stored. -/
def filmCount : Nat := 3

/-- A dataset with three versions, one without any, a dataset of thirty versions that only
the registry holds, of which a second remote holds three, and a profile. The clock is read
once for each version, by its number. -/
def seeded (clock : Nat → Instant) (profileId : String) : Store :=
  let films := (List.range filmCount).map fun age => filmSnapshot (clock age) age
  let history := (List.range 30).map fun age => censusVersion (clock (filmCount + age)) age
  { datasets := [(movies, films), (empty, [])]
    remotes := [(registryName, [(census, history)]), ("archive", [(census, history.take 3)])]
    profiles := [{ id := profileId, peername := "peer", photo := pixel, poster := pixel }] }

end DatasetService.Store
