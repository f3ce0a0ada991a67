import DatasetService.Proofs.History.Source
import DatasetService.Proofs.Store.Run

set_option autoImplicit false

/- Histories that are asked for from a version on. -/
namespace DatasetService

theorem Window.head_of_slice {α : Type} {window : Window} {items : List α} {first : α}
    (unshifted : window.offset = 0) (starts : (window.slice items).head? = some first) :
    items.head? = some first := by
  rw [slice, unshifted, List.drop_zero, List.head?_take] at starts
  split at starts
  · cases starts
  · exact starts

namespace Store

variable {store : Store} {reference : Reference} {path : String}

theorem start_of_fromPath? {history rest : List Snapshot}
    (starts : fromPath? history (some path) = some rest) :
    ∃ newest older, newest ∈ history ∧ rest = newest :: older ∧ newest.version.path = path := by
  let before (snapshot : Snapshot) : Bool := snapshot.version.path != path
  have first := List.head?_dropWhile_not before history
  have kept := (List.dropWhile_sublist before (l := history)).subset
  simp only [fromPath?] at starts
  split at starts
  · cases starts
  · rename_i filled
    cases starts
    obtain ⟨newest, older, found⟩ := List.exists_cons_of_ne_nil filled
    have from_ : history.dropWhile before = newest :: older := found
    rw [from_] at first kept
    exact ⟨newest, older, kept List.mem_cons_self, found, by simpa [before] using first⟩

theorem no_path_of_fromPath? {history : List Snapshot}
    (missing : fromPath? history (some path) = none) :
    ∀ snapshot ∈ history, snapshot.version.path ≠ path := by
  simp only [fromPath?] at missing
  split at missing
  · rename_i none
    intro snapshot member
    simpa using List.dropWhile_eq_nil_iff.mp none snapshot member
  · cases missing

variable (versioned : reference.path = some path)
include versioned

/-- Local history from a version on starts at that version. -/
theorem start_of_rest {items : List Version} (found : store.rest reference = .ok items) :
    ∃ newest ∈ store.versions reference.key, ∃ older,
      items = newest.version :: older ∧ newest.version.path = path := by
  unfold rest at found
  split at found
  · cases found
  · cases found
  · rename_i history _ known
    split at found
    · cases found
    · rename_i starts
      cases found
      rw [versioned] at starts
      obtain ⟨newest, older, member, rfl, at_⟩ := start_of_fromPath? starts
      rw [versions_of_history? known]
      exact ⟨newest, member, older.map Snapshot.version, rfl, at_⟩

/-- A version that local history does not have is at the path of none of its versions. -/
theorem no_path_of_rest {what : String} (missing : store.rest reference = .error (.notFound what)) :
    ∀ snapshot ∈ store.versions reference.key, snapshot.version.path ≠ path := by
  unfold rest at missing
  split at missing
  · rename_i unknown
    intro snapshot member
    rw [versions, unknown] at member
    cases member
  · cases missing
  · rename_i history _ known
    split at missing
    · rename_i none
      rw [versioned] at none
      rw [versions_of_history? known]
      exact no_path_of_fromPath? none
    · cases missing

end Store

namespace History

/-- Where a history that is asked for from the version at `path` on starts. Local history starts
at that version. A remote's starts at the newest version that the remote has of the dataset. -/
inductive StartsAt (store : Store) (remotes : Remotes) (params : LogParams) (path : String) :
    Origin → Version → Prop
  | here {newest : Snapshot} (unpulled : params.pull = false)
      (held : newest ∈ store.versions params.reference.key) (version : newest.version.path = path) :
      StartsAt store remotes params path .here newest.version
  | remote {newest : Version} {older : List Version}
      (asked : params.pull = true ∨ params.isLocal = false ∧
        ∀ snapshot ∈ store.versions params.reference.key, snapshot.version.path ≠ path)
      (held : store.fetch params.reference.dataset
        (fallbackRemote params.remote remotes.defaultRemote) = .ok (newest :: older)) :
      StartsAt store remotes params path .remote newest

theorem fetch_of_held {store : Store} {params : LogParams} {remote : String}
    {items : List Version} (found : held store params remote = .ok items) :
    store.fetch params.reference.dataset remote = .ok items := by
  unfold held at found
  split at found
  · rename_i fetched
    cases found
    exact fetched
  · cases found

/-- A history that is asked for from a version on, and not from an offset, starts at that version
if local history answers. If a remote answers, it starts at the newest version there, whichever
version is asked for. -/
theorem resolve_starts (clock : Nat → Instant) (scope : Scope) (remotes : Remotes)
    (params : LogParams) (world after : World Node) (resolution : Resolution) (path : String)
    (newest : Version) (versioned : params.reference.path = some path)
    (unshifted : params.list.offset = 0)
    (resolved : (resolve (Node.backend clock) scope remotes params).outcome world =
      (.ok resolution, after))
    (starts : resolution.items.head? = some newest) :
    StartsAt world.state.store remotes params path resolution.origin newest := by
  have ends : (resolve (Node.backend clock) scope remotes params).Ends world _ _ := ends_resolve
  unfold Action.Ends at ends
  rw [resolved] at ends
  obtain ⟨-, -, -, answered⟩ := ends
  cases answered with
  | here unpulled found =>
      have first := Window.head_of_slice unshifted starts
      obtain ⟨snapshot, member, older, rfl, version⟩ := Store.start_of_rest versioned found
      cases first
      exact .here unpulled member version
  | remote asked found =>
      -- The window is cut out of all that the remote holds: the path is not looked at again.
      have clamped : (Window.clamp params.list.limit params.list.offset).offset = 0 := by
        rw [Window.clamp_offset, unshifted, Nat.zero_min]
      obtain ⟨older, rfl⟩ := List.head?_eq_some_iff.mp (Window.head_of_slice clamped starts)
      refine .remote (asked.imp_right fun fallback => ?_) (fetch_of_held found)
      obtain ⟨undemanded, what, missing⟩ := fallback
      exact ⟨undemanded, Store.no_path_of_rest versioned missing⟩

section demonstration

open DatasetService.Store

/-- The world of the demonstration store. -/
def demonstrated : World Node := { state := { store := demonstration.store } }

/-- The history of the demonstration dataset from its second version on. -/
def fromSecondMovies : LogParams :=
  { reference :=
      { username := "peer", name := "movies"
        path := some (filmSnapshot (secondsClock 1) 1).version.path } }

/-- The second of three versions, and the one before it. -/
def secondMoviesOn : Resolution :=
  { items := [(filmSnapshot (secondsClock 1) 1).version, (filmSnapshot (secondsClock 2) 2).version]
    page := fromSecondMovies.list.page
    origin := .here }

theorem movies_start_at_second :
    fromSecondMovies.list.offset = 0 ∧ ∃ after,
      (resolve (Node.backend secondsClock) {} {} fromSecondMovies).outcome demonstrated =
        (.ok secondMoviesOn, after) ∧
      StartsAt demonstration.store {} fromSecondMovies
        (filmSnapshot (secondsClock 1) 1).version.path .here
        (filmSnapshot (secondsClock 1) 1).version := by
  have resolved :
      ((resolve (Node.backend secondsClock) {} {} fromSecondMovies).outcome demonstrated).1 =
        .ok secondMoviesOn := by
    decide +kernel
  cases ran : (resolve (Node.backend secondsClock) {} {} fromSecondMovies).outcome demonstrated with
  | mk result after =>
      rw [ran] at resolved
      cases resolved
      exact ⟨rfl, after, rfl, resolve_starts secondsClock {} {} fromSecondMovies demonstrated after
        secondMoviesOn _ _ rfl rfl ran rfl⟩

/-- The latest version of the census but five, of a registry that holds thirty of them. -/
def sixthCensus : Version := censusVersion (secondsClock (filmCount + 5)) 5

/-- The history of a dataset that only remotes hold, from its sixth version on. -/
def fromSixthCensus : LogParams :=
  { reference :=
      { username := "registry_peer", name := "census", path := some sixthCensus.path } }

/-- The registry has the version that is asked for, and answers from its newest version on. -/
theorem census_starts_at_newest :
    (∃ history, demonstration.store.fetch fromSixthCensus.reference "" = .ok history ∧
      sixthCensus ∈ history) ∧
    ∃ resolution after newest,
      (resolve (Node.backend secondsClock) {} {} fromSixthCensus).outcome demonstrated =
        (.ok resolution, after) ∧
      resolution.items.head? = some newest ∧ newest.path ≠ sixthCensus.path := by
  refine ⟨⟨_, rfl, ?_⟩, _, _, censusVersion (secondsClock filmCount) 0, rfl, rfl, ?_⟩
  · exact List.mem_map.mpr ⟨5, by decide, rfl⟩
  · decide +kernel

end demonstration

end History
end DatasetService
