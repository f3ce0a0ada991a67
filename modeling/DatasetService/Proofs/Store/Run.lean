import DatasetService.Store.Seed

set_option autoImplicit false

/- Runs of the calls that may change a store. What one call can do is said once, by `Step`;
what holds after any run follows from it by induction. -/
namespace DatasetService

namespace Store

/-- A call that may change a store. A save comes with its reading of the clock. -/
inductive Change
  | addRemote (name : String)
  | save (reference : Reference) (request : SaveRequest) (time : Instant)
  | publish (reference : Reference) (remote : String)
  | unpublish (reference : Reference) (remote : String)

/-- The store after an operation. One that fails leaves it as it was. -/
def kept (store : Store) : Except StoreError (Version × Store) → Store
  | .ok (_, after) => after
  | .error _ => store

def apply (store : Store) : Change → Store
  | .addRemote name => store.addRemote name
  | .save reference request time => store.kept (store.save reference request time)
  | .publish reference remote => store.kept (store.publish reference remote)
  | .unpublish reference remote => store.kept (store.unpublish reference remote)

def run (store : Store) (changes : List Change) : Store := changes.foldl apply store

@[simp] theorem run_nil (store : Store) : store.run [] = store := rfl

@[simp] theorem run_cons (store : Store) (change : Change) (changes : List Change) :
    store.run (change :: changes) = (store.apply change).run changes := rfl

def setHistory (store : Store) (key : DatasetKey) (history : List Snapshot) : Store :=
  { store with datasets := Assoc.set key history store.datasets }

def setCopies (store : Store) (remote : String) (histories : Assoc DatasetKey (List Version)) :
    Store :=
  { store with remotes := Assoc.set remote histories store.remotes }

theorem history?_setHistory (store : Store) (key other : DatasetKey) (history : List Snapshot) :
    (store.setHistory key history).history? other =
      if other = key then some history else store.history? other :=
  Assoc.get?_set key other history store.datasets

@[simp] theorem remotes_setCopies (store : Store) (remote : String)
    (histories : Assoc DatasetKey (List Version)) :
    (store.setCopies remote histories).remotes = Assoc.set remote histories store.remotes := rfl

theorem versions_of_history? {store : Store} {key : DatasetKey} {history : List Snapshot}
    (found : store.history? key = some history) : store.versions key = history := by
  simp only [versions, found, Option.getD_some]

theorem history?_of_nonempty {store : Store} {key : DatasetKey}
    (nonempty : store.versions key ≠ []) : store.history? key = some (store.versions key) := by
  cases known : store.history? key with
  | none => exact absurd (by simp only [versions, known, Option.getD_none]) nonempty
  | some history => rw [versions_of_history? known]

/-- Which version is found does not depend on the selector. -/
theorem snapshot_of_selector {store : Store} {reference : Reference} {found : Snapshot}
    (located : store.snapshot reference = .ok found) (selector : Option String) :
    store.snapshot { reference with selector } = .ok found := by
  have key : ({ reference with selector } : Reference).key = reference.key := rfl
  have path : ({ reference with selector } : Reference).path = reference.path := rfl
  unfold snapshot at located ⊢
  rw [key, path]
  split at located
  · cases located
  · split at located
    · exact located
    · cases located

/-- The newest version is found by the name of its dataset, and by its own path. -/
theorem snapshot_of_versions {store : Store} {reference : Reference} {newest : Snapshot}
    {older : List Snapshot} (versions : store.versions reference.key = newest :: older)
    (addressed : ∀ path ∈ reference.path, path = newest.version.path) :
    store.snapshot reference = .ok newest := by
  have known := history?_of_nonempty (by simp [versions] : store.versions reference.key ≠ [])
  unfold snapshot
  rw [known, versions]
  cases given : reference.path with
  | none => rfl
  | some path =>
      obtain rfl := addressed path given
      simp [fromPath?]

theorem versions_setHistory (store : Store) (key other : DatasetKey) (history : List Snapshot) :
    (store.setHistory key history).versions other =
      if other = key then history else store.versions other := by
  simp only [versions, history?_setHistory]
  split <;> rfl

@[simp] theorem versions_setCopies (store : Store) (remote : String)
    (histories : Assoc DatasetKey (List Version)) (key : DatasetKey) :
    (store.setCopies remote histories).versions key = store.versions key := rfl

/-- The newest version of a dataset, if it has any. -/
def newest? (store : Store) (key : DatasetKey) : Option Version :=
  (store.versions key).head?.map Snapshot.version

theorem newest?_of_versions {store : Store} {key : DatasetKey} {newest : Snapshot}
    {older : List Snapshot} (versions : store.versions key = newest :: older) :
    store.newest? key = some newest.version := by
  rw [newest?, versions]
  rfl

theorem newest?_setHistory (store : Store) (key other : DatasetKey) (newest : Snapshot)
    (older : List Snapshot) :
    (store.setHistory key (newest :: older)).newest? other =
      if other = key then some newest.version else store.newest? other := by
  unfold newest?
  rw [versions_setHistory]
  by_cases same : other = key
  · rw [if_pos same, if_pos same]
    rfl
  · rw [if_neg same, if_neg same]

@[simp] theorem newest?_setCopies (store : Store) (remote : String)
    (histories : Assoc DatasetKey (List Version)) (key : DatasetKey) :
    (store.setCopies remote histories).newest? key = store.newest? key := rfl

theorem save_eq_ok_iff (store : Store) (reference : Reference) (request : SaveRequest)
    (time : Instant) (version : Version) (after : Store) :
    store.save reference request time = .ok (version, after) ↔
      ∃ table bodySize,
        newTable reference (store.versions reference.key).head? request.body =
          .ok (table, bodySize) ∧
        version = (store.newSnapshot reference request time table bodySize).version ∧
        after = store.setHistory reference.key
          (store.newSnapshot reference request time table bodySize ::
            store.versions reference.key) := by
  unfold save
  dsimp only
  cases newTable reference (store.versions reference.key).head? request.body with
  | error error => simp [bind, Except.bind]
  | ok read =>
      obtain ⟨table, bodySize⟩ := read
      constructor
      · intro success
        cases success
        exact ⟨table, bodySize, rfl, rfl, rfl⟩
      · rintro ⟨table, bodySize, equal, rfl, rfl⟩
        cases equal
        rfl

theorem addRemote_of_known {store : Store} {name : String}
    {histories : Assoc DatasetKey (List Version)}
    (known : Assoc.get? name store.remotes = some histories) : store.addRemote name = store := by
  simp only [addRemote, known]

theorem addRemote_of_unknown {store : Store} {name : String}
    (unknown : Assoc.get? name store.remotes = none) :
    store.addRemote name = store.setCopies name [] := by
  simp only [addRemote, unknown, setCopies]

/-- A history as a remote has it. -/
def copiesOf (history : List Snapshot) : List Version :=
  history.map fun snapshot => snapshot.version.onRemote

/-- The versions of a dataset, marked as published or not. -/
def marked (store : Store) (key : DatasetKey) (published : Bool) : List Snapshot :=
  (store.versions key).map (setPublished published)

theorem newest?_marked {store : Store} {key : DatasetKey} {newest : Snapshot}
    {older : List Snapshot} (versions : store.versions key = newest :: older) (published : Bool)
    (other : DatasetKey) :
    (store.setHistory key (store.marked key published)).newest? other =
      if other = key then some { newest.version with published } else store.newest? other := by
  rw [marked, versions, List.map_cons, newest?_setHistory]
  rfl

theorem publish_eq_ok_iff (store : Store) (reference : Reference) (remote : String)
    (version : Version) (after : Store) :
    store.publish reference remote = .ok (version, after) ↔
      ∃ newest older histories,
        store.versions reference.key = newest :: older ∧
        store.remote? remote = some histories ∧
        version = (setPublished true newest).version ∧
        after = (store.setHistory reference.key (store.marked reference.key true)).setCopies
          (remoteName remote)
          (Assoc.set reference.key (copiesOf (store.marked reference.key true)) histories) := by
  cases found : store.history? reference.key with
  | none => simp [publish, versions, found]
  | some history =>
      cases history with
      | nil => simp [publish, versions, found]
      | cons newest older =>
          cases known : store.remote? remote with
          | none => simp [publish, found, known]
          | some histories =>
              have same : store.marked reference.key true =
                  (newest :: older).map (setPublished true) := by
                rw [marked, versions_of_history? found]
              simp only [publish, found, known, versions_of_history? found, same]
              constructor
              · intro success
                cases success
                exact ⟨newest, older, histories, rfl, rfl, rfl, rfl⟩
              · rintro ⟨_, _, _, first, held, rfl, rfl⟩
                cases first
                cases held
                rfl

theorem unpublish_eq_ok_iff (store : Store) (reference : Reference) (remote : String)
    (version : Version) (after : Store) :
    store.unpublish reference remote = .ok (version, after) ↔
      ∃ newest older histories copies,
        store.versions reference.key = newest :: older ∧
        store.remote? remote = some histories ∧
        Assoc.get? reference.key histories = some copies ∧
        version = (setPublished false newest).version ∧
        after = (store.setHistory reference.key (store.marked reference.key false)).setCopies
          (remoteName remote) (Assoc.remove reference.key histories) := by
  cases found : store.history? reference.key with
  | none => simp [unpublish, versions, found]
  | some history =>
      cases history with
      | nil => simp [unpublish, versions, found]
      | cons newest older =>
          cases known : store.remote? remote with
          | none => simp [unpublish, found, known]
          | some histories =>
              have same : store.marked reference.key false =
                  (newest :: older).map (setPublished false) := by
                rw [marked, versions_of_history? found]
              cases held : Assoc.get? reference.key histories with
              | none =>
                  simp only [unpublish, found, known, held]
                  constructor
                  · intro success
                    cases success
                  · rintro ⟨_, _, _, _, -, isKnown, isHeld, -, -⟩
                    cases isKnown
                    cases held.symm.trans isHeld
              | some copies =>
                  simp only [unpublish, found, known, held, versions_of_history? found, same]
                  constructor
                  · intro success
                    cases success
                    exact ⟨newest, older, histories, copies, rfl, rfl, held, rfl, rfl⟩
                  · rintro ⟨_, _, _, _, first, isKnown, -, rfl, rfl⟩
                    cases first
                    cases isKnown
                    rfl

/-- All that one call can do to a store. -/
inductive Step (store : Store) : Change → Store → Prop
  | unchanged {change : Change} : Step store change store
  | remoteAdded {name : String} (unknown : Assoc.get? name store.remotes = none) :
      Step store (.addRemote name) (store.setCopies name [])
  | saved {reference : Reference} {request : SaveRequest} {time : Instant} {table : Table}
      {bodySize : Nat}
      (read : newTable reference (store.versions reference.key).head? request.body =
        .ok (table, bodySize)) :
      Step store (.save reference request time)
        (store.setHistory reference.key
          (store.newSnapshot reference request time table bodySize ::
            store.versions reference.key))
  | published {reference : Reference} {remote : String}
      {histories : Assoc DatasetKey (List Version)}
      (nonempty : store.versions reference.key ≠ [])
      (known : store.remote? remote = some histories) :
      Step store (.publish reference remote)
        ((store.setHistory reference.key (store.marked reference.key true)).setCopies
          (remoteName remote)
          (Assoc.set reference.key (copiesOf (store.marked reference.key true)) histories))
  | unpublished {reference : Reference} {remote : String}
      {histories : Assoc DatasetKey (List Version)}
      (nonempty : store.versions reference.key ≠ [])
      (known : store.remote? remote = some histories) :
      Step store (.unpublish reference remote)
        ((store.setHistory reference.key (store.marked reference.key false)).setCopies
          (remoteName remote) (Assoc.remove reference.key histories))

theorem step_addRemote (store : Store) (name : String) :
    Step store (.addRemote name) (store.apply (.addRemote name)) := by
  simp only [apply]
  cases known : Assoc.get? name store.remotes with
  | none =>
      rw [addRemote_of_unknown known]
      exact .remoteAdded known
  | some histories =>
      rw [addRemote_of_known known]
      exact .unchanged

theorem step_save (store : Store) (reference : Reference) (request : SaveRequest)
    (time : Instant) :
    Step store (.save reference request time) (store.apply (.save reference request time)) := by
  simp only [apply]
  cases outcome : store.save reference request time with
  | error error => exact .unchanged
  | ok result =>
      obtain ⟨version, after⟩ := result
      obtain ⟨table, bodySize, read, -, rfl⟩ := (save_eq_ok_iff ..).mp outcome
      exact .saved read

theorem step_publish (store : Store) (reference : Reference) (remote : String) :
    Step store (.publish reference remote) (store.apply (.publish reference remote)) := by
  simp only [apply]
  cases outcome : store.publish reference remote with
  | error error => exact .unchanged
  | ok result =>
      obtain ⟨version, after⟩ := result
      obtain ⟨newest, older, histories, versions, known, -, rfl⟩ :=
        (publish_eq_ok_iff ..).mp outcome
      have nonempty : store.versions reference.key ≠ [] := by simp [versions]
      exact .published nonempty known

theorem step_unpublish (store : Store) (reference : Reference) (remote : String) :
    Step store (.unpublish reference remote) (store.apply (.unpublish reference remote)) := by
  simp only [apply]
  cases outcome : store.unpublish reference remote with
  | error error => exact .unchanged
  | ok result =>
      obtain ⟨version, after⟩ := result
      obtain ⟨newest, older, histories, copies, versions, known, -, -, rfl⟩ :=
        (unpublish_eq_ok_iff ..).mp outcome
      have nonempty : store.versions reference.key ≠ [] := by simp [versions]
      exact .unpublished nonempty known

theorem step_apply (store : Store) (change : Change) : Step store change (store.apply change) := by
  cases change with
  | addRemote name => exact step_addRemote store name
  | save reference request time => exact step_save store reference request time
  | publish reference remote => exact step_publish store reference remote
  | unpublish reference remote => exact step_unpublish store reference remote

/-- What every step keeps is kept by every run. -/
theorem run_keeps {holds : Store → Prop}
    (step : ∀ {store after : Store} {change : Change}, Step store change after →
      holds store → holds after)
    {store : Store} (changes : List Change) (start : holds store) : holds (store.run changes) := by
  induction changes generalizing store with
  | nil => exact start
  | cons change changes ih => exact ih (step (step_apply store change) start)

/-- The version that a call makes, if it is a save and succeeds. -/
def saved? (store : Store) : Change → Option Version
  | .save reference request time =>
      match store.save reference request time with
      | .ok (version, _) => some version
      | .error _ => none
  | _ => none

theorem saved?_eq {store : Store} {reference : Reference} {request : SaveRequest} {time : Instant}
    {table : Table} {bodySize : Nat}
    (read : newTable reference (store.versions reference.key).head? request.body =
      .ok (table, bodySize)) :
    store.saved? (.save reference request time) =
      some (store.newSnapshot reference request time table bodySize).version := by
  have success := (save_eq_ok_iff store reference request time _ _).mpr
    ⟨table, bodySize, read, rfl, rfl⟩
  simp only [saved?, success]

/-- What one call can do to the history of a dataset: nothing, put the version that the call
makes in front, or mark every version. -/
inductive HistoryStep (store : Store) (change : Change) (key : DatasetKey) : List Snapshot → Prop
  | unchanged : HistoryStep store change key (store.versions key)
  | grown {reference : Reference} {request : SaveRequest} {time : Instant} {table : Table}
      {bodySize : Nat} (same : reference.key = key)
      (made : store.saved? change =
        some (store.newSnapshot reference request time table bodySize).version) :
      HistoryStep store change key
        (store.newSnapshot reference request time table bodySize :: store.versions key)
  | marked (published : Bool) : HistoryStep store change key (store.marked key published)

theorem Step.history {store after : Store} {change : Change} (step : Step store change after)
    (key : DatasetKey) : HistoryStep store change key (after.versions key) := by
  cases step with
  | unchanged => exact .unchanged
  | remoteAdded unknown =>
      rw [versions_setCopies]
      exact .unchanged
  | @saved reference request time table bodySize read =>
      rw [versions_setHistory]
      split
      · rename_i same
        subst same
        exact .grown rfl (saved?_eq read)
      · exact .unchanged
  | published nonempty known =>
      rw [versions_setCopies, versions_setHistory]
      split
      · rename_i same
        subst same
        exact .marked true
      · exact .unchanged
  | unpublished nonempty known =>
      rw [versions_setCopies, versions_setHistory]
      split
      · rename_i same
        subst same
        exact .marked false
      · exact .unchanged

/-- The versions that a run makes, in the order in which they are made. -/
def commits (store : Store) : List Change → List Version
  | [] => []
  | change :: changes => (store.saved? change).toList ++ (store.apply change).commits changes

/-- Where a run begins: a store with nothing in it, or one with data for demonstrations. -/
inductive Start
  | empty
  | seeded (clock : Nat → Instant) (profileId : String)

def Start.store : Start → Store
  | .empty => Store.new
  | .seeded clock profileId => Store.seeded clock profileId

/-- A clock that is read once a second. -/
def secondsClock (reading : Nat) : Instant := { seconds := reading }

def demonstration : Start := .seeded secondsClock "profile"

def moviesReference : Reference := { username := "peer", name := "movies" }

/-- Saves and publications in turn, of which the second removal fails. -/
def renewal : List Change :=
  [.publish moviesReference "", .save moviesReference {} (secondsClock 40),
   .addRemote "spare", .unpublish moviesReference "",
   .save moviesReference { title := some "again" } (secondsClock 41),
   .unpublish moviesReference "spare"]

end Store
end DatasetService
