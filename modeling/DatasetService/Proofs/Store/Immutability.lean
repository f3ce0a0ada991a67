import DatasetService.Proofs.Store.QueryText
import DatasetService.Proofs.Store.Run

set_option autoImplicit false

/- Stored versions do not change. Saves put versions in front of a history, and publications
rewrite a mark that no document shows. So what is found at a path stays, and so does all that
is older. -/
namespace DatasetService

/-- A version but for whether it is published. -/
def Version.unmarked (version : Version) : Version := { version with published := false }

namespace Store

/-- The path of the version that a call makes is new to the history that it is put into. -/
def FreshPath (store : Store) (change : Change) : Prop :=
  ∀ version ∈ store.saved? change, ∀ old ∈ store.versions version.key,
    old.version.path ≠ version.path

def FreshPaths (store : Store) : List Change → Prop
  | [] => True
  | change :: changes => store.FreshPath change ∧ (store.apply change).FreshPaths changes

instance (store : Store) (change : Change) : Decidable (store.FreshPath change) :=
  inferInstanceAs (Decidable (∀ version ∈ store.saved? change,
    ∀ old ∈ store.versions version.key, old.version.path ≠ version.path))

instance decidableFreshPaths (store : Store) :
    (changes : List Change) → Decidable (store.FreshPaths changes)
  | [] => inferInstanceAs (Decidable True)
  | change :: changes =>
      have := decidableFreshPaths (store.apply change) changes
      inferInstanceAs (Decidable (store.FreshPath change ∧ (store.apply change).FreshPaths changes))

/-- A version of a dataset is stored at a path. -/
def Stored (store : Store) (key : DatasetKey) (path : String) : Prop :=
  ∃ snapshot ∈ store.versions key, snapshot.version.path = path

/-- A history from the version at a path on. -/
def since (path : String) (history : List Snapshot) : List Snapshot :=
  history.dropWhile fun snapshot => snapshot.version.path != path

/-- What no call changes of a history, for a path in it. -/
def past (store : Store) (key : DatasetKey) (path : String) : List Snapshot :=
  (since path (store.versions key)).map (setPublished false)

theorem setPublished_setPublished (first second : Bool) :
    setPublished first ∘ setPublished second = setPublished first := rfl

theorem since_map_setPublished (path : String) (published : Bool) (history : List Snapshot) :
    since path (history.map (setPublished published)) =
      (since path history).map (setPublished published) :=
  List.dropWhile_map

theorem since_cons_of_ne {path : String} {snapshot : Snapshot} (history : List Snapshot)
    (other : snapshot.version.path ≠ path) :
    since path (snapshot :: history) = since path history := by
  have passed : (snapshot.version.path != path) = true := by simpa using other
  simp only [since, List.dropWhile_cons, passed, if_true]

theorem HistoryStep.since {store : Store} {change : Change} {key : DatasetKey}
    {history : List Snapshot} {path : String} (step : HistoryStep store change key history)
    (fresh : store.FreshPath change) (stored : store.Stored key path) :
    (since path history).map (setPublished false) = store.past key path := by
  cases step with
  | unchanged => rfl
  | @grown reference request time table bodySize same made =>
      subst same
      obtain ⟨old, known, found⟩ := stored
      have other := (fresh _ made old known).symm
      rw [found] at other
      rw [since_cons_of_ne _ other, past]
  | marked published =>
      rw [Store.marked, since_map_setPublished, List.map_map, setPublished_setPublished, past]

theorem HistoryStep.stored {store : Store} {change : Change} {key : DatasetKey}
    {history : List Snapshot} {path : String} (step : HistoryStep store change key history)
    (stored : store.Stored key path) : ∃ snapshot ∈ history, snapshot.version.path = path := by
  obtain ⟨old, known, found⟩ := stored
  cases step with
  | unchanged => exact ⟨old, known, found⟩
  | grown same made => exact ⟨old, List.mem_cons_of_mem _ known, found⟩
  | marked published =>
      exact ⟨setPublished published old, List.mem_map.mpr ⟨old, known, rfl⟩, found⟩

theorem stored_run {store : Store} {key : DatasetKey} {path : String} (changes : List Change)
    (stored : store.Stored key path) : (store.run changes).Stored key path :=
  run_keeps (fun step stored => (step.history key).stored stored) changes stored

theorem past_run {store : Store} {key : DatasetKey} {path : String} (changes : List Change)
    (fresh : store.FreshPaths changes) (stored : store.Stored key path) :
    (store.run changes).past key path = store.past key path := by
  induction changes generalizing store with
  | nil => rfl
  | cons change changes ih =>
      have step := (step_apply store change).history key
      rw [run_cons, ih fresh.2 (step.stored stored)]
      exact step.since fresh.1 stored

theorem history?_of_stored {store : Store} {key : DatasetKey} {path : String}
    (stored : store.Stored key path) : store.history? key = some (store.versions key) := by
  obtain ⟨snapshot, member, -⟩ := stored
  exact history?_of_nonempty (List.ne_nil_of_mem member)

theorem exists_since {store : Store} {key : DatasetKey} {path : String}
    (stored : store.Stored key path) :
    ∃ found older, since path (store.versions key) = found :: older := by
  apply List.exists_cons_of_ne_nil
  intro none
  obtain ⟨snapshot, member, found⟩ := stored
  have passed := List.dropWhile_eq_nil_iff.mp none snapshot member
  simp [found] at passed

theorem fromPath?_of_stored {store : Store} {key : DatasetKey} {path : String}
    (stored : store.Stored key path) :
    fromPath? (store.versions key) (some path) = some (since path (store.versions key)) := by
  obtain ⟨found, older, equal⟩ := exists_since stored
  rw [equal]
  unfold since at equal
  simp only [fromPath?, equal]

theorem snapshot_of_stored {store : Store} {reference : Reference} {path : String}
    (given : reference.path = some path) (stored : store.Stored reference.key path) :
    ∃ found, store.snapshot reference = .ok found ∧
      (store.past reference.key path).head? = some (setPublished false found) := by
  obtain ⟨found, older, equal⟩ := exists_since stored
  refine ⟨found, ?_, by simp [past, equal]⟩
  simp only [snapshot, history?_of_stored stored, given, fromPath?_of_stored stored, equal,
    Option.bind_some, List.head?_cons]

theorem log_of_stored {store : Store} {reference : Reference} {path : String}
    (given : reference.path = some path) (stored : store.Stored reference.key path)
    (params : ListParams) :
    store.log reference params =
      .ok ((((since path (store.versions reference.key)).drop params.offset).take
        params.limit).map Snapshot.version) := by
  have known := history?_of_stored stored
  have reached := fromPath?_of_stored stored
  cases versions : store.versions reference.key with
  | nil =>
      obtain ⟨snapshot, member, -⟩ := stored
      rw [versions] at member
      cases member
  | cons newest older =>
      rw [versions] at known reached
      simp only [log, known, given, reached]

theorem table_setPublished (published : Bool) (snapshot : Snapshot) :
    (setPublished published snapshot).table = snapshot.table := rfl

theorem document_setPublished (published : Bool) (snapshot : Snapshot) :
    (setPublished published snapshot).document = snapshot.document := rfl

theorem archive_setPublished (published : Bool) (snapshot : Snapshot) :
    (setPublished published snapshot).archive = snapshot.archive := rfl

/-- No format shows whether a version is published. -/
theorem get_congr {store after : Store} {reference : Reference} {old new : Snapshot}
    (before : store.snapshot reference = .ok old) (now : after.snapshot reference = .ok new)
    (same : setPublished false new = setPublished false old) (format : Format) :
    after.get reference format = store.get reference format := by
  have document : new.document = old.document := by
    rw [← document_setPublished false new, same, document_setPublished]
  have table : new.table = old.table := by
    rw [← table_setPublished false new, same, table_setPublished]
  have archive : new.archive = old.archive := by
    rw [← archive_setPublished false new, same, archive_setPublished]
  simp only [get, before, now, bind, Except.bind, document, table, archive]

theorem exec_congr {store after : Store} {query : Query} {old new : Snapshot}
    (before : store.snapshot query.reference = .ok old)
    (now : after.snapshot query.reference = .ok new)
    (same : setPublished false new = setPublished false old) (text : String)
    (read : Query.parse text = .ok query) (format : Format) :
    after.exec text format = store.exec text format := by
  have table : new.table = old.table := by
    rw [← table_setPublished false new, same, table_setPublished]
  simp only [exec, read, before, now, bind, Except.bind, table]

/-- The versions in a window are, but for their mark, those of a history that is not published. -/
theorem unmarked_window (history : List Snapshot) (offset limit : Nat) :
    (((history.drop offset).take limit).map Snapshot.version).map Version.unmarked =
      (((history.map (setPublished false)).drop offset).take limit).map Snapshot.version := by
  rw [← List.map_drop, ← List.map_take, List.map_map, List.map_map]
  rfl

/-- At a path in its history, a dataset reads as before after any calls that may change the
store: as a document in any format, whole or in part, and through a query. Its log from there
on has the same versions in the same order, but for whether they are published. The paths of
new versions must be new to the history they come into. -/
theorem run_keeps_stored (store : Store) (reference : Reference) (path : String)
    (changes : List Change) (given : reference.path = some path)
    (stored : store.Stored reference.key path) (fresh : store.FreshPaths changes) :
    (∀ format, (store.run changes).get reference format = store.get reference format) ∧
    (reference.WellFormed → ∀ limit format,
      (store.run changes).exec (Query.text { reference, limit }) format =
        store.exec (Query.text { reference, limit }) format) ∧
    (∀ params, ∃ before now,
      store.log reference params = .ok before ∧
      (store.run changes).log reference params = .ok now ∧
      now.map Version.unmarked = before.map Version.unmarked) := by
  -- All three readings are functions of the past at the path, which no run changes.
  have kept := past_run changes fresh stored
  have still := stored_run changes stored
  obtain ⟨old, before, oldest⟩ := snapshot_of_stored given stored
  obtain ⟨new, now, newest⟩ := snapshot_of_stored given still
  have same : setPublished false new = setPublished false old := by
    rw [kept, oldest] at newest
    exact (Option.some.inj newest).symm
  refine ⟨get_congr before now same, ?_, ?_⟩
  · intro wellFormed limit format
    have named : reference.hasName = true := by
      rcases wellFormed.parts with ⟨-, none, -⟩ | ⟨name, -, -⟩
      · rw [given] at none
        cases none
      · simpa [Reference.hasName] using name.1
    have read := Query.parse_text { reference, limit } wellFormed named
    split at read
    · exact exec_congr before now same _ read format
    · simp only [exec, read, bind, Except.bind]
  · intro params
    refine ⟨_, _, log_of_stored given stored params, log_of_stored given still params, ?_⟩
    rw [unmarked_window, unmarked_window]
    exact congrArg (fun past => ((past.drop params.offset).take params.limit).map
      Snapshot.version) kept

/-- The second version of the demonstration dataset. -/
def secondMovies : Reference :=
  { moviesReference with path := some (filmSnapshot (secondsClock 1) 1).version.path }

theorem wellFormed_secondMovies : secondMovies.WellFormed := by
  have read : Reference.parseChars secondMovies.text.toList = .ok secondMovies := by decide +kernel
  exact ((Reference.parseChars_eq_ok_iff _ _).mp read).2

theorem renewal_keeps_stored :
    secondMovies.WellFormed ∧
    ∃ path, secondMovies.path = some path ∧
      demonstration.store.Stored secondMovies.key path ∧
      demonstration.store.FreshPaths renewal ∧
      (∀ format, (demonstration.store.run renewal).get secondMovies format =
        demonstration.store.get secondMovies format) ∧
      ∀ limit format,
        (demonstration.store.run renewal).exec (Query.text ⟨secondMovies, limit⟩) format =
          demonstration.store.exec (Query.text ⟨secondMovies, limit⟩) format := by
  have fresh : demonstration.store.FreshPaths renewal := by decide +kernel
  have stored : demonstration.store.Stored secondMovies.key
      (filmSnapshot (secondsClock 1) 1).version.path := by
    unfold Stored
    decide +kernel
  obtain ⟨documents, queries, -⟩ := run_keeps_stored demonstration.store secondMovies _ renewal
    rfl stored fresh
  exact ⟨wellFormed_secondMovies, _, rfl, stored, fresh, documents,
    queries wellFormed_secondMovies⟩

end Store
end DatasetService
