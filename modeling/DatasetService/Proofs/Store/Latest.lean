import DatasetService.Proofs.Except
import DatasetService.Proofs.Store.Addresses
import DatasetService.Proofs.Store.Copies
import DatasetService.Proofs.Store.Immutability
import DatasetService.Proofs.Store.Isolation
import DatasetService.Proofs.Store.Listing

set_option autoImplicit false

/- The latest version of a dataset. Histories, lists, documents and queries each find it in their
own way, and all of them find the first version of the local history. -/
namespace DatasetService

/-- A dataset as it is written. -/
def DatasetKey.dataset (key : DatasetKey) : Reference :=
  { username := key.username, name := key.name }

namespace Store

/-- All ways to read a dataset lead to a version as the latest. -/
structure Latest (store : Store) (key : DatasetKey) (version : Version) : Prop where
  /-- The history starts with it. -/
  logged : ∀ params : ListParams, 0 < params.limit → params.offset = 0 →
    ∃ older, store.log key.dataset params = .ok (version :: older)
  /-- The list of all datasets has it, and no other entry for the dataset. -/
  listed : ∀ params : ListParams, params.peername = none → params.published = none →
    params.offset = 0 → store.latest.length ≤ params.limit →
      (store.list params).filter (·.key = key) = [version]
  /-- It is what is found under the name of the dataset, and under its own path. -/
  found : ∃ stored, stored.version = version ∧ ∀ selector,
    store.snapshot { key.dataset with selector } = .ok stored ∧
    store.snapshot { key.version version.path with selector } = .ok stored
  sent : ∀ selector format,
    store.get { key.dataset with selector } format =
      store.get { key.version version.path with selector } format
  asked : ∀ general pinned limit format,
    Query.parse general = .ok { reference := key.dataset, limit } →
    Query.parse pinned = .ok { reference := key.version version.path, limit } →
      store.exec general format = store.exec pinned format
  /-- The two queries as they are written, for a dataset that has a text. -/
  queried : key.dataset.WellFormed → key.dataset.hasName = true → ∀ limit format,
    store.exec (Query.text { reference := key.dataset, limit }) format =
      store.exec (Query.text { reference := key.version version.path, limit }) format

/-- What reads rely on: versions have the name of their history and a path that can be written, and
no dataset has two histories. -/
structure Orderly (store : Store) : Prop where
  consistent : Consistent store
  single : (Assoc.keys store.datasets).Nodup
  digested : ∀ key, ∀ snapshot ∈ store.versions key, ∃ message,
    snapshot.version.path = "/mem/" ++ String.ofList (Text.hexOf (Digest.sha256 message))

section reachable

theorem single_step {store after : Store} {change : Change} (step : Step store change after)
    (single : (Assoc.keys store.datasets).Nodup) : (Assoc.keys after.datasets).Nodup := by
  cases step with
  | unchanged => exact single
  | remoteAdded unknown => exact single
  | saved read => exact Assoc.nodup_keys_set _ _ single
  | published nonempty known => exact Assoc.nodup_keys_set _ _ single
  | unpublished nonempty known => exact Assoc.nodup_keys_set _ _ single

theorem orderly_step {store after : Store} {change : Change} (step : Step store change after)
    (orderly : Orderly store) : Orderly after where
  consistent := consistent_step step orderly.consistent
  single := single_step step orderly.single
  digested := by
    intro key snapshot member
    have history := step.history key
    generalize after.versions key = changed at history member
    cases history with
    | unchanged => exact orderly.digested key snapshot member
    | grown same made =>
        rcases List.mem_cons.mp member with rfl | older
        · exact ⟨_, rfl⟩
        · exact orderly.digested key snapshot older
    | marked published =>
        obtain ⟨old, known, rfl⟩ := mem_marked member
        exact orderly.digested key old known

theorem orderly_start (start : Start) : Orderly start.store where
  consistent := consistent_start start
  single := by
    cases start with
    | empty => exact List.nodup_nil
    | seeded clock profileId =>
        show [movies, empty].Nodup
        decide
  digested := by
    intro key snapshot member
    cases start with
    | empty => cases member
    | seeded clock profileId =>
        obtain ⟨-, age, -, rfl⟩ := mem_seeded member
        exact ⟨_, rfl⟩

theorem orderly_run (start : Start) (changes : List Change) : Orderly (start.store.run changes) :=
  run_keeps orderly_step changes (orderly_start start)

end reachable

section lists

theorem versions_of_mem {store : Store} (single : (Assoc.keys store.datasets).Nodup)
    {key : DatasetKey} {history : List Snapshot} (member : (key, history) ∈ store.datasets) :
    store.versions key = history :=
  versions_of_history? (Assoc.get?_of_mem single member)

/-- Of the newest versions of all histories, a dataset has the one of its own. -/
theorem filter_newest {map : Assoc DatasetKey (List Snapshot)} (distinct : (Assoc.keys map).Nodup)
    (named : ∀ key history, (key, history) ∈ map → ∀ snapshot ∈ history, snapshot.version.key = key)
    (key : DatasetKey) :
    ((Assoc.values map).filterMap fun history => history.head?.map Snapshot.version).filter
        (·.key = key) =
      ((((Assoc.get? key map).getD []).head?).map Snapshot.version).toList := by
  induction map with
  | nil => rfl
  | cons pair rest ih =>
      obtain ⟨other, history⟩ := pair
      obtain ⟨unique, others⟩ := List.nodup_cons.mp distinct
      have later := ih others fun key history member =>
        named key history (List.mem_cons_of_mem _ member)
      have first := named other history List.mem_cons_self
      by_cases same : other = key
      · subst same
        have own : Assoc.get? other ((other, history) :: rest) = some history := by
          simp only [Assoc.get?, if_true]
        rw [Assoc.get?_eq_none unique] at later
        rw [own]
        cases history with
        | nil => exact later
        | cons newest older =>
            have isNamed := first newest List.mem_cons_self
            exact (List.filter_cons_of_pos (by simpa using isNamed)).trans (congrArg _ later)
      · have elsewhere : Assoc.get? key ((other, history) :: rest) = Assoc.get? key rest := by
          simp only [Assoc.get?, if_neg same]
        rw [elsewhere, ← later]
        cases history with
        | nil => rfl
        | cons newest older =>
            have isNamed := first newest List.mem_cons_self
            exact List.filter_cons_of_neg (by simpa [isNamed] using same)

theorem filter_latest {store : Store} (orderly : Orderly store) (key : DatasetKey) :
    store.latest.filter (·.key = key) = (store.newest? key).toList := by
  apply filter_newest orderly.single
  intro other history member snapshot inside
  rw [← versions_of_mem orderly.single member] at inside
  exact (orderly.consistent.isLocal other snapshot inside).named

/-- A window that is large enough has all datasets. -/
theorem list_perm_latest {store : Store} {params : ListParams} (anyone : params.peername = none)
    (any : params.published = none) (unshifted : params.offset = 0)
    (large : store.latest.length ≤ params.limit) : (store.list params).Perm store.latest := by
  have all : store.latest.filter (matchesFilters params) = store.latest := by
    apply List.filter_eq_self.mpr
    intro version member
    simp [matchesFilters, anyone, any]
  have perm := store.sorted_perm params
  rw [all] at perm
  have whole : store.list params = store.sorted params := by
    rw [list_eq, Window.slice, ListParams.window, unshifted, List.drop_zero]
    apply List.take_of_length_le
    rw [perm.length_eq]
    exact large
  rw [whole]
  exact perm

end lists

section readings

variable {store : Store} {stored : Snapshot}

theorem get_of_snapshot (left right : Reference) (slug : left.slug = right.slug)
    (selector : left.selector = right.selector) (here : store.snapshot left = .ok stored)
    (there : store.snapshot right = .ok stored) (format : Format) :
    store.get left format = store.get right format := by
  simp only [get, here, there, bind, Except.bind, slug, selector]

theorem exec_of_snapshot {left right : Reference} {limit : Option Nat} {general pinned : String}
    (here : store.snapshot left = .ok stored) (there : store.snapshot right = .ok stored)
    (read : Query.parse general = .ok { reference := left, limit })
    (reread : Query.parse pinned = .ok { reference := right, limit }) (format : Format) :
    store.exec general format = store.exec pinned format := by
  simp only [exec, read, reread, here, there, bind, Except.bind]

/-- The same, for queries as they are written. A limit that is too large is refused in both. -/
theorem exec_text_of_snapshot {left right : Reference} (limit : Option Nat)
    (here : store.snapshot left = .ok stored) (there : store.snapshot right = .ok stored)
    (leftFormed : left.WellFormed) (rightFormed : right.WellFormed)
    (leftNamed : left.hasName = true) (rightNamed : right.hasName = true) (format : Format) :
    store.exec (Query.text { reference := left, limit }) format =
      store.exec (Query.text { reference := right, limit }) format := by
  have general := Query.parse_text { reference := left, limit } leftFormed leftNamed
  have pinned := Query.parse_text { reference := right, limit } rightFormed rightNamed
  by_cases small : limit.all (· ≤ Literal.maxCount) = true
  · rw [if_pos small] at general pinned
    exact exec_of_snapshot here there general pinned format
  · rw [if_neg small] at general pinned
    simp only [exec, general, pinned, bind, Except.bind]

theorem log_ne_ok {reference : Reference} (unsaved : store.versions reference.key = [])
    (params : ListParams) (versions : List Version) :
    store.log reference params ≠ .ok versions := by
  cases known : store.history? reference.key with
  | none => simp [log, known]
  | some history =>
      have none := versions_of_history? known
      rw [unsaved] at none
      simp [log, known, ← none]

end readings

section newest

variable {store : Store} {key : DatasetKey} {newest : Snapshot} {older : List Snapshot}
  (versions : store.versions key = newest :: older)
include versions

theorem snapshot_newest (selector : Option String) :
    store.snapshot { key.dataset with selector } = .ok newest ∧
    store.snapshot { key.version newest.version.path with selector } = .ok newest := by
  constructor
  · exact snapshot_of_versions versions (by simp [DatasetKey.dataset])
  · exact snapshot_of_versions versions (by simp [DatasetKey.version])

theorem log_newest {params : ListParams} (positive : 0 < params.limit)
    (unshifted : params.offset = 0) :
    ∃ older, store.log key.dataset params = .ok (newest.version :: older) := by
  have nonempty : store.versions key ≠ [] := by simp [versions]
  have known : store.history? key.dataset.key = some (newest :: older) := by
    rw [← versions]
    exact history?_of_nonempty nonempty
  have general : key.dataset.path = none := rfl
  obtain ⟨limit, isLimit⟩ := Nat.exists_eq_succ_of_ne_zero (Nat.ne_of_gt positive)
  refine ⟨(older.take limit).map Snapshot.version, ?_⟩
  simp only [log, known, general, fromPath?, unshifted, isLimit, List.drop_zero,
    List.take_succ_cons, List.map_cons]

theorem filter_list_newest (orderly : Orderly store) {params : ListParams}
    (anyone : params.peername = none) (any : params.published = none)
    (unshifted : params.offset = 0) (large : store.latest.length ≤ params.limit) :
    (store.list params).filter (·.key = key) = [newest.version] := by
  have perm := (list_perm_latest anyone any unshifted large).filter (·.key = key)
  rw [filter_latest orderly, newest?_of_versions versions] at perm
  exact List.perm_singleton.mp perm

theorem addressable_newest (orderly : Orderly store) (wellFormed : key.dataset.WellFormed)
    (named : key.dataset.hasName = true) : Addressable key newest.version.path := by
  obtain ⟨message, path⟩ := orderly.digested key newest (by simp [versions])
  rw [path]
  exact addressable_digest wellFormed named message

/-- In an orderly store every way to read leads to the first version of a history. -/
theorem latest_of_versions (orderly : Orderly store) : store.Latest key newest.version where
  logged := fun params positive unshifted => log_newest versions positive unshifted
  listed := fun params anyone any unshifted large =>
    filter_list_newest versions orderly anyone any unshifted large
  found := ⟨newest, rfl, snapshot_newest versions⟩
  sent := by
    intro selector format
    obtain ⟨here, there⟩ := snapshot_newest versions selector
    exact get_of_snapshot { key.dataset with selector }
      { key.version newest.version.path with selector } rfl rfl here there format
  asked := by
    intro general pinned limit format read reread
    obtain ⟨here, there⟩ := snapshot_newest versions none
    exact exec_of_snapshot here there read reread format
  queried := by
    intro wellFormed named limit format
    obtain ⟨here, there⟩ := snapshot_newest versions none
    have pinned := addressable_newest versions orderly wellFormed named
    exact exec_text_of_snapshot limit here there wellFormed pinned.wellFormed named pinned.named
      format

end newest

theorem Latest.unique {store : Store} {key : DatasetKey} {first second : Version}
    (left : store.Latest key first) (right : store.Latest key second) : first = second := by
  let params : ListParams := { limit := 1 }
  obtain ⟨_, ours⟩ := left.logged params Nat.one_pos rfl
  obtain ⟨_, theirs⟩ := right.logged params Nat.one_pos rfl
  cases ours.symm.trans theirs
  rfl

theorem latest_iff {store : Store} (orderly : Orderly store) (key : DatasetKey)
    (version : Version) : store.Latest key version ↔ store.newest? key = some version := by
  cases versions : store.versions key with
  | nil =>
      rw [newest?, versions]
      constructor
      · intro latest
        obtain ⟨_, logged⟩ := latest.logged { limit := 1 } Nat.one_pos rfl
        exact absurd logged (log_ne_ok versions _ _)
      · intro newest
        cases newest
  | cons newest older =>
      have isLatest := latest_of_versions versions orderly
      rw [newest?_of_versions versions, Option.some.injEq]
      constructor
      · exact isLatest.unique
      · rintro rfl
        exact isLatest

/-- Of all latest versions a call changes none but that of one dataset, and of that only the mark.
It returns that version. -/
structure Remarks (store after : Store) (key : DatasetKey) (published : Bool) (version : Version) :
    Prop where
  own : ∃ latest, store.Latest key latest ∧ version = { latest with published } ∧
    after.Latest key version
  others : ∀ other latest, other ≠ key → store.Latest other latest → after.Latest other latest

theorem remarks_of_marked {store after : Store} (before : Orderly store) (now : Orderly after)
    {key : DatasetKey} {newest : Snapshot} {older : List Snapshot}
    (versions : store.versions key = newest :: older) (published : Bool)
    (marked : ∀ other, after.newest? other =
      (store.setHistory key (store.marked key published)).newest? other) :
    Remarks store after key published (setPublished published newest).version where
  own := by
    refine ⟨newest.version, latest_of_versions versions before, rfl, ?_⟩
    rw [latest_iff now, marked, newest?_marked versions, if_pos rfl]
    rfl
  others := by
    intro other latest differs isLatest
    rw [latest_iff before] at isLatest
    rw [latest_iff now, marked, newest?_marked versions, if_neg differs]
    exact isLatest

/-- Whatever was done to a store, all ways to read a dataset that has versions lead to the same one
as its latest. After a save that is the version that the save returned. To publish or remove a
dataset changes nothing of it but whether it is marked as published. -/
theorem reads_agree_on_latest (start : Start) (changes : List Change) :
    (∀ key, (start.store.run changes).versions key ≠ [] →
      ∃! version, (start.store.run changes).Latest key version) ∧
    (∀ reference request time version after,
      (start.store.run changes).save reference request time = .ok (version, after) →
        after.Latest reference.key version) ∧
    ∀ reference remote version after,
      ((start.store.run changes).publish reference remote = .ok (version, after) →
        Remarks (start.store.run changes) after reference.key true version) ∧
      ((start.store.run changes).unpublish reference remote = .ok (version, after) →
        Remarks (start.store.run changes) after reference.key false version) := by
  have orderly := orderly_run start changes
  generalize start.store.run changes = store at orderly
  refine ⟨?_, ?_, ?_⟩
  · intro key nonempty
    obtain ⟨newest, older, versions⟩ := List.exists_cons_of_ne_nil nonempty
    have isLatest := latest_of_versions versions orderly
    exact ⟨newest.version, isLatest, fun other found => found.unique isLatest⟩
  · intro reference request time version after saved
    obtain ⟨table, bodySize, read, rfl, rfl⟩ := (save_eq_ok_iff ..).mp saved
    rw [latest_iff (orderly_step (.saved read) orderly), newest?_setHistory, if_pos rfl]
  · intro reference remote version after
    constructor
    · intro made
      obtain ⟨newest, older, histories, versions, known, rfl, rfl⟩ :=
        (publish_eq_ok_iff ..).mp made
      have nonempty : store.versions reference.key ≠ [] := by simp [versions]
      exact remarks_of_marked orderly (orderly_step (.published nonempty known) orderly) versions
        true fun other => newest?_setCopies _ _ _ other
    · intro made
      obtain ⟨newest, older, histories, copies, versions, known, -, rfl, rfl⟩ :=
        (unpublish_eq_ok_iff ..).mp made
      have nonempty : store.versions reference.key ≠ [] := by simp [versions]
      exact remarks_of_marked orderly (orderly_step (.unpublished nonempty known) orderly) versions
        false fun other => newest?_setCopies _ _ _ other

theorem release_reads_agree :
    (∃! version, (new.run release).Latest movies version) ∧
    (∃ version after, (new.run release).save moviesReference {} (secondsClock 50) =
      .ok (version, after) ∧ after.Latest movies version) ∧
    (∃ version after, (new.run release).publish moviesReference "" = .ok (version, after) ∧
      Remarks (new.run release) after movies true version) ∧
    ∃ version after, (new.run release).unpublish moviesReference "" = .ok (version, after) ∧
      Remarks (new.run release) after movies false version := by
  obtain ⟨agree, saves, marks⟩ := reads_agree_on_latest .empty release
  have nonempty : (new.run release).versions movies ≠ [] := by
    intro none
    have counted : ((new.run release).versions movies).length = 2 := by decide +kernel
    rw [none] at counted
    cases counted
  have saving : ((new.run release).save moviesReference {} (secondsClock 50)).isOk = true := by
    decide +kernel
  have publishing : ((new.run release).publish moviesReference "").isOk = true := by decide +kernel
  have removing : ((new.run release).unpublish moviesReference "").isOk = true := by decide +kernel
  obtain ⟨⟨saved, grown⟩, saveMade⟩ := exists_of_isOk saving
  obtain ⟨⟨published, shared⟩, publishMade⟩ := exists_of_isOk publishing
  obtain ⟨⟨removed, withdrawn⟩, removeMade⟩ := exists_of_isOk removing
  refine ⟨agree movies nonempty, ⟨saved, grown, saveMade, ?_⟩,
    ⟨published, shared, publishMade, ?_⟩, ⟨removed, withdrawn, removeMade, ?_⟩⟩
  · exact saves _ _ _ _ _ saveMade
  · exact (marks _ _ _ _).1 publishMade
  · exact (marks _ _ _ _).2 removeMade

end Store
end DatasetService
