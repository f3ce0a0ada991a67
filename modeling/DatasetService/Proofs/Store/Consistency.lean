import DatasetService.Proofs.Store.Run

set_option autoImplicit false

/- What is true of a store whatever was done to it: every version is named as its history
is, the versions of a history are published together, what is published is held by some
remote, and remotes hold copies only. -/
namespace DatasetService.Store

/-- A local version of a dataset. -/
structure Local (key : DatasetKey) (snapshot : Snapshot) : Prop where
  named : snapshot.version.key = key
  native : snapshot.version.foreign = false
  counted : snapshot.version.bodyRows = snapshot.table.rows.length

/-- What a remote holds of a dataset. -/
structure Copied (key : DatasetKey) (copies : List Version) : Prop where
  nonempty : copies ≠ []
  named : ∀ version ∈ copies, version.key = key
  foreign : ∀ version ∈ copies, version.foreign = true
  published : ∀ version ∈ copies, version.published = true

/-- Some remote has a history of a dataset. -/
def Held (store : Store) (key : DatasetKey) : Prop :=
  ∃ remote histories copies,
    Assoc.get? remote store.remotes = some histories ∧ Assoc.get? key histories = some copies

structure Consistent (store : Store) : Prop where
  isLocal : ∀ key, ∀ snapshot ∈ store.versions key, Local key snapshot
  uniform : ∀ key, ∀ first ∈ store.versions key, ∀ second ∈ store.versions key,
    first.version.published = second.version.published
  held : ∀ key, ∀ snapshot ∈ store.versions key,
    snapshot.version.published = true → store.Held key
  copied : ∀ remote histories key copies,
    (remote, histories) ∈ store.remotes → (key, copies) ∈ histories → Copied key copies

theorem mem_marked {store : Store} {key : DatasetKey} {published : Bool} {snapshot : Snapshot}
    (member : snapshot ∈ store.marked key published) :
    ∃ old ∈ store.versions key, setPublished published old = snapshot :=
  List.mem_map.mp member

theorem isLocal_newSnapshot (store : Store) (reference : Reference) (request : SaveRequest)
    (time : Instant) (table : Table) (bodySize : Nat) :
    Local reference.key (store.newSnapshot reference request time table bodySize) :=
  ⟨rfl, rfl, rfl⟩

theorem HistoryStep.isLocal {store : Store} {change : Change} {key : DatasetKey}
    {history : List Snapshot} (step : HistoryStep store change key history)
    (consistent : Consistent store) : ∀ snapshot ∈ history, Local key snapshot := by
  have old := consistent.isLocal key
  cases step with
  | unchanged => exact old
  | @grown reference request time table bodySize same made =>
      subst same
      intro snapshot member
      rcases List.mem_cons.mp member with rfl | older
      · exact isLocal_newSnapshot ..
      · exact old snapshot older
  | marked published =>
      intro snapshot member
      obtain ⟨source, known, rfl⟩ := mem_marked member
      exact ⟨(old source known).named, (old source known).native, (old source known).counted⟩

/-- A new version is published if the one before it is. -/
theorem published_newSnapshot {store : Store} {reference : Reference} (request : SaveRequest)
    (time : Instant) (table : Table) (bodySize : Nat) (consistent : Consistent store)
    {older : Snapshot} (member : older ∈ store.versions reference.key) :
    (store.newSnapshot reference request time table bodySize).version.published =
      older.version.published := by
  have uniform := consistent.uniform reference.key
  simp only [newSnapshot]
  cases versions : store.versions reference.key with
  | nil =>
      rw [versions] at member
      cases member
  | cons newest rest =>
      rw [versions] at uniform member
      exact uniform newest List.mem_cons_self older member

theorem HistoryStep.uniform {store : Store} {change : Change} {key : DatasetKey}
    {history : List Snapshot} (step : HistoryStep store change key history)
    (consistent : Consistent store) :
    ∀ first ∈ history, ∀ second ∈ history,
      first.version.published = second.version.published := by
  have old := consistent.uniform key
  cases step with
  | unchanged => exact old
  | @grown reference request time table bodySize same made =>
      subst same
      have inherits : ∀ older ∈ store.versions reference.key, _ := fun older =>
        published_newSnapshot request time table bodySize consistent
      intro first isFirst second isSecond
      rcases List.mem_cons.mp isFirst with rfl | firstOlder
      · rcases List.mem_cons.mp isSecond with rfl | secondOlder
        · rfl
        · exact inherits second secondOlder
      · rcases List.mem_cons.mp isSecond with rfl | secondOlder
        · exact (inherits first firstOlder).symm
        · exact old first firstOlder second secondOlder
  | marked published =>
      intro first isFirst second isSecond
      obtain ⟨firstSource, -, rfl⟩ := mem_marked isFirst
      obtain ⟨secondSource, -, rfl⟩ := mem_marked isSecond
      rfl

/-- A new version is not published on its own account. -/
theorem published_inherited {store : Store} {reference : Reference} {request : SaveRequest}
    {time : Instant} {table : Table} {bodySize : Nat}
    (published :
      (store.newSnapshot reference request time table bodySize).version.published = true) :
    ∃ older ∈ store.versions reference.key, older.version.published = true := by
  simp only [newSnapshot] at published
  cases versions : store.versions reference.key with
  | nil =>
      rw [versions] at published
      cases published
  | cons newest rest =>
      rw [versions] at published
      exact ⟨newest, List.mem_cons_self, published⟩

/-- A new map of one remote keeps a history held, if it reads as the old one for it. -/
theorem Held.setCopies {store : Store} {key : DatasetKey} (held : store.Held key)
    (remote : String) (changed : Assoc DatasetKey (List Version))
    (same : ∀ histories, Assoc.get? remote store.remotes = some histories →
      Assoc.get? key changed = Assoc.get? key histories) :
    (store.setCopies remote changed).Held key := by
  obtain ⟨holder, histories, copies, known, found⟩ := held
  by_cases isHolder : holder = remote
  · subst isHolder
    refine ⟨holder, changed, copies, Assoc.get?_set_self _ _ _, ?_⟩
    rw [same histories known, found]
  · refine ⟨holder, histories, copies, ?_, found⟩
    rw [remotes_setCopies, Assoc.get?_set_of_ne _ _ _ _ isHolder, known]

theorem held_setHistory (store : Store) (key other : DatasetKey) (history : List Snapshot) :
    (store.setHistory key history).Held other ↔ store.Held other := Iff.rfl

theorem held_step {store after : Store} {change : Change} (step : Step store change after)
    (consistent : Consistent store) (key : DatasetKey) :
    ∀ snapshot ∈ after.versions key, snapshot.version.published = true → after.Held key := by
  have old := consistent.held key
  cases step with
  | unchanged => exact old
  | @remoteAdded name unknown =>
      intro snapshot member published
      refine (old snapshot member published).setCopies name [] ?_
      intro histories known
      rw [unknown] at known
      cases known
  | @saved reference request time table bodySize read =>
      intro snapshot member published
      rw [held_setHistory]
      rw [versions_setHistory] at member
      split at member
      · rename_i same
        subst same
        rcases List.mem_cons.mp member with rfl | older
        · obtain ⟨older, isOlder, olderPublished⟩ := published_inherited published
          exact old older isOlder olderPublished
        · exact old snapshot older published
      · exact old snapshot member published
  | @published reference remote histories nonempty known =>
      intro snapshot member published
      by_cases same : key = reference.key
      · subst same
        exact ⟨remoteName remote, _, _, Assoc.get?_set_self _ _ _, Assoc.get?_set_self _ _ _⟩
      · rw [versions_setCopies, versions_setHistory, if_neg same] at member
        refine Held.setCopies (old snapshot member published) _ _ ?_
        intro others found
        rw [remote?] at known
        rw [known] at found
        cases found
        exact Assoc.get?_set_of_ne _ _ _ _ same
  | @unpublished reference remote histories nonempty known =>
      intro snapshot member published
      by_cases same : key = reference.key
      · subst same
        rw [versions_setCopies, versions_setHistory, if_pos rfl] at member
        obtain ⟨source, -, rfl⟩ := mem_marked member
        cases published
      · rw [versions_setCopies, versions_setHistory, if_neg same] at member
        refine Held.setCopies (old snapshot member published) _ _ ?_
        intro others found
        rw [remote?] at known
        rw [known] at found
        cases found
        exact Assoc.get?_remove_of_ne _ _ _ same

theorem copied_copiesOf {store : Store} {key : DatasetKey} (nonempty : store.versions key ≠ [])
    (named : ∀ snapshot ∈ store.versions key, Local key snapshot) (published : Bool) :
    Copied key (copiesOf (store.marked key published)) where
  nonempty := by simpa [copiesOf, marked] using nonempty
  named := by
    intro version member
    obtain ⟨snapshot, isMarked, rfl⟩ := List.mem_map.mp member
    obtain ⟨source, known, rfl⟩ := mem_marked isMarked
    exact (named source known).named
  foreign := by
    intro version member
    obtain ⟨snapshot, -, rfl⟩ := List.mem_map.mp member
    rfl
  published := by
    intro version member
    obtain ⟨snapshot, -, rfl⟩ := List.mem_map.mp member
    rfl

/-- Remotes have copies only, if the changed remote has copies only. -/
theorem copied_setCopies {store : Store} (consistent : Consistent store) (changed : String)
    (after : Assoc DatasetKey (List Version))
    (changedCopied : ∀ key copies, (key, copies) ∈ after → Copied key copies)
    (remote : String) (histories : Assoc DatasetKey (List Version)) (key : DatasetKey)
    (copies : List Version) (holds : (remote, histories) ∈ (store.setCopies changed after).remotes)
    (member : (key, copies) ∈ histories) : Copied key copies := by
  rw [remotes_setCopies] at holds
  rcases Assoc.mem_of_mem_set holds with new | old
  · cases new
    exact changedCopied key copies member
  · exact consistent.copied remote histories key copies old member

theorem copied_step {store after : Store} {change : Change} (step : Step store change after)
    (consistent : Consistent store) (remote : String)
    (histories : Assoc DatasetKey (List Version)) (key : DatasetKey) (copies : List Version)
    (holds : (remote, histories) ∈ after.remotes) (member : (key, copies) ∈ histories) :
    Copied key copies := by
  have old := consistent.copied
  cases step with
  | unchanged => exact old remote histories key copies holds member
  | @remoteAdded name unknown =>
      refine copied_setCopies consistent name [] ?_ remote histories key copies holds member
      intro key copies none
      cases none
  | saved read => exact old remote histories key copies holds member
  | @published reference name known nonempty isKnown =>
      refine copied_setCopies consistent (remoteName name) _ ?_ remote histories key copies holds
        member
      intro key copies member
      rcases Assoc.mem_of_mem_set member with new | kept
      · cases new
        exact copied_copiesOf nonempty (consistent.isLocal reference.key) true
      · exact old _ known key copies (Assoc.mem_of_get? isKnown) kept
  | @unpublished reference name known nonempty isKnown =>
      refine copied_setCopies consistent (remoteName name) _ ?_ remote histories key copies holds
        member
      intro key copies member
      exact old _ known key copies (Assoc.mem_of_get? isKnown) (Assoc.mem_of_mem_remove member)

theorem consistent_step {store after : Store} {change : Change} (step : Step store change after)
    (consistent : Consistent store) : Consistent after where
  isLocal := fun key => (step.history key).isLocal consistent
  uniform := fun key => (step.history key).uniform consistent
  held := held_step step consistent
  copied := copied_step step consistent

theorem consistent_new : Consistent new where
  isLocal := by
    intro key snapshot member
    cases member
  uniform := by
    intro key first member
    cases member
  held := by
    intro key snapshot member
    cases member
  copied := by
    intro remote histories key copies holds member
    cases List.mem_singleton.mp holds
    cases member

theorem versions_seeded (clock : Nat → Instant) (profileId : String) (key : DatasetKey) :
    (seeded clock profileId).versions key =
      if key = movies then (List.range filmCount).map fun age => filmSnapshot (clock age) age
      else [] := by
  simp only [versions, history?, seeded, Assoc.get?, eq_comm (a := key)]
  split
  · rfl
  · split <;> rfl

theorem isLocal_filmSnapshot (now : Instant) (age : Nat) : Local movies (filmSnapshot now age) :=
  ⟨rfl, rfl, rfl⟩

theorem published_filmSnapshot (now : Instant) (age : Nat) :
    (filmSnapshot now age).version.published = false := rfl

theorem mem_seeded {clock : Nat → Instant} {profileId : String} {key : DatasetKey}
    {snapshot : Snapshot} (member : snapshot ∈ (seeded clock profileId).versions key) :
    key = movies ∧ ∃ age < filmCount, filmSnapshot (clock age) age = snapshot := by
  rw [versions_seeded] at member
  split at member
  · rename_i same
    obtain ⟨age, isAge, made⟩ := List.mem_map.mp member
    exact ⟨same, age, List.mem_range.mp isAge, made⟩
  · cases member

/-- Every part of the history of the demonstration dataset that only remotes hold. -/
theorem copied_census {copies : List Version} (nonempty : copies ≠ [])
    (made : ∀ version ∈ copies, ∃ now age, censusVersion now age = version) :
    Copied census copies where
  nonempty := nonempty
  named := by
    intro version member
    obtain ⟨now, age, rfl⟩ := made version member
    rfl
  foreign := by
    intro version member
    obtain ⟨now, age, rfl⟩ := made version member
    rfl
  published := by
    intro version member
    obtain ⟨now, age, rfl⟩ := made version member
    rfl

theorem consistent_seeded (clock : Nat → Instant) (profileId : String) :
    Consistent (seeded clock profileId) where
  isLocal := by
    intro key snapshot member
    obtain ⟨rfl, age, -, rfl⟩ := mem_seeded member
    exact isLocal_filmSnapshot (clock age) age
  uniform := by
    intro key first isFirst second isSecond
    obtain ⟨rfl, firstAge, -, rfl⟩ := mem_seeded isFirst
    obtain ⟨-, secondAge, -, rfl⟩ := mem_seeded isSecond
    rw [published_filmSnapshot, published_filmSnapshot]
  held := by
    intro key snapshot member published
    obtain ⟨rfl, age, -, rfl⟩ := mem_seeded member
    rw [published_filmSnapshot] at published
    cases published
  copied := by
    intro remote histories key copies holds member
    have made : ∀ version ∈ (List.range 30).map fun age =>
        censusVersion (clock (filmCount + age)) age,
        ∃ now age, censusVersion now age = version := by
      intro version isMade
      obtain ⟨age, -, equal⟩ := List.mem_map.mp isMade
      exact ⟨_, _, equal⟩
    simp only [seeded, List.mem_cons, List.not_mem_nil, or_false, Prod.mk.injEq] at holds
    rcases holds with ⟨-, rfl⟩ | ⟨-, rfl⟩
    · cases List.mem_singleton.mp member
      exact copied_census (by simp) made
    · cases List.mem_singleton.mp member
      exact copied_census (by simp) fun version isTaken =>
        made version (List.mem_of_mem_take isTaken)

theorem consistent_start (start : Start) : Consistent start.store := by
  cases start with
  | empty => exact consistent_new
  | seeded clock profileId => exact consistent_seeded clock profileId

end DatasetService.Store
