import DatasetService.Proofs.Store.Copies

set_option autoImplicit false

/- What it says of a dataset that its versions are marked as published. A publication marks all of
them, and a removal unmarks all of them, whichever remote it is from: so the mark is that of the
last of these calls. It tells whether some remote holds the dataset as long as a removal leaves none
that does. -/
namespace DatasetService.Store

/-- The mark that a call puts on the versions of a dataset, if it publishes or removes it. -/
def mark? (store : Store) (key : DatasetKey) : Change → Option Bool
  | .publish reference remote =>
      if reference.key = key ∧ (store.publish reference remote).isOk = true then some true else none
  | .unpublish reference remote =>
      if reference.key = key ∧ (store.unpublish reference remote).isOk = true then some false
      else none
  | _ => none

theorem mark?_publish {store : Store} {reference : Reference} {remote : String}
    {result : Version × Store} (made : store.publish reference remote = .ok result)
    (key : DatasetKey) : store.mark? key (.publish reference remote) =
      if reference.key = key then some true else none := by
  simp [mark?, made, Except.isOk, Except.toBool]

theorem mark?_unpublish {store : Store} {reference : Reference} {remote : String}
    {result : Version × Store} (made : store.unpublish reference remote = .ok result)
    (key : DatasetKey) : store.mark? key (.unpublish reference remote) =
      if reference.key = key then some false else none := by
  simp [mark?, made, Except.isOk, Except.toBool]

/-- The mark that a run puts on the versions of a dataset last. -/
def lastMark? (store : Store) (key : DatasetKey) : List Change → Option Bool
  | [] => none
  | change :: changes =>
      ((store.apply change).lastMark? key changes).or (store.mark? key change)

/-- Whether the newest version of a dataset is marked, and with it all the others. -/
def isMarked (store : Store) (key : DatasetKey) : Bool :=
  ((store.newest? key).map (·.published)).getD false

theorem published_eq_isMarked {store : Store} (consistent : Consistent store) {key : DatasetKey}
    {snapshot : Snapshot} (member : snapshot ∈ store.versions key) :
    snapshot.version.published = store.isMarked key := by
  have uniform := consistent.uniform key
  cases versions : store.versions key with
  | nil =>
      rw [versions] at member
      cases member
  | cons newest older =>
      rw [versions] at uniform member
      rw [isMarked, newest?_of_versions versions]
      exact uniform snapshot member newest List.mem_cons_self

theorem versions_addRemote (store : Store) (name : String) (key : DatasetKey) :
    (store.addRemote name).versions key = store.versions key := by
  cases known : Assoc.get? name store.remotes with
  | none => rw [addRemote_of_unknown known, versions_setCopies]
  | some histories => rw [addRemote_of_known known]

theorem isMarked_of_marked {store : Store} {key other : DatasetKey} {newest : Snapshot}
    {older : List Snapshot} (versions : store.versions key = newest :: older) (mark : Bool) :
    (store.setHistory key (store.marked key mark)).isMarked other =
      if other = key then mark else store.isMarked other := by
  unfold isMarked
  rw [newest?_marked versions]
  by_cases same : other = key
  · rw [if_pos same, if_pos same]
    rfl
  · rw [if_neg same, if_neg same]

/-- A call leaves the mark that it puts, and else the one that it finds. -/
theorem isMarked_apply (store : Store) (key : DatasetKey) (change : Change) :
    (store.apply change).isMarked key = (store.mark? key change).getD (store.isMarked key) := by
  cases change with
  | addRemote name =>
      show (store.addRemote name).isMarked key = store.isMarked key
      unfold isMarked newest?
      rw [versions_addRemote]
  | save reference request time =>
      show (store.kept (store.save reference request time)).isMarked key = store.isMarked key
      cases outcome : store.save reference request time with
      | error error => rfl
      | ok result =>
          obtain ⟨version, after⟩ := result
          obtain ⟨table, bodySize, -, -, rfl⟩ := (save_eq_ok_iff ..).mp outcome
          show (store.setHistory _ _).isMarked key = _
          unfold isMarked
          rw [newest?_setHistory]
          by_cases same : key = reference.key
          · -- A new version takes over the mark of the one before it.
            rw [if_pos same, same, newest?, Option.map_map]
            rfl
          · rw [if_neg same]
  | publish reference remote =>
      show (store.kept (store.publish reference remote)).isMarked key = _
      cases outcome : store.publish reference remote with
      | error error => simp [kept, mark?, outcome, Except.isOk, Except.toBool]
      | ok result =>
          obtain ⟨version, after⟩ := result
          obtain ⟨newest, older, histories, versions, -, -, rfl⟩ :=
            (publish_eq_ok_iff ..).mp outcome
          show (store.setHistory _ _).isMarked key = _
          rw [isMarked_of_marked versions, mark?_publish outcome]
          by_cases same : key = reference.key
          · rw [if_pos same, if_pos same.symm]
            rfl
          · rw [if_neg same, if_neg (Ne.symm same)]
            rfl
  | unpublish reference remote =>
      show (store.kept (store.unpublish reference remote)).isMarked key = _
      cases outcome : store.unpublish reference remote with
      | error error => simp [kept, mark?, outcome, Except.isOk, Except.toBool]
      | ok result =>
          obtain ⟨version, after⟩ := result
          obtain ⟨newest, older, histories, copies, versions, -, -, -, rfl⟩ :=
            (unpublish_eq_ok_iff ..).mp outcome
          show (store.setHistory _ _).isMarked key = _
          rw [isMarked_of_marked versions, mark?_unpublish outcome]
          by_cases same : key = reference.key
          · rw [if_pos same, if_pos same.symm]
            rfl
          · rw [if_neg same, if_neg (Ne.symm same)]
            rfl

theorem isMarked_run (store : Store) (key : DatasetKey) (changes : List Change) :
    (store.run changes).isMarked key =
      (store.lastMark? key changes).getD (store.isMarked key) := by
  induction changes generalizing store with
  | nil => rfl
  | cons change changes ih =>
      rw [run_cons, ih, isMarked_apply, lastMark?]
      cases (store.apply change).lastMark? key changes with
      | none => rfl
      | some mark => rfl

theorem held_of_setCopies {store : Store} {key : DatasetKey} {remote : String}
    {histories : Assoc DatasetKey (List Version)}
    (held : (store.setCopies remote histories).Held key) :
    store.Held key ∨ ∃ copies, Assoc.get? key histories = some copies := by
  obtain ⟨holder, held, copies, known, found⟩ := held
  rw [remotes_setCopies, Assoc.get?_set] at known
  by_cases same : holder = remote
  · rw [if_pos same] at known
    cases known
    exact Or.inr ⟨copies, found⟩
  · rw [if_neg same] at known
    exact Or.inl ⟨holder, held, copies, known, found⟩

/-- A dataset that a remote holds after a call was held before it, unless the call publishes it. -/
theorem held_apply {store : Store} {key : DatasetKey} {change : Change}
    (held : (store.apply change).Held key) :
    store.Held key ∨ store.mark? key change = some true := by
  cases change with
  | addRemote name =>
      apply Or.inl
      replace held : (store.addRemote name).Held key := held
      cases known : Assoc.get? name store.remotes with
      | none =>
          rw [addRemote_of_unknown known] at held
          rcases held_of_setCopies held with before | ⟨copies, found⟩
          · exact before
          · cases found
      | some histories =>
          rw [addRemote_of_known known] at held
          exact held
  | save reference request time =>
      apply Or.inl
      replace held : (store.kept (store.save reference request time)).Held key := held
      cases outcome : store.save reference request time with
      | error error =>
          rw [outcome] at held
          exact held
      | ok result =>
          obtain ⟨version, after⟩ := result
          obtain ⟨table, bodySize, -, -, rfl⟩ := (save_eq_ok_iff ..).mp outcome
          rw [outcome] at held
          exact held
  | publish reference remote =>
      replace held : (store.kept (store.publish reference remote)).Held key := held
      cases outcome : store.publish reference remote with
      | error error =>
          rw [outcome] at held
          exact Or.inl held
      | ok result =>
          obtain ⟨version, after⟩ := result
          by_cases same : reference.key = key
          · apply Or.inr
            rw [mark?_publish outcome, if_pos same]
          · obtain ⟨newest, older, histories, -, known, -, rfl⟩ :=
              (publish_eq_ok_iff ..).mp outcome
            rw [outcome] at held
            rcases held_of_setCopies held with before | ⟨copies, found⟩
            · exact Or.inl before
            · rw [Assoc.get?_set, if_neg (Ne.symm same)] at found
              exact Or.inl ⟨_, histories, copies, known, found⟩
  | unpublish reference remote =>
      apply Or.inl
      replace held : (store.kept (store.unpublish reference remote)).Held key := held
      cases outcome : store.unpublish reference remote with
      | error error =>
          rw [outcome] at held
          exact held
      | ok result =>
          obtain ⟨version, after⟩ := result
          obtain ⟨newest, older, histories, copies, -, known, removed, -, rfl⟩ :=
            (unpublish_eq_ok_iff ..).mp outcome
          by_cases same : key = reference.key
          · exact ⟨_, histories, copies, known, same ▸ removed⟩
          · rw [outcome] at held
            rcases held_of_setCopies held with before | ⟨others, found⟩
            · exact before
            · rw [Assoc.get?_remove_of_ne _ _ _ same] at found
              exact ⟨_, histories, others, known, found⟩

theorem held_run {store : Store} {key : DatasetKey} (changes : List Change)
    (held : (store.run changes).Held key) :
    store.Held key ∨ store.lastMark? key changes ≠ none := by
  induction changes generalizing store with
  | nil => exact Or.inl held
  | cons change changes ih =>
      rw [lastMark?]
      rcases ih held with next | marked
      · rcases held_apply next with before | mark
        · exact Or.inl before
        · exact Or.inr (by simp [mark])
      · exact Or.inr (by simp [marked])

/-- No removal of a dataset in a run leaves a remote that holds it. -/
def Thorough (store : Store) (key : DatasetKey) : List Change → Prop
  | [] => True
  | change :: changes =>
      (store.mark? key change = some false → ¬ (store.apply change).Held key) ∧
        (store.apply change).Thorough key changes

/-- As long as removals are thorough, what a remote holds is marked. -/
theorem marked_of_thorough {store : Store} {key : DatasetKey} (changes : List Change)
    (thorough : store.Thorough key changes) (truthful : store.Held key → store.isMarked key = true)
    (held : (store.run changes).Held key) : (store.run changes).isMarked key = true := by
  induction changes generalizing store with
  | nil => exact truthful held
  | cons change changes ih =>
      refine ih thorough.2 ?_ held
      intro next
      rw [isMarked_apply]
      cases mark : store.mark? key change with
      | none =>
          rcases held_apply next with before | published
          · exact truthful before
          · rw [mark] at published
            cases published
      | some published =>
          cases published with
          | true => rfl
          | false => exact absurd next (thorough.1 mark)

theorem not_held_new (key : DatasetKey) : ¬ new.Held key := by
  rintro ⟨remote, histories, copies, known, found⟩
  cases List.mem_singleton.mp (Assoc.mem_of_get? known)
  cases found

theorem versions_of_held {store : Store} (trailing : Trailing store) {key : DatasetKey}
    (held : store.Held key) : store.versions key ≠ [] := by
  obtain ⟨remote, histories, copies, known, found⟩ := held
  obtain ⟨newer, within, -⟩ :=
    trailing remote histories key copies (Assoc.mem_of_get? known) (Assoc.mem_of_get? found)
  intro none
  rw [none] at within
  cases within

/-- Of a store that began with nothing, what a remote holds is marked as published in all its
versions, unless the last publication or removal of the dataset was a removal: that unmarks the
versions, and asks no other remote. It is marked whatever the order of these calls is, if each
removal is from the only remote that holds the dataset. -/
theorem published_while_held (changes : List Change) (key : DatasetKey)
    (held : (new.run changes).Held key) :
    ((∀ snapshot ∈ (new.run changes).versions key, snapshot.version.published = true) ↔
      new.lastMark? key changes ≠ some false) ∧
    (new.Thorough key changes →
      ∀ snapshot ∈ (new.run changes).versions key, snapshot.version.published = true) := by
  have consistent : Consistent (new.run changes) :=
    run_keeps consistent_step changes consistent_new
  have trailing : Trailing (new.run changes) := run_keeps trailing_step changes trailing_new
  have last := isMarked_run new key changes
  constructor
  · constructor
    · intro published removed
      obtain ⟨newest, older, versions⟩ :=
        List.exists_cons_of_ne_nil (versions_of_held trailing held)
      have member : newest ∈ (new.run changes).versions key := by simp [versions]
      have unmarked := published_eq_isMarked consistent member
      rw [published newest member, last, removed] at unmarked
      cases unmarked
    · intro kept snapshot member
      rw [published_eq_isMarked consistent member, last]
      cases mark : new.lastMark? key changes with
      | none =>
          rcases held_run changes held with before | marked
          · exact absurd before (not_held_new key)
          · exact absurd mark marked
      | some published =>
          cases published with
          | true => rfl
          | false => exact absurd mark kept
  · intro thorough snapshot member
    rw [published_eq_isMarked consistent member]
    exact marked_of_thorough changes thorough (fun before => absurd before (not_held_new key)) held

theorem held_iff (store : Store) (key : DatasetKey) :
    store.Held key ↔ ∃ remote ∈ Assoc.keys store.remotes,
      ((Assoc.get? remote store.remotes).bind (Assoc.get? key)).isSome = true := by
  constructor
  · rintro ⟨remote, histories, copies, known, found⟩
    refine ⟨remote, List.mem_map_of_mem (Assoc.mem_of_get? known), ?_⟩
    rw [known, Option.bind_some, found]
    rfl
  · rintro ⟨remote, -, holds⟩
    obtain ⟨copies, found⟩ := Option.isSome_iff_exists.mp holds
    obtain ⟨histories, known, held⟩ := Option.bind_eq_some_iff.mp found
    exact ⟨remote, histories, copies, known, held⟩

instance (store : Store) (key : DatasetKey) : Decidable (store.Held key) :=
  decidable_of_iff _ (held_iff store key).symm

instance decidableThorough (store : Store) (key : DatasetKey) :
    (changes : List Change) → Decidable (store.Thorough key changes)
  | [] => inferInstanceAs (Decidable True)
  | change :: changes =>
      have := decidableThorough (store.apply change) key changes
      inferInstanceAs (Decidable
        ((store.mark? key change = some false → ¬ (store.apply change).Held key) ∧
          (store.apply change).Thorough key changes))

/-- What was published is removed everywhere, and then published elsewhere. -/
def relocation : List Change :=
  [.save moviesReference firstFilm (secondsClock 1), .publish moviesReference "",
   .unpublish moviesReference "", .addRemote "spare", .publish moviesReference "spare"]

theorem relocation_is_published :
    (new.run relocation).Held movies ∧ new.Thorough movies relocation ∧
      ∀ snapshot ∈ (new.run relocation).versions movies, snapshot.version.published = true := by
  have held : (new.run relocation).Held movies := by decide +kernel
  have thorough : new.Thorough movies relocation := by decide +kernel
  exact ⟨held, thorough, (published_while_held relocation movies held).2 thorough⟩

/-- The registry still holds the first version of what is withdrawn from another remote. -/
theorem release_is_unmarked :
    ¬ ∀ changes key, (new.run changes).Held key →
      ∀ snapshot ∈ (new.run changes).versions key, snapshot.version.published = true := by
  intro marked
  have held : (new.run release).Held movies := by decide +kernel
  have unmarked : ¬ ∀ snapshot ∈ (new.run release).versions movies,
      snapshot.version.published = true := by decide +kernel
  exact unmarked (marked release movies held)

end DatasetService.Store
