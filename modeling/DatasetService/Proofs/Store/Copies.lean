import DatasetService.Proofs.Store.Consistency

set_option autoImplicit false

/- What remotes hold of a store that began with nothing. A publication copies the whole of a
history. After it the local history grows at its front, or has its marks rewritten, which no copy
shows: so each copy is the local history as it was. -/
namespace DatasetService.Store

/-- The copies of a history as it was before its newest versions came. -/
def CopiesPast (history : List Snapshot) (copies : List Version) : Prop :=
  ∃ newer < history.length, copies = copiesOf (history.drop newer)

/-- Remotes hold nothing but past local histories. -/
def Trailing (store : Store) : Prop :=
  ∀ remote histories key copies,
    (remote, histories) ∈ store.remotes → (key, copies) ∈ histories →
      CopiesPast (store.versions key) copies

/-- A copy does not show whether its version is published here. -/
theorem copiesOf_map_setPublished (published : Bool) (history : List Snapshot) :
    copiesOf (history.map (setPublished published)) = copiesOf history := by
  rw [copiesOf, List.map_map]
  rfl

theorem copiesOf_marked (store : Store) (key : DatasetKey) (published : Bool) :
    copiesOf (store.marked key published) = copiesOf (store.versions key) :=
  copiesOf_map_setPublished published _

theorem copiesPast_copiesOf {history : List Snapshot} (nonempty : history ≠ []) :
    CopiesPast history (copiesOf history) :=
  ⟨0, List.length_pos_iff.mpr nonempty, rfl⟩

theorem CopiesPast.grown {history : List Snapshot} {copies : List Version}
    (past : CopiesPast history copies) (newest : Snapshot) :
    CopiesPast (newest :: history) copies := by
  obtain ⟨newer, within, rfl⟩ := past
  exact ⟨newer + 1, Nat.succ_lt_succ within, rfl⟩

theorem CopiesPast.marked {history : List Snapshot} {copies : List Version}
    (past : CopiesPast history copies) (published : Bool) :
    CopiesPast (history.map (setPublished published)) copies := by
  obtain ⟨newer, within, rfl⟩ := past
  refine ⟨newer, by rwa [List.length_map], ?_⟩
  rw [← List.map_drop, copiesOf_map_setPublished]

/-- What was copied of a history stays a past of it, whatever a call does to it. -/
theorem HistoryStep.copiesPast {store : Store} {change : Change} {key : DatasetKey}
    {history : List Snapshot} {copies : List Version} (step : HistoryStep store change key history)
    (past : CopiesPast (store.versions key) copies) : CopiesPast history copies := by
  cases step with
  | unchanged => exact past
  | grown same made => exact past.grown _
  | marked published => exact past.marked published

/-- What a remote holds after a call, it held before, or it is the whole local history. -/
theorem Step.copies {store after : Store} {change : Change} (step : Step store change after)
    {remote : String} {histories : Assoc DatasetKey (List Version)} {key : DatasetKey}
    {copies : List Version} (isRemote : (remote, histories) ∈ after.remotes)
    (holds : (key, copies) ∈ histories) :
    (∃ before, (remote, before) ∈ store.remotes ∧ (key, copies) ∈ before) ∨
      store.versions key ≠ [] ∧ copies = copiesOf (store.versions key) := by
  cases step with
  | unchanged => exact Or.inl ⟨histories, isRemote, holds⟩
  | remoteAdded unknown =>
      rcases Assoc.mem_of_mem_set isRemote with added | old
      · cases added
        cases holds
      · exact Or.inl ⟨histories, old, holds⟩
  | saved read => exact Or.inl ⟨histories, isRemote, holds⟩
  | @published reference name before nonempty known =>
      rcases Assoc.mem_of_mem_set isRemote with changed | old
      · cases changed
        rcases Assoc.mem_of_mem_set holds with copied | kept
        · cases copied
          exact Or.inr ⟨nonempty, copiesOf_marked store reference.key true⟩
        · exact Or.inl ⟨before, Assoc.mem_of_get? known, kept⟩
      · exact Or.inl ⟨histories, old, holds⟩
  | @unpublished reference name before nonempty known =>
      rcases Assoc.mem_of_mem_set isRemote with changed | old
      · cases changed
        exact Or.inl ⟨before, Assoc.mem_of_get? known, Assoc.mem_of_mem_remove holds⟩
      · exact Or.inl ⟨histories, old, holds⟩

theorem trailing_step {store after : Store} {change : Change} (step : Step store change after)
    (trailing : Trailing store) : Trailing after := by
  intro remote histories key copies isRemote holds
  refine (step.history key).copiesPast ?_
  rcases step.copies isRemote holds with ⟨before, wasRemote, held⟩ | ⟨nonempty, rfl⟩
  · exact trailing remote before key copies wasRemote held
  · exact copiesPast_copiesOf nonempty

theorem trailing_new : Trailing new := by
  intro remote histories key copies isRemote holds
  cases List.mem_singleton.mp isRemote
  cases holds

theorem fetch_eq_ok_iff (store : Store) (reference : Reference) (remote : String)
    (copies : List Version) :
    store.fetch reference remote = .ok copies ↔
      ∃ histories, store.remote? remote = some histories ∧
        Assoc.get? reference.key histories = some copies := by
  cases known : store.remote? remote with
  | none => simp [fetch, known]
  | some histories =>
      cases held : Assoc.get? reference.key histories with
      | none => simp [fetch, known, held]
      | some history => simp [fetch, known, held]

/-- After a publication the remote holds the local history, and nothing else. -/
theorem copies_of_publish {store after : Store} {reference : Reference} {remote : String}
    {version : Version} (made : store.publish reference remote = .ok (version, after)) :
    after.fetch reference remote = .ok (copiesOf (store.versions reference.key)) := by
  obtain ⟨newest, older, histories, -, -, -, rfl⟩ := (publish_eq_ok_iff ..).mp made
  rw [fetch_eq_ok_iff, ← copiesOf_marked store reference.key true]
  exact ⟨_, Assoc.get?_set_self _ _ _, Assoc.get?_set_self _ _ _⟩

def firstFilm : SaveRequest :=
  { body := some
      { contentType := some "text/csv", bytes := Text.bytesOf "title,year\nHeat,1995\n" } }

/-- The registry gets the first version. The second is published elsewhere, and withdrawn. -/
def release : List Change :=
  [.save moviesReference firstFilm (secondsClock 1), .publish moviesReference "",
   .save moviesReference {} (secondsClock 2), .addRemote "spare",
   .publish moviesReference "spare", .unpublish moviesReference "spare"]

end DatasetService.Store
