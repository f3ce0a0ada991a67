import DatasetService.Proofs.History.Source
import DatasetService.Proofs.Store.Copies

set_option autoImplicit false

/- The history of a dataset just after it was published. Local history answers for it, and the
remote that it was published to answers with the same versions. -/
namespace DatasetService

/-- A version as it comes from a remote. -/
def Version.received (version : Version) : Version := { version with foreign := true }

namespace Store

variable {store after : Store} {reference : Reference} {remote : String} {version : Version}

/-- To publish needs a version and a remote. It marks the versions and then copies them. -/
theorem after_of_publish (made : store.publish reference remote = .ok (version, after)) :
    store.versions reference.key ≠ [] ∧ ∃ histories,
      after = (store.setHistory reference.key (store.marked reference.key true)).setCopies
        (remoteName remote)
        (Assoc.set reference.key (copiesOf (store.marked reference.key true)) histories) := by
  obtain ⟨newest, older, histories, versions, -, -, state⟩ := (publish_eq_ok_iff ..).mp made
  have nonempty : store.versions reference.key ≠ [] := by simp [versions]
  exact ⟨nonempty, histories, state⟩

/-- The copy of a version that is published is the version as it comes from a remote. -/
theorem copiesOf_marked_true (store : Store) (key : DatasetKey) :
    copiesOf (store.marked key true) =
      ((store.marked key true).map Snapshot.version).map Version.received := by
  simp only [copiesOf, marked, List.map_map]
  rfl

section published

variable (made : store.publish reference remote = .ok (version, after))
include made

theorem versions_of_publish : after.versions reference.key = store.marked reference.key true := by
  obtain ⟨-, histories, rfl⟩ := after_of_publish made
  rw [versions_setCopies, versions_setHistory, if_pos rfl]

theorem rest_of_publish (latest : reference.path = none) :
    after.rest reference = .ok ((after.versions reference.key).map Snapshot.version) := by
  obtain ⟨nonempty, -⟩ := after_of_publish made
  have filled : after.versions reference.key ≠ [] := by
    rw [versions_of_publish made]
    simpa [marked] using nonempty
  have known := history?_of_nonempty filled
  obtain ⟨newest, older, versions⟩ := List.exists_cons_of_ne_nil filled
  rw [versions] at known ⊢
  simp only [rest, known, latest, fromPath?]

theorem fetch_of_publish :
    after.fetch reference remote =
      .ok (((after.versions reference.key).map Snapshot.version).map Version.received) := by
  rw [versions_of_publish made, ← copiesOf_marked_true, copiesOf_marked]
  exact copies_of_publish made

end published

end Store

namespace History

variable {store after : Store} {remotes : Remotes} {dataset : Reference} {remote : Option String}
  {version : Version}
  (made : store.publish dataset (fallbackRemote remote remotes.defaultRemote) =
    .ok (version, after))
  (list : ListParams)
include made

/-- Who asks for a history that was published gets the local one. -/
theorem source_of_publish (latest : dataset.path = none) :
    source after remotes { reference := dataset, list } =
      .ok ((after.versions dataset.key).map Snapshot.version) :=
  source_of_rest rfl rfl remotes (Store.rest_of_publish made latest)

/-- Who pulls a history from where it was published gets the same versions. -/
theorem source_of_pull :
    source after remotes { reference := dataset, list, remote, pull := true } =
      .ok (((after.versions dataset.key).map Snapshot.version).map Version.received) := by
  rw [source_of_held rfl (.inl rfl), held, Store.fetch_of_publish made]

end History
end DatasetService
