import DatasetService.Proofs.Store.Immutability
import DatasetService.Proofs.Store.InPlace
import DatasetService.Proofs.Store.Isolation
import DatasetService.Proofs.Store.Marks

set_option autoImplicit false

/- Laws of publications. To publish twice is to publish once, a removal undoes the first publication
of what was not published before, and the order of calls that write to different places does not
matter. Two calls that put new entries into one map leave them there in the order in which they
came, and what is found in the map is the same. -/
namespace DatasetService

namespace Assoc

variable {κ α : Type} [DecidableEq κ]

/-- The last of two values for a key counts. -/
theorem set_set (key : κ) (first second : α) (map : Assoc κ α) :
    set key second (set key first map) = set key second map := by
  induction map with
  | nil => simp [set]
  | cons pair rest ih =>
      obtain ⟨other, old⟩ := pair
      by_cases same : other = key
      · simp [set, same]
      · simp [set, same, ih]

/-- Keys that have values keep their places when they are given others. -/
theorem set_comm {key other : κ} (different : key ≠ other) (first second : α) {map : Assoc κ α}
    (known : get? key map ≠ none) (known' : get? other map ≠ none) :
    set other second (set key first map) = set key first (set other second map) := by
  induction map with
  | nil => exact absurd rfl known
  | cons pair rest ih =>
      obtain ⟨third, old⟩ := pair
      by_cases isKey : third = key
      · have isOther : third ≠ other := fun same => different (isKey.symm.trans same)
        simp [set, isKey, different]
      · by_cases isOther : third = other
        · simp [set, isOther, Ne.symm different]
        · simp only [get?, isKey, isOther, if_false] at known known'
          simp only [set, isKey, isOther, if_false, ih known known']

/-- What is put in under a new key can be taken out again. -/
theorem remove_set_of_get?_eq_none {key : κ} (value : α) {map : Assoc κ α}
    (absent : get? key map = none) : remove key (set key value map) = map := by
  induction map with
  | nil => simp [set, remove]
  | cons pair rest ih =>
      obtain ⟨other, old⟩ := pair
      by_cases same : other = key
      · simp only [get?, same, if_true] at absent
        cases absent
      · simp only [get?, same, if_false] at absent
        simp only [set, remove, same, if_false, ih absent]

end Assoc

namespace Store

/-- Two stores hold the same: the same local histories, the same remotes with the same copies, and
the same profiles, in whatever order they came. -/
def SameContents (left right : Store) : Prop := ∀ key, AgreeOn key left right

/-- A store in which a dataset is marked, and copied to a remote beside what this holds. -/
def publishedOn (store : Store) (key : DatasetKey) (name : String)
    (histories : Assoc DatasetKey (List Version)) : Store :=
  (store.setHistory key (store.marked key true)).setCopies name
    (Assoc.set key (copiesOf (store.marked key true)) histories)

section published

variable (store : Store) (key : DatasetKey) (name : String)
  (histories : Assoc DatasetKey (List Version))

theorem versions_publishedOn :
    (store.publishedOn key name histories).versions key = store.marked key true := by
  rw [publishedOn, versions_setCopies, versions_setHistory, if_pos rfl]

/-- The last mark counts. -/
theorem marked_publishedOn (mark : Bool) :
    (store.publishedOn key name histories).marked key mark = store.marked key mark := by
  rw [marked, versions_publishedOn, marked, List.map_map, setPublished_setPublished]
  rfl

theorem get?_remotes_publishedOn (other : String) :
    Assoc.get? other (store.publishedOn key name histories).remotes =
      if other = name then some (Assoc.set key (copiesOf (store.marked key true)) histories)
      else Assoc.get? other store.remotes :=
  Assoc.get?_set name other _ store.remotes

/-- A second publication finds the versions marked, and only puts down copies. -/
theorem publishedOn_again (other : String) (others : Assoc DatasetKey (List Version)) :
    (store.publishedOn key name histories).publishedOn key other others =
      (store.publishedOn key name histories).setCopies other
        (Assoc.set key (copiesOf (store.marked key true)) others) := by
  rw [publishedOn, marked_publishedOn]
  simp only [publishedOn, setHistory, setCopies, Assoc.set_set]

theorem publishedOn_publishedOn :
    (store.publishedOn key name histories).publishedOn key name
        (Assoc.set key (copiesOf (store.marked key true)) histories) =
      store.publishedOn key name histories := by
  rw [publishedOn_again]
  simp only [publishedOn, setCopies, Assoc.set_set]

/-- Publications to two remotes leave each with the same copies, whichever is the first. -/
theorem publishedOn_comm {name other : String} {histories others : Assoc DatasetKey (List Version)}
    (different : name ≠ other) (known : Assoc.get? name store.remotes = some histories)
    (known' : Assoc.get? other store.remotes = some others) :
    (store.publishedOn key name histories).publishedOn key other others =
      (store.publishedOn key other others).publishedOn key name histories := by
  have places := Assoc.set_comm different
    (Assoc.set key (copiesOf (store.marked key true)) histories)
    (Assoc.set key (copiesOf (store.marked key true)) others)
    (by simp [known] : Assoc.get? name store.remotes ≠ none)
    (by simp [known'] : Assoc.get? other store.remotes ≠ none)
  rw [publishedOn_again, publishedOn_again]
  simp only [publishedOn, setHistory, setCopies, places]

/-- The versions lose a mark that they did not have, and the remote an entry that it did not
have. -/
theorem unpublished_publishedOn (unmarked : store.marked key false = store.versions key)
    (nonempty : store.versions key ≠ []) (known : Assoc.get? name store.remotes = some histories)
    (absent : Assoc.get? key histories = none) :
    let published := store.publishedOn key name histories
    (published.setHistory key (published.marked key false)).setCopies name
      (Assoc.remove key (Assoc.set key (copiesOf (store.marked key true)) histories)) = store := by
  intro published
  have history : Assoc.get? key store.datasets = some (store.versions key) :=
    history?_of_nonempty nonempty
  rw [marked_publishedOn, unmarked, Assoc.remove_set_of_get?_eq_none _ absent]
  simp only [published, publishedOn, setHistory, setCopies, Assoc.set_set,
    Assoc.set_of_get? _ _ _ history, Assoc.set_of_get? _ _ _ known]

end published

/-- A history that has a mark in all its versions is as before when it is marked so. -/
theorem marked_of_isMarked {store : Store} (consistent : Consistent store) {key : DatasetKey}
    {mark : Bool} (isMarked : store.isMarked key = mark) :
    store.marked key mark = store.versions key := by
  have same : ∀ snapshot ∈ store.versions key, setPublished mark snapshot = id snapshot := by
    intro snapshot member
    have uniform := published_eq_isMarked consistent member
    rw [isMarked] at uniform
    rw [setPublished, ← uniform]
    rfl
  rw [marked, List.map_congr_left same, List.map_id]

section calls

variable {store : Store} {reference : Reference} {remote : String}
  {histories : Assoc DatasetKey (List Version)}

theorem publish_of_versions {newest : Snapshot} {older : List Snapshot}
    (versions : store.versions reference.key = newest :: older)
    (known : store.remote? remote = some histories) :
    store.publish reference remote = .ok ((setPublished true newest).version,
      store.publishedOn reference.key (remoteName remote) histories) :=
  (publish_eq_ok_iff store reference remote _ _).mpr
    ⟨newest, older, histories, versions, known, rfl, rfl⟩

theorem apply_publish (nonempty : store.versions reference.key ≠ [])
    (known : store.remote? remote = some histories) :
    store.apply (.publish reference remote) =
      store.publishedOn reference.key (remoteName remote) histories := by
  obtain ⟨newest, older, versions⟩ := List.exists_cons_of_ne_nil nonempty
  simp only [apply, publish_of_versions versions known, kept]

theorem remote?_publishedOn (store : Store) (key : DatasetKey) (remote : String)
    (histories : Assoc DatasetKey (List Version)) :
    (store.publishedOn key (remoteName remote) histories).remote? remote =
      some (Assoc.set key (copiesOf (store.marked key true)) histories) := by
  rw [remote?, get?_remotes_publishedOn, if_pos rfl]

/-- A publication is repeated with the same answer and without effect. -/
theorem publish_publishedOn {newest : Snapshot} {older : List Snapshot}
    (versions : store.versions reference.key = newest :: older) :
    let published := store.publishedOn reference.key (remoteName remote) histories
    published.publish reference remote = .ok ((setPublished true newest).version, published) := by
  intro published
  have marked : published.versions reference.key =
      setPublished true newest :: older.map (setPublished true) := by
    rw [versions_publishedOn, Store.marked, versions, List.map_cons]
  rw [publish_of_versions marked (remote?_publishedOn ..), publishedOn_publishedOn]
  rfl

/-- A removal takes the first publication back. -/
theorem unpublish_publishedOn {newest : Snapshot} {older : List Snapshot}
    (versions : store.versions reference.key = newest :: older)
    (unmarked : store.marked reference.key false = store.versions reference.key)
    (known : store.remote? remote = some histories)
    (absent : Assoc.get? reference.key histories = none) :
    (store.publishedOn reference.key (remoteName remote) histories).unpublish reference remote =
      .ok ((setPublished false newest).version, store) := by
  have marked : (store.publishedOn reference.key (remoteName remote) histories).versions
      reference.key = setPublished true newest :: older.map (setPublished true) := by
    rw [versions_publishedOn, Store.marked, versions, List.map_cons]
  have nonempty : store.versions reference.key ≠ [] := by simp [versions]
  have restored := unpublished_publishedOn store reference.key (remoteName remote) histories
    unmarked nonempty known absent
  exact (unpublish_eq_ok_iff _ reference remote _ _).mpr
    ⟨_, _, _, _, marked, remote?_publishedOn .., Assoc.get?_set_self .., rfl, restored.symm⟩

theorem unpublish_of_absent {newest : Snapshot} {older : List Snapshot}
    (versions : store.versions reference.key = newest :: older)
    (known : store.remote? remote = some histories)
    (absent : Assoc.get? reference.key histories = none) :
    store.unpublish reference remote = .error (missingOn reference remote) := by
  have history := history?_of_nonempty (by simp [versions] : store.versions reference.key ≠ [])
  rw [versions] at history
  simp only [unpublish, history, known, absent]

/-- A publication depends on which remote it is for, and not on how this is spelled. -/
theorem publish_of_remoteName (store : Store) (reference : Reference) {remote other : String}
    (same : remoteName remote = remoteName other) :
    store.publish reference remote = store.publish reference other := by
  unfold publish remote? unknownRemote
  rw [same]

theorem versions_apply_publish (nonempty : store.versions reference.key ≠ [])
    (known : store.remote? remote = some histories) :
    (store.apply (.publish reference remote)).versions reference.key ≠ [] := by
  rw [apply_publish nonempty known, versions_publishedOn, marked]
  simpa using nonempty

/-- Two publications of a dataset may change places. -/
theorem publish_comm (nonempty : store.versions reference.key ≠ []) {other : String}
    (known : store.remote? remote ≠ none) (known' : store.remote? other ≠ none) :
    store.run [.publish reference remote, .publish reference other] =
      store.run [.publish reference other, .publish reference remote] := by
  by_cases same : remoteName remote = remoteName other
  · have publishes (store : Store) := store.publish_of_remoteName reference same
    simp only [run_cons, run_nil, apply, publishes]
  · obtain ⟨histories, known⟩ := Option.ne_none_iff_exists'.mp known
    obtain ⟨others, known'⟩ := Option.ne_none_iff_exists'.mp known'
    have first := apply_publish nonempty known
    have second := apply_publish nonempty known'
    have laterOther : (store.apply (.publish reference remote)).remote? other = some others := by
      rw [first, remote?, get?_remotes_publishedOn, if_neg (Ne.symm same)]
      exact known'
    have laterRemote :
        (store.apply (.publish reference other)).remote? remote = some histories := by
      rw [second, remote?, get?_remotes_publishedOn, if_neg same]
      exact known
    rw [run_cons, run_cons, run_nil, run_cons, run_cons, run_nil,
      apply_publish (versions_apply_publish nonempty known) laterOther,
      apply_publish (versions_apply_publish nonempty known') laterRemote, first, second]
    exact publishedOn_comm store reference.key same known known'

end calls

/-- Calls on different datasets may change places, as far as a dataset is concerned that the first
of them is not about. -/
theorem agreeOn_swap {store : Store} (distinct : Distinct store) {first second : Change}
    {key about : DatasetKey} (isAbout : first.key? = some about) (differs : about ≠ key) :
    AgreeOn key ((store.apply first).apply second) ((store.apply second).apply first) := by
  have skipped : AgreeOn key store (store.apply first) :=
    (step_apply store first).agreeOn isAbout differs
  have last : AgreeOn key (store.apply second) ((store.apply second).apply first) :=
    (step_apply (store.apply second) first).agreeOn isAbout differs
  have once : AgreeOn key (store.apply second) ((store.apply first).apply second) := by
    cases concerned : (Operation.change second).concerns key with
    | true =>
        exact (change_congr skipped distinct (distinct_step (step_apply store first) distinct)
          concerned).2
    | false =>
        have before : AgreeOn key store (store.apply second) := after_agreeOn store concerned
        have after : AgreeOn key (store.apply first) ((store.apply first).apply second) :=
          after_agreeOn (store.apply first) concerned
        exact (before.symm.trans skipped).trans after
  exact once.symm.trans last

theorem sameContents_swap {store : Store} (distinct : Distinct store) {first second : Change}
    {one other : DatasetKey} (isAbout : first.key? = some one) (isAbout' : second.key? = some other)
    (different : one ≠ other) :
    SameContents (store.run [first, second]) (store.run [second, first]) := by
  intro key
  by_cases same : one = key
  · have differs : other ≠ key := fun isKey => different (same.trans isKey.symm)
    exact (agreeOn_swap distinct isAbout' differs).symm
  · exact agreeOn_swap distinct isAbout same

/-- To publish again is to publish once. The first publication to a remote of what was not published
is undone by its removal, which is refused a second time. Publications of one dataset to two
remotes, and calls on two datasets, may change places. -/
theorem publication_laws (start : Start) (changes : List Change) (reference : Reference)
    (remote : String) (nonempty : (start.store.run changes).versions reference.key ≠ [])
    (known : (start.store.run changes).remote? remote ≠ none) :
    let store := start.store.run changes
    let publish := InPlace.publish reference remote
    let unpublish := InPlace.unpublish reference remote
    (∃ version after, publish.outcome store = (.ok version, after) ∧
      publish.outcome after = (.ok version, after)) ∧
    (store.isMarked reference.key = false →
      store.heldBy? (remoteName remote) reference.key = some none →
      (∃ version, unpublish.outcome (publish.outcome store).2 = (.ok version, store)) ∧
      unpublish.outcome store =
        (.error (.notFound (reference.slug ++ " on " ++ remoteName remote)), store)) ∧
    (∀ other, store.remote? other ≠ none →
      store.run [.publish reference remote, .publish reference other] =
        store.run [.publish reference other, .publish reference remote]) ∧
    ∀ first second : Change, ∀ one ∈ first.key?, ∀ other ∈ second.key?, one ≠ other →
      SameContents (store.run [first, second]) (store.run [second, first]) := by
  intro store publish unpublish
  have consistent : Consistent store := run_keeps consistent_step changes (consistent_start start)
  have distinct : Distinct store := run_keeps distinct_step changes (distinct_start start)
  obtain ⟨histories, known'⟩ := Option.ne_none_iff_exists'.mp known
  obtain ⟨newest, older, versions⟩ := List.exists_cons_of_ne_nil nonempty
  have once : publish.outcome store = (.ok (setPublished true newest).version,
      store.publishedOn reference.key (remoteName remote) histories) := by
    rw [InPlace.outcome_publish, publish_of_versions versions known', settled_ok]
  refine ⟨⟨_, _, once, ?_⟩, fun isMarked unheld => ?_, fun other => publish_comm nonempty known,
    fun first second one isAbout other isAbout' different =>
      sameContents_swap distinct isAbout isAbout' different⟩
  · rw [InPlace.outcome_publish, publish_publishedOn versions, settled_ok]
  · have unmarked := marked_of_isMarked consistent isMarked
    have absent : Assoc.get? reference.key histories = none := by
      rw [heldBy?_of_known known'] at unheld
      exact Option.some.inj unheld
    constructor
    · rw [once, InPlace.outcome_unpublish,
        unpublish_publishedOn versions unmarked known' absent, settled_ok]
      exact ⟨_, rfl⟩
    · rw [InPlace.outcome_unpublish, unpublish_of_absent versions known' absent, settled_error]
      rfl

/-- A dataset and another one with one version each, and a remote besides the registry. -/
def stock : List Change :=
  [.save moviesReference firstFilm (secondsClock 1), .addRemote "spare",
   .save { username := "peer", name := "actors" } firstFilm (secondsClock 3)]

/-- The dataset is published and withdrawn again. It is published to both remotes, or beside the
other dataset, in either order. -/
theorem stock_publications :
    (new.run stock).versions moviesReference.key ≠ [] ∧
    (new.run stock).remote? "" ≠ none ∧ (new.run stock).remote? "spare" ≠ none ∧
    (new.run stock).isMarked moviesReference.key = false ∧
    (new.run stock).heldBy? (remoteName "") moviesReference.key = some none ∧
    (∃ version, (InPlace.unpublish moviesReference "").outcome
      ((InPlace.publish moviesReference "").outcome (new.run stock)).2 =
        (.ok version, new.run stock)) ∧
    (new.run stock).run [.publish moviesReference "", .publish moviesReference "spare"] =
      (new.run stock).run [.publish moviesReference "spare", .publish moviesReference ""] ∧
    SameContents
      ((new.run stock).run [.publish moviesReference "",
        .publish { username := "peer", name := "actors" } ""])
      ((new.run stock).run [.publish { username := "peer", name := "actors" } "",
        .publish moviesReference ""]) := by
  have nonempty : (new.run stock).versions moviesReference.key ≠ [] := by decide +kernel
  have registry : (new.run stock).remote? "" ≠ none := by decide +kernel
  have spare : (new.run stock).remote? "spare" ≠ none := by decide +kernel
  have unmarked : (new.run stock).isMarked moviesReference.key = false := by decide +kernel
  have unheld : (new.run stock).heldBy? (remoteName "") moviesReference.key = some none := by
    decide +kernel
  have laws := publication_laws .empty stock moviesReference "" nonempty registry
  exact ⟨nonempty, registry, spare, unmarked, unheld, (laws.2.1 unmarked unheld).1,
    laws.2.2.1 "spare" spare, laws.2.2.2 _ _ _ rfl _ rfl (by decide)⟩

end Store
end DatasetService
