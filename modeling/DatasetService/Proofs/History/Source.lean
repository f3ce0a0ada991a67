import DatasetService.Proofs.Action
import DatasetService.Proofs.Binding.Bounds
import DatasetService.Proofs.Page.Link
import DatasetService.Proofs.Reference.Slug
import DatasetService.Proofs.Store.Listing

set_option autoImplicit false

/- Which history answers a request, and that the answer is a window onto it. The window does not
decide which history that is. -/
namespace DatasetService

namespace Store

/-- The local history of a reference, from its version on. -/
def rest (store : Store) (reference : Reference) : Except StoreError (List Version) :=
  match store.history? reference.key with
  | none => .error (.notFound reference.slug)
  | some [] => .error (.noHistory reference.slug)
  | some history =>
      match fromPath? history reference.path with
      | none => .error (.notFound reference.text)
      | some rest => .ok (rest.map Snapshot.version)

theorem log_eq (store : Store) (reference : Reference) (params : ListParams) :
    store.log reference params = (store.rest reference).map params.window.slice := by
  unfold log rest
  cases store.history? reference.key with
  | none => rfl
  | some history =>
      cases history with
      | nil => rfl
      | cons newest older =>
          dsimp only
          cases fromPath? (newest :: older) reference.path with
          | none => rfl
          | some found =>
              exact congrArg Except.ok (params.window.slice_map found Snapshot.version).symm

end Store

namespace Store

/-- No history in a store is longer than a signed count can tell. -/
structure Counted (store : Store) : Prop where
  here : ∀ entry ∈ store.datasets, entry.2.length ≤ maxInt
  there : ∀ remote ∈ store.remotes, ∀ entry ∈ remote.2, entry.2.length ≤ maxInt

theorem length_le_of_fromPath? {history found : List Snapshot} {path : Option String}
    (starts : fromPath? history path = some found) : found.length ≤ history.length := by
  cases path with
  | none =>
      cases starts
      exact Nat.le_refl _
  | some path =>
      simp only [fromPath?] at starts
      split at starts
      · cases starts
      · cases starts
        exact (List.dropWhile_sublist _).length_le

theorem length_le_of_rest {store : Store} (counted : store.Counted) {reference : Reference}
    {items : List Version} (found : store.rest reference = .ok items) : items.length ≤ maxInt := by
  unfold rest at found
  split at found
  · cases found
  · cases found
  · rename_i history _ known
    split at found
    · cases found
    · rename_i snapshots starts
      cases found
      rw [List.length_map]
      exact Nat.le_trans (length_le_of_fromPath? starts)
        (counted.here _ (Assoc.mem_of_get? known))

theorem length_le_of_fetch {store : Store} (counted : store.Counted) {reference : Reference}
    {remote : String} {items : List Version} (found : store.fetch reference remote = .ok items) :
    items.length ≤ maxInt := by
  unfold fetch at found
  split at found
  · cases found
  · rename_i histories known
    split at found
    · rename_i history holds
      cases found
      exact counted.there _ (Assoc.mem_of_get? known) _ (Assoc.mem_of_get? holds)
    · cases found

end Store

namespace History

/-- The history that a remote holds. -/
def held (store : Store) (params : LogParams) (remote : String) :
    Except ApiError (List Version) :=
  match store.fetch params.reference remote with
  | .ok items => .ok items
  | .error error => .error (fetchFailure params.reference.slug error)

/-- The history that answers a request, before a window is cut out of it. -/
def source (store : Store) (remotes : Remotes) (params : LogParams) :
    Except ApiError (List Version) := do
  checkSources params
  if params.pull then
    held store params (fallbackRemote params.remote remotes.defaultRemote)
  else
    match afterLocal params remotes.defaultRemote (store.rest params.reference) with
    | .resolved resolution => return resolution.items
    | .remoteFallback remote => held store params remote
    | .failed error => .error error

/-- The window of a request decides nothing but what is cut out. -/
theorem source_congr (store : Store) (remotes : Remotes) (params : LogParams) (list : ListParams) :
    source store remotes { params with list } = source store remotes params := by
  unfold source afterLocal held
  cases store.rest params.reference with
  | ok items => rfl
  | error error => cases error <;> rfl

/-- A remote is asked: at once, or because the dataset or its version is not known here. -/
def AsksRemote (store : Store) (params : LogParams) : Prop :=
  params.pull = true ∨
    params.isLocal = false ∧ ∃ what, store.rest params.reference = .error (.notFound what)

/-- A history that answers is held here, or by the remote that is asked where it is not. -/
theorem cases_of_source {store : Store} {remotes : Remotes} {params : LogParams}
    {items : List Version} (answered : source store remotes params = .ok items) :
    params.pull = false ∧ store.rest params.reference = .ok items ∨
      held store params (fallbackRemote params.remote remotes.defaultRemote) = .ok items ∧
        AsksRemote store params := by
  obtain ⟨-, -, answered⟩ := exists_of_bind_eq_ok answered
  cases pull : params.pull with
  | true =>
      rw [pull, if_pos rfl] at answered
      exact .inr ⟨answered, .inl pull⟩
  | false =>
      rw [pull, if_neg Bool.false_ne_true] at answered
      cases found : store.rest params.reference with
      | ok here =>
          rw [found] at answered
          cases answered
          exact .inl ⟨rfl, rfl⟩
      | error error =>
          rw [found] at answered
          cases error with
          | notFound what =>
              cases demanded : params.isLocal with
              | true =>
                  simp only [afterLocal, demanded, if_true] at answered
                  cases answered
              | false =>
                  simp only [afterLocal, demanded, Bool.false_eq_true, if_false] at answered
                  exact .inr ⟨answered, .inr ⟨demanded, what, found⟩⟩
          | noHistory reference => cases answered
          | invalid message => cases answered
          | remoteFailure message => cases answered
          | internal message => cases answered

section answers

variable {store : Store} {params : LogParams} {items : List Version}
  (checked : checkSources params = .ok ()) (unpulled : params.pull = false)
include checked unpulled

theorem source_of_rest (remotes : Remotes) (found : store.rest params.reference = .ok items) :
    source store remotes params = .ok items := by
  unfold source
  rw [bind_of_eq_ok checked, unpulled, if_neg Bool.false_ne_true, found]
  rfl

theorem source_of_missing (remotes : Remotes) (undemanded : params.isLocal = false) {what : String}
    (missing : store.rest params.reference = .error (.notFound what)) :
    source store remotes params =
      held store params (fallbackRemote params.remote remotes.defaultRemote) := by
  unfold source
  rw [bind_of_eq_ok checked, unpulled, if_neg Bool.false_ne_true, missing]
  simp only [afterLocal, undemanded, Bool.false_eq_true, if_false]

end answers

theorem source_of_held {store : Store} {remotes : Remotes} {params : LogParams}
    (checked : checkSources params = .ok ()) (asked : AsksRemote store params) :
    source store remotes params =
      held store params (fallbackRemote params.remote remotes.defaultRemote) := by
  cases pull : params.pull with
  | true =>
      unfold source
      rw [bind_of_eq_ok checked, pull, if_pos rfl]
  | false =>
      obtain pulled | ⟨undemanded, what, missing⟩ := asked
      · rw [pull] at pulled
        cases pulled
      · exact source_of_missing checked pull remotes undemanded missing

theorem length_le_of_source {store : Store} (counted : store.Counted) {remotes : Remotes}
    {params : LogParams} {items : List Version}
    (answered : source store remotes params = .ok items) : items.length ≤ maxInt := by
  rcases cases_of_source answered with ⟨-, found⟩ | ⟨found, -⟩
  · exact Store.length_le_of_rest counted found
  · unfold held at found
    split at found
    · rename_i history fetch
      cases found
      exact Store.length_le_of_fetch counted fetch
    · cases found

/-- What a request is answered with: a window onto the local history, or onto the whole history of
the remote that is asked. -/
inductive Answered (store : Store) (remotes : Remotes) (params : LogParams) : Resolution → Prop
  | here {items : List Version} (unpulled : params.pull = false)
      (found : store.rest params.reference = .ok items) :
      Answered store remotes params
        { items := params.list.window.slice items, page := params.list.page, origin := .here }
  | remote {items : List Version} (asked : AsksRemote store params)
      (found :
        held store params (fallbackRemote params.remote remotes.defaultRemote) = .ok items) :
      Answered store remotes params (windowed params.list items)

/-- A resolution is the window of a request onto a history. -/
structure Cut (params : LogParams) (items : List Version) (resolution : Resolution) : Prop where
  items : resolution.items = params.list.window.slice items
  page : resolution.page.withOrder params.list.orderBy = params.list.page

theorem cut_windowed {params : LogParams} (bounded : params.list.Bounded) (items : List Version) :
    Cut params items (windowed params.list items) := by
  have window := Window.clamp_of_bounded bounded.positive bounded.limitFits bounded.offsetFits
  constructor
  · simp only [windowed, window, ListParams.window]
  · simp only [windowed, window, ListParams.page]

/-- Both ways of windowing agree on what a signed count can tell. -/
theorem Answered.cut {store : Store} {remotes : Remotes} {params : LogParams}
    {resolution : Resolution} (bounded : params.list.Bounded)
    (checked : checkSources params = .ok ())
    (answered : Answered store remotes params resolution) :
    ∃ items, source store remotes params = .ok items ∧ Cut params items resolution := by
  cases answered with
  | here unpulled found =>
      exact ⟨_, source_of_rest checked unpulled remotes found, rfl, rfl⟩
  | remote asked found =>
      exact ⟨_, (source_of_held checked asked).trans found, cut_windowed bounded _⟩

section ends

open DatasetService.Action

variable {clock : Nat → Instant} {scope : Scope} {remotes : Remotes} {params : LogParams}
  {world : World Node}

theorem ends_fetchRemote (remote : String) :
    (fetchRemote (Node.backend clock) scope remotes params remote).Ends world
      (fun resolution after => scope.stopped? world.clock = none ∧ world.Same after ∧
        ∃ items, held world.state.store params remote = .ok items ∧
          resolution = windowed params.list items)
      (scope.Fails world (held world.state.store params remote)) := by
  refine ends_bind (Node.ends_performWithin _ ?_ fun goesOn => ?_)
  · intro error stopped
    exact ⟨.refl world, fun goesOn => by rw [stopped] at goesOn; cases goesOn⟩
  · have same : world.Same (Node.called clock world (.fetch params.reference remote)) :=
      Node.called_same rfl
    have answer : (world.state.answer clock (.fetch params.reference remote)).1 =
        world.state.store.fetch params.reference remote := rfl
    rw [answer]
    unfold held
    cases world.state.store.fetch params.reference remote with
    | error error => exact ends_fail ⟨same, fun _ => rfl⟩
    | ok items => exact ends_pure ⟨goesOn, same, items, rfl, rfl⟩

theorem ends_resolve :
    (resolve (Node.backend clock) scope remotes params).Ends world
      (fun resolution after => scope.stopped? world.clock = none ∧ world.Same after ∧
        checkSources params = .ok () ∧ Answered world.state.store remotes params resolution)
      (scope.Fails world (source world.state.store remotes params)) := by
  unfold resolve
  refine ends_bind (ends_ofExcept ?_ ?_)
  · intro _ checked
    split
    · rename_i pulled
      have asked : AsksRemote world.state.store params := .inl pulled
      rw [source_of_held checked asked]
      refine (ends_fetchRemote _).mono ?_ fun _ _ fails => fails
      rintro _ after ⟨goesOn, same, items, found, rfl⟩
      exact ⟨goesOn, same, checked, .remote asked found⟩
    · rename_i notPulled
      have unpulled : params.pull = false := by simpa using notPulled
      unfold source
      rw [bind_of_eq_ok checked, unpulled, if_neg Bool.false_ne_true]
      refine ends_bind (Node.ends_perform ?_ fun goesOn => ?_)
      · intro error stopped
        exact ⟨.refl world, fun goesOn => by rw [stopped] at goesOn; cases goesOn⟩
      · have same : world.Same (Node.called clock world (.log params.reference params.list)) :=
          Node.called_same rfl
        have answer : (world.state.answer clock (.log params.reference params.list)).1 =
            (world.state.store.rest params.reference).map params.list.window.slice :=
          world.state.store.log_eq params.reference params.list
        rw [answer]
        cases found : world.state.store.rest params.reference with
        | ok items => exact ends_pure ⟨goesOn, same, checked, .here unpulled found⟩
        | error error =>
            cases error with
            | notFound what =>
                cases demanded : params.isLocal with
                | true =>
                    simp only [Except.map, afterLocal, demanded, if_true]
                    exact ends_fail ⟨same, fun _ => rfl⟩
                | false =>
                    simp only [Except.map, afterLocal, demanded, Bool.false_eq_true, if_false]
                    refine (ends_fetchRemote _).mono ?_ ?_
                    · rintro _ after ⟨-, later, items, held, rfl⟩
                      rw [same.state] at held
                      exact ⟨goesOn, same.trans later, checked,
                        .remote (.inr ⟨demanded, what, found⟩) held⟩
                    · rintro error after ⟨later, fails⟩
                      rw [same.state, same.clock] at fails
                      exact ⟨same.trans later, fails⟩
            | noHistory reference => exact ends_fail ⟨same, fun _ => rfl⟩
            | invalid message => exact ends_fail ⟨same, fun _ => rfl⟩
            | remoteFailure message => exact ends_fail ⟨same, fun _ => rfl⟩
            | internal message => exact ends_fail ⟨same, fun _ => rfl⟩
  · intro error failed
    refine ⟨.refl world, fun _ => ?_⟩
    unfold source
    rw [failed]
    rfl

end ends

/-- The remote does not matter where the dataset is known, or where it is the one that is asked
anyhow. -/
def Agreeing (store : Store) (remotes : Remotes) (params : LogParams) : Prop :=
  fallbackRemote params.remote remotes.defaultRemote = fallbackRemote none remotes.defaultRemote ∨
    (store.history? params.reference.key).isSome = true

end History

/-- The request for the latest versions of the same dataset, of whatever history there is. -/
def LogParams.plain (params : LogParams) : LogParams :=
  { reference := params.reference.dataset, list := params.list }

namespace Store

theorem rest_dataset (store : Store) {reference : Reference} (latest : reference.path = none) :
    store.rest reference.dataset = store.rest reference := by
  unfold rest
  rw [latest]
  rfl

theorem unknown_of_rest {store : Store} {reference : Reference} (latest : reference.path = none)
    {what : String} (missing : store.rest reference = .error (.notFound what)) :
    store.history? reference.key = none := by
  unfold rest at missing
  cases known : store.history? reference.key with
  | none => rfl
  | some history =>
      rw [known, latest] at missing
      cases history with
      | nil => cases missing
      | cons newest older => cases missing

end Store

namespace History

/-- The plain request is answered by the same history, unless a version is asked for, or a remote
that is not asked anyhow. -/
theorem source_plain {store : Store} {remotes : Remotes} {params : LogParams}
    {items : List Version} (latest : params.reference.path = none) (unpulled : params.pull = false)
    (agreeing : Agreeing store remotes params)
    (answered : source store remotes params = .ok items) :
    source store remotes params.plain = .ok items := by
  have rest : store.rest params.plain.reference = store.rest params.reference :=
    store.rest_dataset latest
  have checked : checkSources params.plain = .ok () := rfl
  rcases cases_of_source answered with ⟨-, found⟩ | ⟨found, pulled | ⟨-, what, missing⟩⟩
  · exact source_of_rest checked rfl remotes (rest.trans found)
  · rw [unpulled] at pulled
    cases pulled
  · have unknown := Store.unknown_of_rest latest missing
    have same : fallbackRemote params.remote remotes.defaultRemote =
        fallbackRemote none remotes.defaultRemote :=
      agreeing.resolve_right (by simp [unknown])
    rw [same] at found
    exact (source_of_missing checked rfl remotes rfl (rest.trans missing)).trans found

end History
end DatasetService
