import DatasetService.Proofs.Except
import DatasetService.Proofs.Store.Run
import DatasetService.Store.Node

set_option autoImplicit false

/- Work in place has the effect of the operation it stands for, and no effect where it fails. -/
namespace DatasetService

theorem Assoc.remove_of_get?_eq_none {κ α : Type} [DecidableEq κ] {key : κ} {map : Assoc κ α}
    (absent : Assoc.get? key map = none) : Assoc.remove key map = map := by
  induction map with
  | nil => rfl
  | cons pair rest ih =>
      obtain ⟨other, value⟩ := pair
      by_cases same : other = key
      · simp only [Assoc.get?, same, if_true] at absent
        cases absent
      · simp only [Assoc.get?, same, if_false] at absent
        simp only [Assoc.remove, same, if_false, ih absent]

namespace Store

/-- The result of an operation, and the store after it. -/
def settled (store : Store) (operation : Except StoreError (Version × Store)) :
    Except StoreError Version × Store :=
  (operation.map Prod.fst, store.kept operation)

@[simp] theorem settled_ok (store after : Store) (version : Version) :
    store.settled (.ok (version, after)) = (.ok version, after) := rfl

@[simp] theorem settled_error (store : Store) (error : StoreError) :
    store.settled (.error error) = (.error error, store) := rfl

theorem settled_of_error {store after : Store} {error : StoreError}
    {operation : Except StoreError (Version × Store)}
    (failed : store.settled operation = (.error error, after)) : after = store := by
  cases operation with
  | ok result =>
      obtain ⟨version, changed⟩ := result
      cases failed
  | error other =>
      cases failed
      rfl

/-- A remote that is given what it has is as before. -/
theorem setCopies_self {store : Store} {remote : String}
    {histories : Assoc DatasetKey (List Version)} (known : store.remote? remote = some histories) :
    store.setCopies (remoteName remote) histories = store := by
  rw [setCopies, Assoc.set_of_get? _ _ _ known]

end Store

namespace InPlace

open Store

/-- What work in place comes to, and the store after it. -/
def outcome {α : Type} (work : InPlace α) (store : Store) : Except StoreError α × Store :=
  work.run.run store

theorem outcome_bind_of_ok {α β : Type} {work : InPlace α} {store after : Store} {value : α}
    (next : α → InPlace β) (success : work.outcome store = (.ok value, after)) :
    (work >>= next).outcome store = (next value).outcome after := by
  have ran : work.run.run store = pure (.ok value, after) := success
  simp only [outcome, ExceptT.run_bind, StateT.run_bind, ran, pure_bind]

theorem outcome_bind_of_error {α β : Type} {work : InPlace α} {store after : Store}
    {error : StoreError} (next : α → InPlace β)
    (failed : work.outcome store = (.error error, after)) :
    (work >>= next).outcome store = (.error error, after) := by
  have ran : work.run.run store = pure (.error error, after) := failed
  simp only [outcome, ExceptT.run_bind, StateT.run_bind, ran, pure_bind]
  rfl

theorem outcome_putHistory (store : Store) (key : DatasetKey) (history : List Snapshot) :
    (putHistory key history).outcome store = (.ok (), store.setHistory key history) := rfl

theorem outcome_putCopies (store : Store) (remote : String)
    (histories : Assoc DatasetKey (List Version)) :
    (putCopies remote histories).outcome store = (.ok (), store.setCopies remote histories) := rfl

theorem outcome_pure {α : Type} (store : Store) (value : α) :
    (pure value : InPlace α).outcome store = (.ok value, store) := rfl

theorem outcome_throw {α : Type} (store : Store) (error : StoreError) :
    (throw error : InPlace α).outcome store = (.error error, store) := rfl

theorem outcome_get (store : Store) :
    (get : InPlace Store).outcome store = (.ok store, store) := rfl

theorem outcome_save (store : Store) (reference : Reference) (request : SaveRequest)
    (time : Instant) :
    (save reference request time).outcome store =
      store.settled (store.save reference request time) := by
  rw [save, outcome_bind_of_ok _ (outcome_get store), Store.save]
  dsimp only
  cases newTable reference (store.versions reference.key).head? request.body with
  | error error => rw [outcome_throw, bind_of_eq_error rfl, settled_error]
  | ok read =>
      obtain ⟨table, bodySize⟩ := read
      dsimp only
      rw [outcome_bind_of_ok _ (outcome_putHistory ..), outcome_pure, bind_of_eq_ok rfl]
      exact (settled_ok store _ _).symm

/-- Work on the versions of a dataset fails where there are none. -/
theorem outcome_bind_versionsOf {α : Type} (store : Store) (reference : Reference)
    (empty : StoreError) (next : Snapshot × List Snapshot → InPlace α) :
    (versionsOf reference empty >>= next).outcome store =
      match store.history? reference.key with
      | none => (.error (.notFound reference.slug), store)
      | some [] => (.error empty, store)
      | some (newest :: older) => (next (newest, older)).outcome store := by
  rw [versionsOf, bind_assoc, outcome_bind_of_ok _ (outcome_get store)]
  cases store.history? reference.key with
  | none => exact outcome_bind_of_error next (outcome_throw ..)
  | some history =>
      cases history with
      | nil => exact outcome_bind_of_error next (outcome_throw ..)
      | cons newest older => exact outcome_bind_of_ok next (outcome_pure ..)

/-- Work on what a remote holds fails where the remote is unknown. -/
theorem outcome_bind_copiesOn {α : Type} (store : Store) (remote : String)
    (next : Assoc DatasetKey (List Version) → InPlace α) :
    (copiesOn remote >>= next).outcome store =
      match store.remote? remote with
      | none => (.error (unknownRemote remote), store)
      | some histories => (next histories).outcome store := by
  rw [copiesOn, bind_assoc, outcome_bind_of_ok _ (outcome_get store)]
  cases store.remote? remote with
  | none => exact outcome_bind_of_error next (outcome_throw ..)
  | some histories => exact outcome_bind_of_ok next (outcome_pure ..)

theorem outcome_publish (store : Store) (reference : Reference) (remote : String) :
    (publish reference remote).outcome store =
      store.settled (store.publish reference remote) := by
  unfold publish Store.publish
  rw [outcome_bind_versionsOf]
  cases store.history? reference.key with
  | none => rfl
  | some history =>
      cases history with
      | nil => rfl
      | cons newest older =>
          dsimp only
          rw [outcome_bind_copiesOn]
          cases store.remote? remote with
          | none => rfl
          | some histories =>
              dsimp only
              rw [outcome_bind_of_ok _ (outcome_putHistory ..),
                outcome_bind_of_ok _ (outcome_putCopies ..), outcome_pure]
              simp only [settled_ok, setCopies, setHistory]

/-- Where a remote turns out to hold nothing of a dataset, removing it has changed nothing. -/
theorem outcome_unpublish (store : Store) (reference : Reference) (remote : String) :
    (unpublish reference remote).outcome store =
      store.settled (store.unpublish reference remote) := by
  unfold unpublish Store.unpublish
  rw [outcome_bind_versionsOf]
  cases store.history? reference.key with
  | none => rfl
  | some history =>
      cases history with
      | nil => rfl
      | cons newest older =>
          dsimp only
          rw [outcome_bind_copiesOn]
          cases known : store.remote? remote with
          | none => rfl
          | some histories =>
              dsimp only
              rw [outcome_bind_of_ok _ (outcome_putCopies ..)]
              cases held : Assoc.get? reference.key histories with
              | some old =>
                  simp only [Option.isNone_some, Bool.false_eq_true, if_false]
                  rw [outcome_bind_of_ok _ (outcome_putHistory ..), outcome_pure]
                  simp only [settled_ok, setCopies, setHistory]
              | none =>
                  simp only [Option.isNone_none, if_true]
                  rw [Assoc.remove_of_get?_eq_none held, setCopies_self known,
                    outcome_bind_of_error _ (outcome_throw ..), settled_error]

end InPlace
end DatasetService
