import DatasetService.Proofs.Except
import DatasetService.Store.Query
import Mathlib

set_option autoImplicit false

/- What a store refuses. Reading refuses two combinations of a format and what is asked for, and
does so by messages of their own. -/
namespace DatasetService

/-- The store does not refuse what it is asked for. -/
def Unrefused {α : Type} (outcome : Except StoreError α) : Prop :=
  ∀ message, outcome ≠ .error (.invalid message)

theorem unrefused_ok {α : Type} (value : α) : Unrefused (.ok value) := by
  intro message refused
  cases refused

theorem Unrefused.bind {α β : Type} {first : Except StoreError α} {next : α → Except StoreError β}
    (unrefused : Unrefused first) (later : ∀ value, Unrefused (next value)) :
    Unrefused (first >>= next) := by
  cases first with
  | error error =>
      intro message refused
      cases refused
      exact unrefused message rfl
  | ok value => exact later value

theorem unrefused_csv (table : Table) (limit : Option Nat) : Unrefused (table.csv limit) := by
  intro message refused
  unfold Table.csv at refused
  split at refused <;> cases refused

theorem unrefused_archive (snapshot : Snapshot) : Unrefused snapshot.archive :=
  (unrefused_csv snapshot.table none).bind fun _ => unrefused_ok _

theorem Query.error_of_clauses {tokens : List (List Char)} {error : StoreError}
    (failed : clauses tokens = .error error) : error = unsupported := by
  unfold clauses at failed
  split at failed
  · split at failed <;> cases failed
    rfl
  · split at failed
    · split at failed <;> cases failed
      rfl
    · cases failed
      rfl
  · cases failed
    rfl

theorem Query.error_of_parse {query : String} {error : StoreError}
    (failed : parse query = .error error) :
    error = unsupported ∨ ∃ detail, error = .invalid ("invalid table " ++ detail) := by
  unfold parse at failed
  cases read : clauses (tokens query) with
  | error other =>
      rw [bind_of_eq_error read] at failed
      cases failed
      exact Or.inl (error_of_clauses read)
  | ok found =>
      rw [bind_of_eq_ok read] at failed
      dsimp only at failed
      split at failed
      · rename_i cause _
        cases failed
        refine Or.inr ⟨"\"" ++ String.ofList found.1 ++ "\": " ++ cause.message, ?_⟩
        rw [StoreError.invalid.injEq, ← String.toList_inj]
        simp
      · split at failed <;> cases failed
        exact Or.inl rfl

namespace Store

variable (store : Store)

theorem unrefused_snapshot (reference : Reference) : Unrefused (store.snapshot reference) := by
  intro message refused
  unfold snapshot at refused
  split at refused
  · cases refused
  · split at refused <;> cases refused

/-- The part of a dataset is what the store refuses to export. -/
theorem served_of_whole {reference : Reference} {format : Format}
    (whole : format = .zip → reference.selector = none) :
    store.get reference format ≠ .error (.invalid "zip exports cannot address a selector") := by
  intro refused
  unfold get at refused
  cases found : store.snapshot reference with
  | error error =>
      rw [bind_of_eq_error found] at refused
      cases refused
      exact store.unrefused_snapshot reference _ found
  | ok snapshot =>
      rw [bind_of_eq_ok found] at refused
      have bytes := (unrefused_csv snapshot.table none).bind fun bytes =>
        unrefused_ok (Payload.bytes bytes)
      split at refused
      · exact (unrefused_archive snapshot).bind (fun _ => unrefused_ok _) _ refused
      · rename_i selected
        rw [whole rfl] at selected
        cases selected
      · exact bytes _ refused
      · exact bytes _ refused
      · rename_i selector _ _
        have texts := congrArg String.toList (StoreError.invalid.inj (Except.error.inj refused))
        simp at texts
      · cases refused
      · split at refused <;> cases refused

/-- The export of rows is what the store refuses. -/
theorem served_of_tabular {query : String} {format : Format} (tabular : format ≠ .zip) :
    store.exec query format ≠ .error (.invalid "query results cannot be rendered as zip") := by
  intro refused
  unfold exec at refused
  cases parsed : Query.parse query with
  | error error =>
      rw [bind_of_eq_error parsed] at refused
      rcases Query.error_of_parse parsed with rfl | ⟨detail, rfl⟩
      · simp [Query.unsupported] at refused
      · have texts := congrArg String.toList (StoreError.invalid.inj (Except.error.inj refused))
        simp at texts
  | ok found =>
      rw [bind_of_eq_ok parsed] at refused
      refine (store.unrefused_snapshot found.reference).bind (fun snapshot => ?_) _ refused
      cases format with
      | json => exact unrefused_ok _
      | csv => exact (unrefused_csv snapshot.table found.limit).bind fun _ => unrefused_ok _
      | zip => exact absurd rfl tabular

end Store
end DatasetService
