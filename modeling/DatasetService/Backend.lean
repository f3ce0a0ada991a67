import DatasetService.Call
import DatasetService.Timing

set_option autoImplicit false

/- Backends, and actions that call them. An action runs in a world: the state of the
backend, the time, and the calls that were made. -/
namespace DatasetService

/-- What a backend in some state does when a call starts: the reply to come, and its
state from then on. -/
abbrev Backend (σ : Type) : Type :=
  (call : Call) → σ → Reply (Except StoreError call.Answer) × σ

structure World (σ : Type) where
  state : σ
  clock : Nat := 0
  /-- Calls in the order in which they started. -/
  calls : List Call := []

/-- Why an action has no result: it failed, or it waits for ever. -/
inductive Halt
  | failed (error : ApiError)
  | pending
deriving DecidableEq, Repr

abbrev Action (σ α : Type) : Type := ExceptT Halt (StateM (World σ)) α

namespace Action

variable {σ α : Type}

def fail (error : ApiError) : Action σ α := throw (.failed error)

/-- Go on with a result that may be a failure. -/
def ofExcept (result : Except ApiError α) : Action σ α :=
  match result with
  | .ok value => pure value
  | .error error => fail error

/-- Go on with the answer of a store. -/
def ofStore (result : Except StoreError α) : Action σ α :=
  match result with
  | .ok value => pure value
  | .error error => fail (.ofStore error)

end Action

namespace Scope

variable {σ α : Type}

/-- Run work in a scope. Where the scope has ended, the work does not start. -/
def run (scope : Scope) (calls : List Call) (work : σ → Reply α × σ) : Action σ α :=
  ExceptT.mk fun world =>
    match scope.stopped? world.clock with
    | some error => (.error (.failed error), world)
    | none =>
        let (reply, state) := work world.state
        let started := { world with state, calls := world.calls ++ calls }
        match scope.await world.clock reply with
        | .finished value time => (.ok value, { started with clock := time })
        | .stopped error time => (.error (.failed error), { started with clock := time })
        | .pending => (.error .pending, started)

/-- Call a backend. -/
def perform (scope : Scope) (backend : Backend σ) (call : Call) :
    Action σ (Except StoreError call.Answer) :=
  scope.run [call] (backend call)

/-- Call a backend and wait no longer than `limit`. -/
def performWithin (scope : Scope) (limit : Nat) (backend : Backend σ) (call : Call) :
    Action σ (Option (Except StoreError call.Answer)) :=
  scope.run [call] fun state => ((backend call state).1.within limit, (backend call state).2)

end Scope
end DatasetService
