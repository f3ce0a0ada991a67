import DatasetService.Error

set_option autoImplicit false

/- Time in milliseconds. Work has a reply that comes after a delay or never; a scope ends
the wait for it at a cancellation or a deadline. -/
namespace DatasetService

inductive Reply (α : Type)
  | after (delay : Nat) (value : α)
  | never
deriving Repr

namespace Reply

variable {α : Type}

/-- When the reply to work comes that starts at a given time. -/
def due? (start : Nat) : Reply α → Option Nat
  | .after delay _ => some (start + delay)
  | .never => none

/-- Wait no longer than `limit`. A reply that comes just then still counts. -/
def within (limit : Nat) : Reply α → Reply (Option α)
  | .after delay value => if delay ≤ limit then .after delay (some value) else .after limit none
  | .never => .after limit none

end Reply

/-- When a request is canceled, and when its deadline passes. -/
structure Scope where
  cancelAt : Option Nat := none
  deadline : Option Nat := none
deriving DecidableEq, Repr

namespace Scope

/-- A scope that is canceled at a time if at all, and ends `timeout` after its start. -/
def starting (start : Nat) (cancelAt timeout : Option Nat) : Scope :=
  { cancelAt, deadline := timeout.map (start + ·) }

/-- Why work may not start at a time. -/
def stopped? (scope : Scope) (now : Nat) : Option ApiError :=
  if scope.cancelAt.any (· ≤ now) then some .canceled
  else if scope.deadline.any (· ≤ now) then some .deadlineExceeded
  else none

/-- How a wait ends. -/
inductive Outcome (α : Type)
  | finished (value : α) (time : Nat)
  | stopped (error : ApiError) (time : Nat)
  | pending
deriving Repr

/-- Whether nothing comes before a time. -/
def isFirst (other : Option Nat) (time : Nat) : Bool := other.all (time ≤ ·)

/-- Wait for a reply to work that starts now. Of what falls on the same instant, the
cancellation counts before the deadline, and the deadline before the reply. -/
def await {α : Type} (scope : Scope) (now : Nat) (reply : Reply α) : Outcome α :=
  let due := reply.due? now
  match scope.cancelAt.filter fun time => isFirst scope.deadline time && isFirst due time with
  | some time => .stopped .canceled (max now time)
  | none =>
      match scope.deadline.filter (isFirst due) with
      | some time => .stopped .deadlineExceeded (max now time)
      | none =>
          match reply with
          | .after delay value => .finished value (now + delay)
          | .never => .pending

end Scope
end DatasetService
