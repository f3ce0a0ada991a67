import DatasetService.Proofs.History.Resolution
import DatasetService.Proofs.Store.NodeCalls

set_option autoImplicit false

/- How actions end. Over a node, which answers at once, each call of an action is answered or
the scope has ended before it. An action without calls that change the node only reads it. -/
namespace DatasetService

namespace Action

variable {σ α β : Type}

/-- An action ends in a world: with a value of which `value` holds, or with a failure of which
`failure` holds. It does not wait for ever. -/
def Ends (action : Action σ α) (world : World σ) (value : α → World σ → Prop)
    (failure : ApiError → World σ → Prop) : Prop :=
  match action.outcome world with
  | (.ok result, after) => value result after
  | (.error (.failed error), after) => failure error after
  | (.error .pending, _) => False

variable {world : World σ} {value : α → World σ → Prop} {failure : ApiError → World σ → Prop}

theorem ends_pure {result : α} (holds : value result world) :
    Ends (pure result) world value failure := holds

theorem ends_fail {error : ApiError} (holds : failure error world) :
    Ends (fail error : Action σ α) world value failure := holds

theorem ends_ofExcept {result : Except ApiError α}
    (ok : ∀ found, result = .ok found → value found world)
    (error : ∀ cause, result = .error cause → failure cause world) :
    Ends (ofExcept result) world value failure := by
  cases result with
  | ok found => exact ok found rfl
  | error cause => exact error cause rfl

theorem ends_ofStore {result : Except StoreError α}
    (ok : ∀ found, result = .ok found → value found world)
    (error : ∀ cause, result = .error cause → failure (.ofStore cause) world) :
    Ends (ofStore result) world value failure := by
  cases result with
  | ok found => exact ok found rfl
  | error cause => exact error cause rfl

/-- Where an action ends with a value, the next one starts. -/
theorem ends_bind {action : Action σ β} {next : β → Action σ α}
    (ends : action.Ends world (fun result after => (next result).Ends after value failure)
      failure) :
    (action >>= next).Ends world value failure := by
  unfold Ends at ends ⊢
  cases ran : action.outcome world with
  | mk result after =>
      rw [ran] at ends
      cases result with
      | ok found =>
          rw [outcome_bind_of_ok action next world after found ran]
          exact ends
      | error halt =>
          rw [outcome_bind_of_error action next world after halt ran]
          cases halt <;> exact ends

theorem Ends.mono {action : Action σ α} {weaker : α → World σ → Prop}
    {weakerFailure : ApiError → World σ → Prop} (ends : action.Ends world value failure)
    (ok : ∀ result after, value result after → weaker result after)
    (error : ∀ cause after, failure cause after → weakerFailure cause after) :
    action.Ends world weaker weakerFailure := by
  unfold Ends at ends ⊢
  cases ran : action.outcome world with
  | mk result after =>
      rw [ran] at ends
      cases result with
      | ok found => exact ok found after ends
      | error halt =>
          cases halt with
          | failed cause => exact error cause after ends
          | pending => exact ends

end Action

namespace Scope

variable {σ α : Type}

/-- Where nothing stops a scope, work that is done at once is finished. -/
theorem await_at_once {scope : Scope} {now : Nat} (goesOn : scope.stopped? now = none)
    (value : α) : scope.await now (.after 0 value) = .finished value now := by
  have ahead (time : Option Nat) (other : ¬ time.any (· ≤ now) = true) :
      time.filter (isFirst (some now)) = none := by
    cases time with
    | none => rfl
    | some at_ => simpa [isFirst] using other
  unfold stopped? at goesOn
  split at goesOn
  · cases goesOn
  · rename_i notCanceled
    split at goesOn
    · cases goesOn
    · rename_i notLate
      have cancellation : scope.cancelAt.filter (fun time =>
          isFirst scope.deadline time && isFirst (some now) time) = none := by
        cases cancelAt : scope.cancelAt with
        | none => rfl
        | some time =>
            rw [cancelAt] at notCanceled
            have later := ahead _ notCanceled
            simp only [Option.filter_eq_none_iff] at later ⊢
            intro other member
            simp [later other member]
      simp only [await, Reply.due?, Nat.add_zero, cancellation, ahead _ notLate]

/-- Work that is done at once is finished, or it is not started. -/
theorem outcome_run_at_once (scope : Scope) (calls : List Call) (work : σ → Reply α × σ)
    (world : World σ) (value : α) (reply : (work world.state).1 = .after 0 value) :
    (scope.run calls work).outcome world =
      match scope.stopped? world.clock with
      | some error => (.error (.failed error), world)
      | none => (.ok value, afterWork world calls 0 (work world.state).2) := by
  unfold run
  simp only [Action.outcome, ExceptT.run_mk, StateT.run]
  cases stopped : scope.stopped? world.clock with
  | some error => rfl
  | none =>
      have finished := await_at_once stopped value
      rw [← reply] at finished
      simp only [finished]
      rfl

end Scope

namespace Node

/-- A world in which a node was called. -/
def called (clock : Nat → Instant) (world : World Node) (call : Call) : World Node :=
  Scope.afterWork world [call] 0 (world.state.answer clock call).2

variable {clock : Nat → Instant} {world : World Node} {scope : Scope} {call : Call}

theorem ends_perform
    {value : Except StoreError call.Answer → World Node → Prop}
    {failure : ApiError → World Node → Prop}
    (stopped : ∀ error, scope.stopped? world.clock = some error → failure error world)
    (answered : scope.stopped? world.clock = none →
      value (world.state.answer clock call).1 (called clock world call)) :
    (scope.perform (backend clock) call).Ends world value failure := by
  have ran := scope.outcome_run_at_once [call] (backend clock call) world
    (world.state.answer clock call).1 rfl
  unfold Action.Ends
  rw [Scope.perform, ran]
  cases ended : scope.stopped? world.clock with
  | some error => exact stopped error ended
  | none => exact answered ended

theorem ends_performWithin (limit : Nat)
    {value : Option (Except StoreError call.Answer) → World Node → Prop}
    {failure : ApiError → World Node → Prop}
    (stopped : ∀ error, scope.stopped? world.clock = some error → failure error world)
    (answered : scope.stopped? world.clock = none →
      value (some (world.state.answer clock call).1) (called clock world call)) :
    (scope.performWithin limit (backend clock) call).Ends world value failure := by
  have inTime : (Reply.after 0 (world.state.answer clock call).1).within limit =
      .after 0 (some (world.state.answer clock call).1) := by
    simp only [Reply.within, Nat.zero_le, if_true]
  have ran := scope.outcome_run_at_once [call]
    (fun state => ((backend clock call state).1.within limit, (backend clock call state).2)) world
    (some (world.state.answer clock call).1) inTime
  unfold Action.Ends
  rw [Scope.performWithin, ran]
  cases ended : scope.stopped? world.clock with
  | some error => exact stopped error ended
  | none => exact answered ended

end Node

/-- Two worlds with the same backend at the same time. They may differ in their calls. -/
structure World.Same {σ : Type} (before after : World σ) : Prop where
  state : after.state = before.state
  clock : after.clock = before.clock

theorem World.Same.refl {σ : Type} (world : World σ) : World.Same world world := ⟨rfl, rfl⟩

theorem World.Same.trans {σ : Type} {first second third : World σ} (left : first.Same second)
    (right : second.Same third) : first.Same third :=
  ⟨right.state.trans left.state, right.clock.trans left.clock⟩

/-- A failure is that of a result, as long as the scope goes on. -/
def Scope.Fails {σ α : Type} (scope : Scope) (world : World σ) (result : Except ApiError α)
    (error : ApiError) (after : World σ) : Prop :=
  world.Same after ∧ (scope.stopped? world.clock = none → result = .error error)

theorem Node.called_same {clock : Nat → Instant} {world : World Node} {call : Call}
    (reads : call.change? (clock world.state.saves) = none) :
    world.Same (called clock world call) :=
  ⟨answer_of_read reads, rfl⟩

namespace Action

variable {α : Type} {clock : Nat → Instant} {result : α → Prop}

/-- An action that only reads: its world is as before however it ends. Of a value that it ends
with, `result` holds. -/
def Reads (action : Action Node α) (result : α → Prop) : Prop :=
  ∀ world, action.Ends world (fun value after => result value ∧ world.Same after)
    (fun _ after => world.Same after)

/-- Nothing is said of a value. -/
def Anything (_ : α) : Prop := True

theorem reads_pure {value : α} (holds : result value) : Reads (pure value) result := fun world =>
  ends_pure ⟨holds, .refl world⟩

theorem reads_fail (error : ApiError) : Reads (fail error : Action Node α) result := fun world =>
  ends_fail (.refl world)

theorem reads_ofExcept {outcome : Except ApiError α}
    (holds : ∀ value, outcome = .ok value → result value) : Reads (ofExcept outcome) result :=
  fun world => ends_ofExcept (fun value ok => ⟨holds value ok, .refl world⟩) fun _ _ => .refl world

theorem reads_ofStore (outcome : Except StoreError α) : Reads (ofStore outcome) Anything :=
  fun world => ends_ofStore (fun _ _ => ⟨trivial, .refl world⟩) fun _ _ => .refl world

theorem Reads.bind {β : Type} {action : Action Node β} {first : β → Prop}
    {next : β → Action Node α} (reads : Reads action first)
    (goesOn : ∀ value, first value → Reads (next value) result) :
    Reads (action >>= next) result := by
  intro world
  refine ends_bind ((reads world).mono ?_ fun _ _ same => same)
  rintro value after ⟨holds, same⟩
  exact (goesOn value holds after).mono (fun _ _ later => ⟨later.1, same.trans later.2⟩)
    fun _ _ later => same.trans later

theorem reads_perform (scope : Scope) {call : Call} (reads : ∀ time, call.change? time = none) :
    Reads (scope.perform (Node.backend clock) call) Anything := fun world =>
  Node.ends_perform (fun _ _ => .refl world) fun _ => ⟨trivial, Node.called_same (reads _)⟩

theorem reads_performWithin (scope : Scope) (limit : Nat) {call : Call}
    (reads : ∀ time, call.change? time = none) :
    Reads (scope.performWithin limit (Node.backend clock) call) Anything := fun world =>
  Node.ends_performWithin limit (fun _ _ => .refl world) fun _ =>
    ⟨trivial, Node.called_same (reads _)⟩

end Action

end DatasetService
