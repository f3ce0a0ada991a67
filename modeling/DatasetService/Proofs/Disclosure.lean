import DatasetService.Proofs.History.Resolution

set_option autoImplicit false

/- Two runs side by side, over backends whose replies differ only in the details of internal
failures. The actions of the two runs make the same calls at the same times, and their results
differ in such details at most. -/
namespace DatasetService

/-- The same failure of a store, but for the detail of an internal one. -/
inductive StoreError.UpToDetail : StoreError → StoreError → Prop
  | same (error : StoreError) : UpToDetail error error
  | internal (left right : String) : UpToDetail (.internal left) (.internal right)

/-- The same failure as it is reported, but for the detail of an internal one. -/
inductive ApiError.UpToDetail : ApiError → ApiError → Prop
  | same (error : ApiError) : UpToDetail error error
  | internal (left right : String) : UpToDetail (.internal left) (.internal right)

/-- The same answer of a store, but for the detail of an internal failure. -/
inductive AnswersUpToDetail {α : Type} : Except StoreError α → Except StoreError α → Prop
  | ok (value : α) : AnswersUpToDetail (.ok value) (.ok value)
  | error {left right : StoreError} (alike : left.UpToDetail right) :
      AnswersUpToDetail (.error left) (.error right)

/-- Replies that come at the same time, or neither ever, with values that are related. -/
inductive Reply.Matches {α β : Type} (values : α → β → Prop) : Reply α → Reply β → Prop
  | after (delay : Nat) {left : α} {right : β} (related : values left right) :
      Matches values (.after delay left) (.after delay right)
  | never : Matches values .never .never

/-- In related states, backends give the same replies to a call, but for the details of internal
failures, and their states are related again. -/
structure Backend.UpToDetail {σ τ : Type} (states : σ → τ → Prop) (left : Backend σ)
    (right : Backend τ) : Prop where
  replies : ∀ call state other, states state other →
    (left call state).1.Matches AnswersUpToDetail (right call other).1
  states : ∀ call state other, states state other →
    states (left call state).2 (right call other).2

/-- Two worlds at the same time in which the same calls were made. -/
structure World.Related {σ τ : Type} (states : σ → τ → Prop) (left : World σ) (right : World τ) :
    Prop where
  state : states left.state right.state
  clock : left.clock = right.clock
  calls : left.calls = right.calls

theorem ApiError.UpToDetail.ofStore {left right : StoreError} (alike : left.UpToDetail right) :
    (ApiError.ofStore left).UpToDetail (ApiError.ofStore right) := by
  cases alike with
  | same error => exact .same _
  | internal left right => exact .internal left right

namespace Reply

variable {α β : Type} {values : α → β → Prop} {left : Reply α} {right : Reply β}

/-- Replies that are cut off at the same time match still. -/
theorem Matches.within (alike : left.Matches values right) (limit : Nat) :
    (left.within limit).Matches (Option.Rel values) (right.within limit) := by
  cases alike with
  | after delay related =>
      by_cases inTime : delay ≤ limit
      · simp only [Reply.within, inTime, if_true]
        exact .after delay (Option.Rel.some related)
      · simp only [Reply.within, inTime, if_false]
        exact .after limit Option.Rel.none
  | never => exact .after limit Option.Rel.none

end Reply

namespace Action

/-- Results of two runs: related values, the same failure but for a detail, or none in either. -/
inductive Results {α β : Type} (values : α → β → Prop) : Except Halt α → Except Halt β → Prop
  | value {left : α} {right : β} (related : values left right) :
      Results values (.ok left) (.ok right)
  | failed {left right : ApiError} (alike : left.UpToDetail right) :
      Results values (.error (.failed left)) (.error (.failed right))
  | pending : Results values (.error .pending) (.error .pending)

/-- In related worlds two actions have related results and leave related worlds. -/
def Agree {σ τ α β : Type} (states : σ → τ → Prop) (values : α → β → Prop) (left : Action σ α)
    (right : Action τ β) : Prop :=
  ∀ world other, World.Related states world other →
    Results values (left.outcome world).1 (right.outcome other).1 ∧
      World.Related states (left.outcome world).2 (right.outcome other).2

variable {σ τ α β γ δ : Type} {states : σ → τ → Prop} {values : α → β → Prop}

theorem agree_pure {left : α} {right : β} (related : values left right) :
    Agree states values (pure left) (pure right) :=
  fun _ _ worlds => ⟨.value related, worlds⟩

theorem agree_fail {left right : ApiError} (alike : left.UpToDetail right) :
    Agree states values (fail left) (fail right) :=
  fun _ _ worlds => ⟨.failed alike, worlds⟩

/-- What does not come of a backend is the same in both runs. -/
theorem agree_ofExcept (result : Except ApiError α) :
    Agree states Eq (ofExcept result) (ofExcept result) := by
  cases result with
  | ok value => exact agree_pure rfl
  | error error => exact agree_fail (.same error)

theorem agree_ofStore {left right : Except StoreError α} (alike : AnswersUpToDetail left right) :
    Agree states Eq (ofStore left) (ofStore right) := by
  cases alike with
  | ok value => exact agree_pure rfl
  | error failures => exact agree_fail (.ofStore failures)

theorem Agree.bind {first : Action σ γ} {second : Action τ δ} {found : γ → δ → Prop}
    {next : γ → Action σ α} {other : δ → Action τ β} (agree : Agree states found first second)
    (goesOn : ∀ left right, found left right → Agree states values (next left) (other right)) :
    Agree states values (first >>= next) (second >>= other) := by
  intro world apart worlds
  obtain ⟨results, after⟩ := agree world apart worlds
  cases ran : first.outcome world with
  | mk result last =>
      cases ranApart : second.outcome apart with
      | mk resultApart lastApart =>
          rw [ran, ranApart] at results after
          cases results with
          | value related =>
              rw [outcome_bind_of_ok _ _ _ _ _ ran, outcome_bind_of_ok _ _ _ _ _ ranApart]
              exact goesOn _ _ related last lastApart after
          | failed alike =>
              rw [outcome_bind_of_error _ _ _ _ _ ran, outcome_bind_of_error _ _ _ _ _ ranApart]
              exact ⟨.failed alike, after⟩
          | pending =>
              rw [outcome_bind_of_error _ _ _ _ _ ran, outcome_bind_of_error _ _ _ _ _ ranApart]
              exact ⟨.pending, after⟩

end Action

namespace Scope

variable {σ τ α β : Type} {states : σ → τ → Prop} {values : α → β → Prop}

/-- How two waits end: at the same time and in the same way. -/
inductive Outcome.Matches (values : α → β → Prop) : Outcome α → Outcome β → Prop
  | finished {left : α} {right : β} (related : values left right) (time : Nat) :
      Matches values (.finished left time) (.finished right time)
  | stopped (error : ApiError) (time : Nat) :
      Matches values (.stopped error time) (.stopped error time)
  | pending : Matches values .pending .pending

/-- What ends a wait depends on when the reply is due, and not on what it is. -/
theorem await_matches {left : Reply α} {right : Reply β} (alike : left.Matches values right)
    (scope : Scope) (now : Nat) :
    (scope.await now left).Matches values (scope.await now right) := by
  have due : left.due? now = right.due? now := by cases alike <;> rfl
  unfold await
  simp only [due]
  split
  · exact .stopped _ _
  · split
    · exact .stopped _ _
    · cases alike with
      | after delay related => exact .finished related _
      | never => exact .pending

/-- The same work in the same scope: it is not started in either run, or it ends alike. -/
theorem agree_run (scope : Scope) (calls : List Call) {work : σ → Reply α × σ}
    {other : τ → Reply β × τ}
    (alike : ∀ state apart, states state apart →
      (work state).1.Matches values (other apart).1 ∧ states (work state).2 (other apart).2) :
    Action.Agree states values (scope.run calls work) (scope.run calls other) := by
  intro world apart worlds
  obtain ⟨replies, after⟩ := alike _ _ worlds.state
  have ends := await_matches replies scope world.clock
  unfold run
  simp only [Action.outcome, ExceptT.run_mk, StateT.run, ← worlds.clock, ← worlds.calls]
  cases scope.stopped? world.clock with
  | some error => exact ⟨.failed (.same error), worlds⟩
  | none =>
      generalize scope.await world.clock (work world.state).1 = left at ends
      generalize scope.await world.clock (other apart.state).1 = right at ends
      cases ends with
      | finished related time => exact ⟨.value related, after, rfl, rfl⟩
      | stopped error time => exact ⟨.failed (.same error), after, rfl, rfl⟩
      | pending => exact ⟨.pending, after, rfl, rfl⟩

variable {left : Backend σ} {right : Backend τ} (alike : Backend.UpToDetail states left right)
include alike

theorem agree_perform (scope : Scope) (call : Call) :
    Action.Agree states AnswersUpToDetail (scope.perform left call) (scope.perform right call) :=
  scope.agree_run [call] fun state other related =>
    ⟨alike.replies call state other related, alike.states call state other related⟩

theorem agree_performWithin (scope : Scope) (limit : Nat) (call : Call) :
    Action.Agree states (Option.Rel AnswersUpToDetail) (scope.performWithin limit left call)
      (scope.performWithin limit right call) :=
  scope.agree_run [call] fun state other related =>
    ⟨(alike.replies call state other related).within limit,
      alike.states call state other related⟩

end Scope

namespace History

variable {σ τ : Type} {states : σ → τ → Prop} {left : Backend σ} {right : Backend τ}

/-- A remote's internal failure is told of by the name of the dataset alone. -/
theorem fetchFailure_upToDetail (reference : String) {failure other : StoreError}
    (alike : failure.UpToDetail other) :
    fetchFailure reference failure = fetchFailure reference other := by
  cases alike <;> rfl

/-- Local history leads to the same stage, or fails internally. -/
theorem afterLocal_upToDetail (params : LogParams) (defaultRemote : String)
    {answer other : Except StoreError (List Version)} (alike : AnswersUpToDetail answer other) :
    afterLocal params defaultRemote answer = afterLocal params defaultRemote other ∨
      ∃ failure apart : ApiError, failure.UpToDetail apart ∧
        afterLocal params defaultRemote answer = .failed failure ∧
        afterLocal params defaultRemote other = .failed apart := by
  cases alike with
  | ok items => exact .inl rfl
  | error failures =>
      cases failures with
      | same error => exact .inl rfl
      | internal first second => exact .inr ⟨_, _, .internal first second, rfl, rfl⟩

variable (alike : Backend.UpToDetail states left right) (scope : Scope) (remotes : Remotes)
  (params : LogParams)
include alike

theorem agree_fetchRemote (remote : String) :
    Action.Agree states Eq (fetchRemote left scope remotes params remote)
      (fetchRemote right scope remotes params remote) := by
  refine (scope.agree_performWithin alike remotes.fetchTimeout _).bind ?_
  intro answer other answers
  cases answers with
  | none => exact Action.agree_fail (.same _)
  | some found =>
      cases found with
      | ok items => exact Action.agree_pure rfl
      | error failures =>
          dsimp only
          rw [fetchFailure_upToDetail _ failures]
          exact Action.agree_fail (.same _)

/-- Both runs find the same history, from the same source. -/
theorem agree_resolve :
    Action.Agree states Eq (resolve left scope remotes params)
      (resolve right scope remotes params) := by
  refine (Action.agree_ofExcept (checkSources params)).bind ?_
  rintro checked _ rfl
  split
  · exact agree_fetchRemote alike scope remotes params _
  · refine (scope.agree_perform alike _).bind ?_
    intro answer other answers
    rcases afterLocal_upToDetail params remotes.defaultRemote answers with
      same | ⟨failure, apart, failures, here, there⟩
    · rw [same]
      split
      · exact Action.agree_pure rfl
      · exact agree_fetchRemote alike scope remotes params _
      · exact Action.agree_fail (.same _)
    · rw [here, there]
      exact Action.agree_fail failures

end History

end DatasetService
