import DatasetService.Proofs.Disclosure
import DatasetService.Proofs.Http.ReadOnly
import DatasetService.Script

set_option autoImplicit false

/- Internal details never leak. Over backends whose replies differ only in the details of internal
failures, a server gives the same responses to all requests, and so does every search for a
history. -/
namespace DatasetService.Http

open DatasetService.Action

/-- The detail of an internal failure is in no response. -/
theorem ofError_upToDetail {failure other : ApiError} (alike : failure.UpToDetail other) :
    Response.ofError failure = Response.ofError other := by
  cases alike <;> rfl

namespace Server

/-- A server over a backend. -/
def serving {σ : Type} (settings : Settings) (now : Instant) (shutdownAt : Option Nat)
    (backend : Backend σ) : Server σ :=
  { settings, backend, now, shutdownAt }

variable {σ τ : Type} {states : σ → τ → Prop} {left : Backend σ} {right : Backend τ}
  {settings : Settings} {now : Instant} {shutdownAt : Option Nat}

/-- Parameters are bound without a call. -/
theorem agree_bound {shape : ParamShape} (request : Request) (captured : Option (List Char))
    {next : shape.Params → Action σ Response} {other : shape.Params → Action τ Response}
    (goesOn : ∀ params, Agree states Eq (next params) (other params)) :
    Agree states Eq
      ((serving settings now shutdownAt left).bound shape request captured >>= next)
      ((serving settings now shutdownAt right).bound shape request captured >>= other) := by
  refine (agree_ofExcept _).bind ?_
  rintro params _ rfl
  exact goesOn params

section operations

variable (alike : Backend.UpToDetail states left right) (scope : Scope)
include alike

theorem agree_history (params : LogParams) :
    Agree states Eq ((serving settings now shutdownAt left).history scope params)
      ((serving settings now shutdownAt right).history scope params) := by
  unfold history
  rw [call_log, call_log]
  have found (remotes : History.Remotes) : Agree states Eq
      (do
        let resolution ← History.resolve left scope remotes params
        return (resolution, ({ page := some (resolution.page.withOrder params.list.orderBy) } :
          Metadata)))
      (do
        let resolution ← History.resolve right scope remotes params
        return (resolution, ({ page := some (resolution.page.withOrder params.list.orderBy) } :
          Metadata))) := by
    refine (History.agree_resolve alike scope remotes params).bind ?_
    rintro resolution _ rfl
    exact agree_pure rfl
  refine (found _).bind ?_
  rintro result _ rfl
  exact agree_pure rfl

/-- What is done with the answer to a call is the same in both runs. -/
theorem agree_answered {α : Type} (call : Call) {next : call.Answer → Action σ α}
    {other : call.Answer → Action τ α}
    (goesOn : ∀ answer, Agree states Eq (next answer) (other answer)) :
    Agree states Eq
      (do
        let answer ← scope.perform left call
        let value ← Action.ofStore answer
        next value)
      (do
        let answer ← scope.perform right call
        let value ← Action.ofStore answer
        other value) := by
  refine (scope.agree_perform alike call).bind fun answer apart answers => ?_
  refine (agree_ofStore answers).bind ?_
  rintro value _ rfl
  exact goesOn value

theorem agree_query (params : SqlParams) :
    Agree states Eq ((serving settings now shutdownAt left).query scope params)
      ((serving settings now shutdownAt right).query scope params) := by
  unfold query
  rw [call_sql, call_sql]
  refine (agree_answered alike scope (.exec params.query params.outputFormat)
    fun content => agree_pure rfl).bind ?_
  rintro result _ rfl
  exact agree_ofExcept _

theorem agree_get (params : GetParams) :
    Agree states Eq ((serving settings now shutdownAt left).get scope params)
      ((serving settings now shutdownAt right).get scope params) :=
  agree_answered alike scope (.get params.reference params.format) fun _ => agree_ofExcept _

theorem agree_list (params : ListParams) :
    Agree states Eq ((serving settings now shutdownAt left).list scope params)
      ((serving settings now shutdownAt right).list scope params) := by
  unfold list
  rw [call_list, call_list]
  refine (agree_answered alike scope (.list params) fun items => agree_pure rfl).bind ?_
  rintro ⟨items, metadata⟩ _ rfl
  dsimp only
  split
  · exact agree_pure rfl
  · exact agree_pure rfl

theorem agree_publish (params : PublishParams) :
    Agree states Eq ((serving settings now shutdownAt left).publish scope params)
      ((serving settings now shutdownAt right).publish scope params) :=
  agree_answered alike scope (.publish params.reference _) fun _ => agree_pure rfl

theorem agree_unpublish (params : PublishParams) :
    Agree states Eq ((serving settings now shutdownAt left).unpublish scope params)
      ((serving settings now shutdownAt right).unpublish scope params) :=
  agree_answered alike scope (.unpublish params.reference _) fun _ => agree_pure rfl

theorem agree_save (params : SaveParams) :
    Agree states Eq ((serving settings now shutdownAt left).save scope params)
      ((serving settings now shutdownAt right).save scope params) :=
  agree_answered alike scope (.save params.reference params.request) fun _ => agree_pure rfl

theorem agree_image (kind : ImageKind) (owner : Owner) (params : ProfileImageParams) :
    Agree states Eq ((serving settings now shutdownAt left).image scope kind owner params)
      ((serving settings now shutdownAt right).image scope kind owner params) := by
  unfold image
  generalize imageSubject owner params = subject
  obtain ⟨peername, id⟩ := subject
  dsimp only
  split
  · exact agree_fail (.same _)
  · exact agree_answered alike scope (.image kind peername id) fun _ => agree_pure rfl

theorem agree_run (request : Request) (captured : Option (List Char)) (operation : Operation) :
    Agree states Eq ((serving settings now shutdownAt left).run scope request captured operation)
      ((serving settings now shutdownAt right).run scope request captured operation) := by
  cases operation with
  | health => exact agree_pure rfl
  | history => exact agree_bound request captured (agree_history alike scope)
  | query => exact agree_bound request captured (agree_query alike scope)
  | get => exact agree_bound request captured (agree_get alike scope)
  | list => exact agree_bound request captured (agree_list alike scope)
  | publish => exact agree_bound request captured (agree_publish alike scope)
  | unpublish => exact agree_bound request captured (agree_unpublish alike scope)
  | save => exact agree_bound request captured (agree_save alike scope)
  | image kind => exact agree_bound request captured (agree_image alike scope kind _)

end operations

/-- In related worlds there is the same response, or none in either, and the worlds after it are
related. -/
def RespondAlike (states : σ → τ → Prop) (first : StateM (World σ) (Option Response))
    (second : StateM (World τ) (Option Response)) : Prop :=
  ∀ world other, World.Related states world other →
    (first.run world).1 = (second.run other).1 ∧
      World.Related states (first.run world).2 (second.run other).2

theorem respondAlike_respond {action : Action σ Response} {other : Action τ Response}
    (agree : Agree states Eq action other) :
    RespondAlike states (respond action) (respond other) := by
  intro world apart worlds
  obtain ⟨results, after⟩ := agree world apart worlds
  cases ran : action.outcome world with
  | mk result last =>
      cases ranApart : other.outcome apart with
      | mk resultApart lastApart =>
          rw [ran, ranApart] at results after
          have first : action.run.run world = pure (result, last) := ran
          have second : other.run.run apart = pure (resultApart, lastApart) := ranApart
          rw [respond, respond, StateT.run_bind, StateT.run_bind, first, second]
          cases results with
          | value related =>
              cases related
              exact ⟨rfl, after⟩
          | failed failures => exact ⟨congrArg some (ofError_upToDetail failures), after⟩
          | pending => exact ⟨rfl, after⟩

/-- On a route, the gate and then the operation are run in a scope that starts at the time of the
world. -/
theorem run_answer_eq_respond (server : Server σ) (request : Request) (route : Route)
    (captured : Option (List Char)) (operation : Operation) (world : World σ) :
    (server.answer request route captured operation).run world =
      (respond do
        Action.ofExcept (Access.check server.settings.readOnly route.pattern)
        server.run (.starting world.clock server.shutdownAt server.settings.requestTimeout) request
          captured operation).run world := rfl

variable (alike : Backend.UpToDetail states left right)
include alike

theorem respondAlike_answer (request : Request) (route : Route) (captured : Option (List Char))
    (operation : Operation) :
    RespondAlike states
      ((serving settings now shutdownAt left).answer request route captured operation)
      ((serving settings now shutdownAt right).answer request route captured operation) := by
  intro world other worlds
  rw [run_answer_eq_respond, run_answer_eq_respond, ← worlds.clock]
  refine respondAlike_respond ?_ world other worlds
  exact (agree_ofExcept _).bind fun _ _ _ => agree_run alike _ request captured operation

theorem respondAlike_dispatch (request : Request) :
    RespondAlike states ((serving settings now shutdownAt left).dispatch request)
      ((serving settings now shutdownAt right).dispatch request) := by
  unfold dispatch
  dsimp only
  split
  · exact fun _ _ worlds => ⟨rfl, worlds⟩
  · split
    · exact fun _ _ worlds => ⟨rfl, worlds⟩
    · exact respondAlike_answer alike request _ _ _

theorem respondAlike_serve (request : Request) :
    RespondAlike states ((serving settings now shutdownAt left).serve request)
      ((serving settings now shutdownAt right).serve request) := by
  intro world other worlds
  cases large : (serving settings now shutdownAt left).declaresTooMuch request with
  | true =>
      have largeApart :
          (serving settings now shutdownAt right).declaresTooMuch request = true := large
      rw [run_serve_of_large large, run_serve_of_large largeApart]
      exact ⟨rfl, worlds⟩
  | false =>
      have smallApart :
          (serving settings now shutdownAt right).declaresTooMuch request = false := large
      have dispatched : RespondAlike states
          ((serving settings now shutdownAt left).dispatch request)
          ((serving settings now shutdownAt right).dispatch request) :=
        respondAlike_dispatch alike request
      obtain ⟨same, after⟩ := dispatched world other worlds
      unfold serve
      rw [large, smallApart]
      exact ⟨congrArg (Option.map _) same, after⟩

/-- Requests that come one after the other get the same responses. -/
theorem session_alike (visits : List Visit) {state : σ} {other : τ} (related : states state other) :
    ((serving settings now shutdownAt left).session visits state).1 =
        ((serving settings now shutdownAt right).session visits other).1 ∧
      states ((serving settings now shutdownAt left).session visits state).2
        ((serving settings now shutdownAt right).session visits other).2 := by
  induction visits generalizing state other with
  | nil => exact ⟨rfl, related⟩
  | cons visit visits ih =>
      have served : RespondAlike states ((serving settings now shutdownAt left).serve visit.request)
          ((serving settings now shutdownAt right).serve visit.request) :=
        respondAlike_serve alike visit.request
      obtain ⟨same, after⟩ := served { state, clock := visit.time }
        { state := other, clock := visit.time } ⟨related, rfl, rfl⟩
      obtain ⟨others, last⟩ := ih after.state
      refine ⟨?_, last⟩
      exact congrArg₂ List.cons same others

end Server

/-- What is told of an action that has no result. -/
def told : Halt → Option Response
  | .failed error => some (Response.ofError error)
  | .pending => none

/-- Internal details never leak. Two backends give the same replies, except for the details of
internal failures. Then servers over them give the same response to every request, and to every
request of a session, and every search for a history finds the same or is told the same. -/
theorem internal_details_never_leak {σ τ : Type} {states : σ → τ → Prop} {left : Backend σ}
    {right : Backend τ} (alike : Backend.UpToDetail states left right) (settings : Settings)
    (now : Instant) (shutdownAt : Option Nat) :
    (∀ (request : Request) (world : World σ) (other : World τ), World.Related states world other →
      (((Server.serving settings now shutdownAt left).serve request).run world).1 =
        (((Server.serving settings now shutdownAt right).serve request).run other).1) ∧
    (∀ (visits : List Visit) (state : σ) (other : τ), states state other →
      ((Server.serving settings now shutdownAt left).session visits state).1 =
        ((Server.serving settings now shutdownAt right).session visits other).1) ∧
    (∀ (scope : Scope) (remotes : History.Remotes) (params : LogParams) (world : World σ)
        (other : World τ), World.Related states world other →
      ((History.resolve left scope remotes params).outcome world).1.mapError told =
        ((History.resolve right scope remotes params).outcome other).1.mapError told) := by
  refine ⟨fun request world other worlds => ?_, fun visits state other related => ?_,
    fun scope remotes params world other worlds => ?_⟩
  · exact (Server.respondAlike_serve alike request world other worlds).1
  · exact (Server.session_alike alike visits related).1
  · obtain ⟨results, -⟩ := History.agree_resolve alike scope remotes params world other worlds
    generalize ((History.resolve left scope remotes params).outcome world).1 = found at results ⊢
    generalize ((History.resolve right scope remotes params).outcome other).1 = apart at results ⊢
    cases results with
    | value related => rw [related]
    | failed failures => exact congrArg Except.error (congrArg some (ofError_upToDetail failures))
    | pending => rfl

section failures

/-- A backend that fails at every call, for an internal reason. -/
def failing (reason : String) : Backend Unit :=
  Script.backend
    { log := failure, fetch := failure, exec := failure, get := failure, list := failure
      save := failure, publish := failure, unpublish := failure, image := failure }
where
  failure {α : Type} : Prepared α := .after 1 (.error (.internal reason))

theorem failing_upToDetail (reason other : String) :
    Backend.UpToDetail Eq (failing reason) (failing other) where
  replies call _ _ _ := by
    cases call <;> exact .after 1 (.error (.internal reason other))
  states _ _ _ same := same

/-- Visits that lead to every call that there is. -/
def failedVisits : List Visit :=
  [{ target := "/history/peer/movies" },
   { target := "/history/peer/movies?remote=registry" },
   { target := "/sql?query=select+*+from+peer/movies" },
   { target := "/get/peer/movies" },
   { target := "/list" },
   { method := "POST", target := "/save/peer/movies" },
   { method := "POST", target := "/publish/peer/movies" },
   { method := "DELETE", target := "/publish/peer/movies" },
   { target := "/profile/photo?peername=peer" }].map fun request => { time := 0, request }

/-- What the visits get from a server over the backend. -/
def failedAnswers (reason : String) : List (Option Response) :=
  ((Server.serving {} { seconds := 0 } none (failing reason)).session failedVisits ()).1

theorem failedAnswers_alike :
    failedAnswers "disk full" = failedAnswers "index locked" ∧
    (failedAnswers "disk full").map (Option.map Response.status) =
      List.replicate 9 (some 500) := by
  have alike := failing_upToDetail "disk full" "index locked"
  obtain ⟨-, sessions, -⟩ := internal_details_never_leak alike {} { seconds := 0 } none
  exact ⟨sessions failedVisits () () rfl, by decide +kernel⟩

end failures

end DatasetService.Http
