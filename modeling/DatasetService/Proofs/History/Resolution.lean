import DatasetService.History
import DatasetService.Script

set_option autoImplicit false

/- What finding a history calls, and what it answers to each reply. An action is opened once,
into its result in a world and the world after it; the rest is said of these two. -/
namespace DatasetService

namespace Action

variable {σ α β : Type}

/-- The result of an action in a world, and the world after it. -/
def outcome (action : Action σ α) (world : World σ) : Except Halt α × World σ :=
  action.run.run world

@[simp] theorem outcome_pure (value : α) (world : World σ) :
    outcome (pure value : Action σ α) world = (.ok value, world) := rfl

@[simp] theorem outcome_fail (error : ApiError) (world : World σ) :
    outcome (fail error : Action σ α) world = (.error (.failed error), world) := rfl

@[simp] theorem outcome_ofExcept_ok (value : α) (world : World σ) :
    outcome (ofExcept (.ok value) : Action σ α) world = (.ok value, world) := rfl

@[simp] theorem outcome_ofExcept_error (error : ApiError) (world : World σ) :
    outcome (ofExcept (.error error) : Action σ α) world = (.error (.failed error), world) := rfl

theorem outcome_bind_of_ok (action : Action σ α) (next : α → Action σ β)
    (world after : World σ) (value : α) (success : action.outcome world = (.ok value, after)) :
    (action >>= next).outcome world = (next value).outcome after := by
  have ran : action.run.run world = pure (.ok value, after) := success
  simp only [outcome, ExceptT.run_bind, StateT.run_bind, ran, pure_bind]

theorem outcome_bind_of_error (action : Action σ α) (next : α → Action σ β)
    (world after : World σ) (halt : Halt) (failed : action.outcome world = (.error halt, after)) :
    (action >>= next).outcome world = (.error halt, after) := by
  have ran : action.run.run world = pure (.error halt, after) := failed
  simp only [outcome, ExceptT.run_bind, StateT.run_bind, ran, pure_bind]
  rfl

end Action

namespace Scope

variable {σ α : Type}

/-- What a world is after work that was waited for to its end. -/
def afterWork (world : World σ) (calls : List Call) (delay : Nat) (state : σ) : World σ :=
  { state, clock := world.clock + delay, calls := world.calls ++ calls }

/-- Without a cancellation and a deadline, work ends with its reply. -/
theorem outcome_run (calls : List Call) (work : σ → Reply α × σ) (world : World σ)
    (delay : Nat) (value : α) (reply : (work world.state).1 = .after delay value) :
    (({} : Scope).run calls work).outcome world =
      (.ok value, afterWork world calls delay (work world.state).2) := by
  unfold run
  simp only [Action.outcome, ExceptT.run_mk, StateT.run]
  simp only [stopped?, Option.any_none, Bool.false_eq_true, if_false, reply, await,
    Option.filter_none]
  rfl

theorem outcome_perform (backend : Backend σ) (call : Call) (world : World σ) (delay : Nat)
    (answer : Except StoreError call.Answer)
    (reply : (backend call world.state).1 = .after delay answer) :
    (({} : Scope).perform backend call).outcome world =
      (.ok answer, afterWork world [call] delay (backend call world.state).2) :=
  outcome_run [call] (backend call) world delay answer reply

/-- A reply that comes in time is the reply. -/
theorem outcome_performWithin (limit : Nat) (backend : Backend σ) (call : Call)
    (world : World σ) (delay : Nat) (answer : Except StoreError call.Answer)
    (reply : (backend call world.state).1 = .after delay answer) (inTime : delay ≤ limit) :
    (({} : Scope).performWithin limit backend call).outcome world =
      (.ok (some answer), afterWork world [call] delay (backend call world.state).2) := by
  apply outcome_run
  simp only [reply, Reply.within, inTime, if_true]

end Scope

namespace History

variable {σ : Type}

def localCall (params : LogParams) : Call := .log params.reference params.list

def remoteCall (remotes : Remotes) (params : LogParams) : Call :=
  .fetch params.reference (fallbackRemote params.remote remotes.defaultRemote)

/-- A backend that answers both calls for a history in every state, that for a remote's within
the time that is waited for it. -/
structure Answering (backend : Backend σ) (remotes : Remotes) (params : LogParams)
    (here there : σ → Except StoreError (List Version)) : Prop where
  replies : ∀ state, ∃ delay, (backend (localCall params) state).1 = .after delay (here state)
  fetches : ∀ state, ∃ delay, delay ≤ remotes.fetchTimeout ∧
    (backend (remoteCall remotes params) state).1 = .after delay (there state)

/-- Local history is demanded, and with it a remote. -/
def Contradictory (params : LogParams) : Prop :=
  params.isLocal = true ∧ (params.remote.isSome = true ∨ params.pull = true)

/-- The sources that are asked, in their order. -/
def consulted (params : LogParams) (here : Except StoreError (List Version)) : List Origin :=
  match params.pull, params.isLocal, here with
  | true, _, _ => [.remote]
  | false, false, .error (.notFound _) => [.here, .remote]
  | false, _, _ => [.here]

def callOf (remotes : Remotes) (params : LogParams) : Origin → Call
  | .here => localCall params
  | .remote => remoteCall remotes params

/-- The items and the page that are returned of an answer. -/
def presented (params : LogParams) : Origin → List Version → Resolution
  | .here, items =>
      { items
        page := (PageToken.ofWindow params.list.limit params.list.offset).withOrder
          params.list.orderBy
        origin := .here }
  | .remote, items =>
      let window := Window.clamp params.list.limit params.list.offset
      { items := (items.drop window.offset).take window.limit
        page := PageToken.ofWindow window.limit window.offset
        origin := .remote }

/-- What a client is told of the failure of a source, and the status code of it. -/
inductive Told (dataset : String) : Origin → StoreError → ApiError → Nat → Prop
  | noHistory (source : Origin) (what : String) :
      Told dataset source (.noHistory what) (.noHistory dataset) 422
  | absentHere (what : String) :
      Told dataset .here (.notFound what) (.localUnavailable dataset) 500
  | absentThere (what : String) :
      Told dataset .remote (.notFound what) (.notFound dataset) 404
  | invalidHere (message : String) :
      Told dataset .here (.invalid message) (.badRequest message) 400
  | invalidThere (message : String) :
      Told dataset .remote (.invalid message) (.remoteFailure message) 500
  | remoteFailure (source : Origin) (message : String) :
      Told dataset source (.remoteFailure message) (.remoteFailure message) 500
  | internalHere (detail : String) :
      Told dataset .here (.internal detail) (.internal detail) 500
  | internalThere (detail : String) :
      Told dataset .remote (.internal detail)
        (.remoteFailure ("could not fetch history of " ++ dataset)) 500

/-- The answer of a source. A remote that is asked after local history finds the state that
this has left. -/
def answerOf (backend : Backend σ) (params : LogParams)
    (here there : σ → Except StoreError (List Version)) (state : σ) :
    Origin → Except StoreError (List Version)
  | .here => here state
  | .remote => there (if params.pull then state else (backend (localCall params) state).2)

/-- A result tells the answer of a source: its items, or its failure. -/
def Tells (params : LogParams) (source : Origin) (answer : Except StoreError (List Version))
    (result : Except Halt Resolution) : Prop :=
  (∀ items, answer = .ok items → result = .ok (presented params source items)) ∧
  ∀ error, answer = .error error → ∃ told code, result = .error (.failed told) ∧
    Told params.reference.slug source error told code ∧ told.status = code

theorem Tells.ok_iff {params : LogParams} {source : Origin}
    {answer : Except StoreError (List Version)} {result : Except Halt Resolution}
    (tells : Tells params source answer result) (resolution : Resolution) :
    result = .ok resolution ↔
      ∃ items, answer = .ok items ∧ resolution = presented params source items := by
  constructor
  · rintro rfl
    cases answer with
    | ok items => exact ⟨items, rfl, Except.ok.inj (tells.1 items rfl)⟩
    | error error =>
        obtain ⟨told, code, failed, -⟩ := tells.2 error rfl
        cases failed
  · rintro ⟨items, rfl, rfl⟩
    exact tells.1 items rfl

theorem fetchFailure_told (dataset : String) (error : StoreError) :
    ∃ code, Told dataset .remote error (fetchFailure dataset error) code ∧
      (fetchFailure dataset error).status = code := by
  cases error with
  | notFound what => exact ⟨404, .absentThere what, rfl⟩
  | noHistory what => exact ⟨422, .noHistory .remote what, rfl⟩
  | invalid message => exact ⟨500, .invalidThere message, rfl⟩
  | remoteFailure message => exact ⟨500, .remoteFailure .remote message, rfl⟩
  | internal detail => exact ⟨500, .internalThere detail, rfl⟩

theorem fetchRemote_tells (backend : Backend σ) (remotes : Remotes) (params : LogParams)
    (world : World σ) (delay : Nat) (answer : Except StoreError (List Version))
    (inTime : delay ≤ remotes.fetchTimeout)
    (reply : (backend (remoteCall remotes params) world.state).1 = .after delay answer) :
    ∃ result after, (fetchRemote backend {} remotes params
        (fallbackRemote params.remote remotes.defaultRemote)).outcome world = (result, after) ∧
      after.calls = world.calls ++ [remoteCall remotes params] ∧
      Tells params .remote answer result := by
  have performed := Scope.outcome_performWithin remotes.fetchTimeout backend
    (remoteCall remotes params) world delay answer reply inTime
  unfold fetchRemote
  dsimp only
  cases answer with
  | ok items =>
      refine ⟨_, _, Action.outcome_bind_of_ok _ _ _ _ _ performed, rfl, ?_, ?_⟩
      · intro found equal
        cases equal
        rfl
      · intro error equal
        cases equal
  | error error =>
      refine ⟨_, _, Action.outcome_bind_of_ok _ _ _ _ _ performed, rfl, ?_, ?_⟩
      · intro found equal
        cases equal
      · intro other equal
        cases equal
        obtain ⟨code, told, status⟩ := fetchFailure_told params.reference.slug error
        exact ⟨_, code, rfl, told, status⟩

theorem Told.tells {params : LogParams} {source : Origin} {error : StoreError} {told : ApiError}
    (row : Told params.reference.slug source error told told.status) :
    Tells params source (.error error) (.error (.failed told)) := by
  constructor
  · intro items equal
    cases equal
  · intro other equal
    cases equal
    exact ⟨told, told.status, rfl, row, rfl⟩

/-- The answer of local history leads on to a remote, or else it is told. -/
theorem afterLocal_tells (params : LogParams) (defaultRemote : String)
    (answer : Except StoreError (List Version)) (remains : params.pull = false) :
    consulted params answer = [.here, .remote] ∧
      afterLocal params defaultRemote answer =
        .remoteFallback (fallbackRemote params.remote defaultRemote) ∨
    consulted params answer = [.here] ∧
      ((∃ resolution, afterLocal params defaultRemote answer = .resolved resolution ∧
        Tells params .here answer (.ok resolution)) ∨
      ∃ error, afterLocal params defaultRemote answer = .failed error ∧
        Tells params .here answer (.error (.failed error))) := by
  cases answer with
  | ok items =>
      refine Or.inr ⟨by simp [consulted, remains], Or.inl ⟨_, rfl, ?_, ?_⟩⟩
      · intro found equal
        cases equal
        rfl
      · intro error equal
        cases equal
  | error error =>
      cases error with
      | notFound what =>
          by_cases demanded : params.isLocal = true
          · have stage : afterLocal params defaultRemote (.error (.notFound what)) =
                .failed (.localUnavailable params.reference.slug) := by
              simp only [afterLocal, demanded, if_true]
            exact Or.inr ⟨by simp [consulted, remains, demanded],
              Or.inr ⟨_, stage, Told.tells (.absentHere what)⟩⟩
          · exact Or.inl (by simp [consulted, afterLocal, remains, demanded])
      | noHistory what =>
          exact Or.inr ⟨by simp [consulted, remains],
            Or.inr ⟨_, rfl, Told.tells (.noHistory .here what)⟩⟩
      | invalid message =>
          exact Or.inr ⟨by simp [consulted, remains],
            Or.inr ⟨_, rfl, Told.tells (.invalidHere message)⟩⟩
      | remoteFailure message =>
          exact Or.inr ⟨by simp [consulted, remains],
            Or.inr ⟨_, rfl, Told.tells (.remoteFailure .here message)⟩⟩
      | internal detail =>
          exact Or.inr ⟨by simp [consulted, remains],
            Or.inr ⟨_, rfl, Told.tells (.internalHere detail)⟩⟩

theorem checkSources_of_consistent {params : LogParams} (consistent : ¬ Contradictory params) :
    checkSources params = .ok () := by
  unfold Contradictory at consistent
  unfold checkSources
  rw [if_neg]
  simpa using consistent

/-- Without a contradiction the sources to consult are asked and no other, and the result
tells the answer of the last. -/
theorem resolve_tells (backend : Backend σ) (remotes : Remotes) (params : LogParams)
    (here there : σ → Except StoreError (List Version))
    (answering : Answering backend remotes params here there) (world : World σ)
    (consistent : ¬ Contradictory params) :
    ∃ source, (consulted params (here world.state)).getLast? = some source ∧
      ∃ result after, (resolve backend {} remotes params).outcome world = (result, after) ∧
        after.calls = world.calls ++
          (consulted params (here world.state)).map (callOf remotes params) ∧
        Tells params source (answerOf backend params here there world.state source) result := by
  unfold resolve
  rw [checkSources_of_consistent consistent,
    Action.outcome_bind_of_ok _ _ _ _ _ (Action.outcome_ofExcept_ok () world)]
  by_cases pull : params.pull = true
  · obtain ⟨delay, inTime, reply⟩ := answering.fetches world.state
    obtain ⟨result, after, ran, calls, tells⟩ :=
      fetchRemote_tells backend remotes params world delay _ inTime reply
    refine ⟨.remote, by simp [consulted, pull], result, after, ?_, ?_, ?_⟩
    · simpa only [pull, if_true] using ran
    · simpa [consulted, pull, callOf] using calls
    · simpa [answerOf, pull] using tells
  · obtain ⟨delay, reply⟩ := answering.replies world.state
    have performed := Scope.outcome_perform backend (localCall params) world delay _ reply
    generalize left : (backend (localCall params) world.state).2 = state at performed
    have remains : params.pull = false := by simpa using pull
    rw [if_neg pull]
    rcases afterLocal_tells params remotes.defaultRemote (here world.state) remains with
      ⟨sources, stage⟩ | ⟨sources, ⟨resolution, stage, tells⟩ | ⟨error, stage, tells⟩⟩
    · obtain ⟨delay', inTime, reply'⟩ := answering.fetches state
      obtain ⟨result, after, ran, calls, tells⟩ := fetchRemote_tells backend remotes params
        (Scope.afterWork world [localCall params] delay state) delay' _ inTime reply'
      rw [sources]
      refine ⟨.remote, rfl, result, after, ?_, ?_, ?_⟩
      · refine (Action.outcome_bind_of_ok _ _ _ _ _ performed).trans ?_
        rw [stage]
        exact ran
      · simpa [callOf, Scope.afterWork] using calls
      · simpa [answerOf, remains, left] using tells
    · rw [sources]
      refine ⟨.here, rfl, .ok resolution, Scope.afterWork world [localCall params] delay state,
        ?_, rfl, tells⟩
      refine (Action.outcome_bind_of_ok _ _ _ _ _ performed).trans ?_
      rw [stage]
      rfl
    · rw [sources]
      refine ⟨.here, rfl, .error (.failed error),
        Scope.afterWork world [localCall params] delay state, ?_, rfl, tells⟩
      refine (Action.outcome_bind_of_ok _ _ _ _ _ performed).trans ?_
      rw [stage]
      rfl

/-- Local history together with a remote is refused before any call. Otherwise the sources to
consult are called one after the other, the remote by its name or by that of the default, and
the answer of the last decides: its items are returned, and its failure is told. -/
theorem resolve_consults_sources (backend : Backend σ) (remotes : Remotes) (params : LogParams)
    (here there : σ → Except StoreError (List Version))
    (answering : Answering backend remotes params here there) (world : World σ) :
    let outcome := (resolve backend {} remotes params).outcome world
    let sources := consulted params (here world.state)
    (Contradictory params →
      ∃ message, outcome = (.error (.failed (.badRequest message)), world)) ∧
    (¬ Contradictory params →
      outcome.2.calls = world.calls ++ sources.map (callOf remotes params) ∧
      ∃ source, sources.getLast? = some source ∧
        (∀ resolution, outcome.1 = .ok resolution ↔
          ∃ items, answerOf backend params here there world.state source = .ok items ∧
            resolution = presented params source items) ∧
        ∀ error, answerOf backend params here there world.state source = .error error →
          ∃ told code, outcome.1 = .error (.failed told) ∧
            Told params.reference.slug source error told code ∧ told.status = code) := by
  intro outcome sources
  constructor
  · rintro ⟨demanded, other⟩
    obtain ⟨message, refused⟩ : ∃ message, checkSources params = .error (.badRequest message) := by
      unfold checkSources
      rw [if_pos (by simpa [demanded] using other)]
      exact ⟨_, rfl⟩
    refine ⟨message, ?_⟩
    have failed := Action.outcome_ofExcept_error (α := Unit) (.badRequest message) world
    rw [← refused] at failed
    exact Action.outcome_bind_of_error _ _ _ _ _ failed
  · intro consistent
    obtain ⟨source, last, result, after, ran, calls, tells⟩ :=
      resolve_tells backend remotes params here there answering world consistent
    have equal : outcome = (result, after) := ran
    rw [equal]
    exact ⟨calls, source, last, tells.ok_iff, tells.2⟩

/-- The dataset is not known here, and the remote answers with three versions. -/
def knownThere : Script :=
  { log := .after 3 (.error (.notFound "peer/ds"))
    fetch := .after 5 (.ok [Script.numbered 3, Script.numbered 2, Script.numbered 1])
    exec := .never, get := .never, list := .never, save := .never
    publish := .never, unpublish := .never, image := .never }

def secondPage : LogParams :=
  { reference := { username := "peer", name := "ds" }, list := { limit := 2, offset := 2 } }

/-- The default registry is asked after local history, and the window of its answer is returned. -/
theorem resolve_falls_back_to_registry :
    Answering knownThere.backend {} secondPage (fun _ => .error (.notFound "peer/ds"))
      (fun _ => .ok [Script.numbered 3, Script.numbered 2, Script.numbered 1]) ∧
    ¬ Contradictory secondPage ∧
    let outcome := (resolve knownThere.backend {} {} secondPage).outcome { state := () }
    outcome.2.calls =
      [.log secondPage.reference secondPage.list, .fetch secondPage.reference ""] ∧
    outcome.1 = .ok
      { items := [Script.numbered 1]
        page := { page := 2, pageSize := 2, limit := 2, offset := 2 }
        origin := .remote } := by
  have answering : Answering knownThere.backend {} secondPage
      (fun _ => .error (.notFound "peer/ds"))
      (fun _ => .ok [Script.numbered 3, Script.numbered 2, Script.numbered 1]) :=
    ⟨fun _ => ⟨3, rfl⟩, fun _ => ⟨5, by decide, rfl⟩⟩
  have consistent : ¬ Contradictory secondPage := by
    rintro ⟨demanded, -⟩
    cases demanded
  obtain ⟨calls, source, last, success, -⟩ :=
    (resolve_consults_sources knownThere.backend {} secondPage _ _ answering { state := () }).2
      consistent
  cases last
  refine ⟨answering, consistent, calls, ?_⟩
  exact (success _).mpr ⟨_, rfl, rfl⟩

end History
end DatasetService
