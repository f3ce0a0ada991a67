import DatasetService.Proofs.Http.Reading
import DatasetService.Proofs.Http.Routing

set_option autoImplicit false

/- What a request does to a node. Every request is answered, and what it can have done by then is
said once, by `Effect`. -/
namespace DatasetService

/-- The status of a failure is that of an error. -/
theorem ApiError.status_ge (error : ApiError) : 400 ≤ error.status := by
  cases error <;> simp [status]

namespace Http

open DatasetService.Action

/-- A server that works on a node. -/
def Server.ofNode (settings : Settings) (clock : Nat → Instant) (now : Instant)
    (shutdownAt : Option Nat) : Server Node :=
  { settings, backend := Node.backend clock, now, shutdownAt }

/-- All that a request can do to a node, by its operation. A save makes one version, of the
parameters that the request binds; the marks of a history change with its copies. -/
inductive Effect (server : Server Node) (clock : Nat → Instant) (request : Request)
    (captured : Option (List Char)) (before : Node) : Operation → Response → Node → Prop
  | kept {operation : Operation} {response : Response} (unmade : Server.Unmade response) :
      Effect server clock request captured before operation response before
  | saved {params : SaveParams} {version : Version} {store : Store}
      (bound : bindRequest .save server.settings.maxUploadBytes request captured = .ok params)
      (made : before.store.save params.reference params.request (clock before.saves) =
        .ok (version, store)) :
      Effect server clock request captured before .save (Server.versionResponse 201 version)
        { store, saves := before.saves + 1 }
  | published {params : PublishParams} {version : Version} {store : Store}
      (made : before.store.publish params.reference (server.publishRemote params) =
        .ok (version, store)) :
      Effect server clock request captured before .publish (Server.versionResponse 200 version)
        { before with store }
  | unpublished {params : PublishParams} {version : Version} {store : Store}
      (made : before.store.unpublish params.reference (server.publishRemote params) =
        .ok (version, store)) :
      Effect server clock request captured before .unpublish (Server.versionResponse 200 version)
        { before with store }

namespace Server

variable {server : Server Node} {clock : Nat → Instant} {request : Request}
  {captured : Option (List Char)} {world : World Node}

theorem ofError_ne_ok (error : ApiError) : (Response.ofError error).status ≠ 200 := by
  have status := error.status_ge
  change error.status ≠ 200
  omega

theorem unmade_ofError (error : ApiError) : Unmade (Response.ofError error) := by
  have status := error.status_ge
  change error.status ≠ 201
  omega

/-- A call that comes to an operation on the store, of whose version the client is told. -/
theorem ends_settled {call : Action Node (Except StoreError Version)} {more : Nat} (status : Nat)
    {operation : Except StoreError (Version × Store)}
    (settles : call.Ends world
      (fun answer after => (answer, after.state) = world.state.settled more operation)
      (fun _ after => after.state = world.state)) :
    Ends (do
        let answer ← call
        let version ← Action.ofStore answer
        return versionResponse status version) world
      (fun response after => ∃ version store, operation = .ok (version, store) ∧
        response = versionResponse status version ∧
        after.state = { store, saves := world.state.saves + more })
      (fun _ after => after.state = world.state) := by
  refine ends_bind (settles.mono ?_ fun _ _ same => same)
  intro answer after settled
  cases operation with
  | error error =>
      obtain ⟨rfl, state⟩ := Prod.mk.inj settled
      exact ends_bind (ends_fail state)
  | ok result =>
      obtain ⟨version, store⟩ := result
      obtain ⟨rfl, state⟩ := Prod.mk.inj settled
      exact ends_bind (ends_pure (ends_pure ⟨version, store, rfl, rfl, state⟩))

/-- An operation that only reads has no effect. -/
theorem ends_of_reads {action : Action Node Response} (reads : Reads action Unmade)
    (operation : Operation) :
    action.Ends world
      (fun response after =>
        Effect server clock request captured world.state operation response after.state)
      (fun _ after => after.state = world.state) := by
  refine (reads world).mono ?_ fun _ _ same => same.state
  rintro response after ⟨unmade, same⟩
  rw [same.state]
  exact .kept unmade

theorem ends_save (stored : server.backend = Node.backend clock) (scope : Scope)
    {params : SaveParams}
    (bound : bindRequest .save server.settings.maxUploadBytes request captured = .ok params) :
    (server.save scope params).Ends world
      (fun response after =>
        Effect server clock request captured world.state .save response after.state)
      (fun _ after => after.state = world.state) := by
  unfold save
  rw [stored]
  have settles : (scope.perform (Node.backend clock)
      (.save params.reference params.request)).Ends world
      (fun answer after => (answer, after.state) = _) (fun _ after => after.state = world.state) :=
    Node.ends_perform (fun _ _ => rfl) fun _ =>
      Node.save_eq clock world.state params.reference params.request
  refine (ends_settled 201 settles).mono ?_ fun _ _ same => same
  rintro response after ⟨version, store, made, rfl, state⟩
  rw [state]
  exact .saved bound made

theorem ends_publish (stored : server.backend = Node.backend clock) (scope : Scope)
    (params : PublishParams) :
    (server.publish scope params).Ends world
      (fun response after =>
        Effect server clock request captured world.state .publish response after.state)
      (fun _ after => after.state = world.state) := by
  unfold publish
  rw [stored]
  have settles : (scope.perform (Node.backend clock)
      (.publish params.reference (server.publishRemote params))).Ends world
      (fun answer after => (answer, after.state) = _) (fun _ after => after.state = world.state) :=
    Node.ends_perform (fun _ _ => rfl) fun _ =>
      Node.publish_eq world.state params.reference (server.publishRemote params)
  refine (ends_settled 200 settles).mono ?_ fun _ _ same => same
  rintro response after ⟨version, store, made, rfl, state⟩
  rw [state]
  exact .published made

theorem ends_unpublish (stored : server.backend = Node.backend clock) (scope : Scope)
    (params : PublishParams) :
    (server.unpublish scope params).Ends world
      (fun response after =>
        Effect server clock request captured world.state .unpublish response after.state)
      (fun _ after => after.state = world.state) := by
  unfold unpublish
  rw [stored]
  have settles : (scope.perform (Node.backend clock)
      (.unpublish params.reference (server.publishRemote params))).Ends world
      (fun answer after => (answer, after.state) = _) (fun _ after => after.state = world.state) :=
    Node.ends_perform (fun _ _ => rfl) fun _ =>
      Node.unpublish_eq world.state params.reference (server.publishRemote params)
  refine (ends_settled 200 settles).mono ?_ fun _ _ same => same
  rintro response after ⟨version, store, made, rfl, state⟩
  rw [state]
  exact .unpublished made

/-- Parameters are bound before anything is done. -/
theorem ends_bound {shape : ParamShape} {next : shape.Params → Action Node Response}
    {value : Response → World Node → Prop}
    (goesOn : ∀ params, bindRequest shape server.settings.maxUploadBytes request captured =
        .ok params →
      (next params).Ends world value (fun _ after => after.state = world.state)) :
    (server.bound shape request captured >>= next).Ends world value
      (fun _ after => after.state = world.state) :=
  ends_bind (ends_ofExcept (fun params ok => goesOn params ok) fun _ _ => rfl)

theorem run_ends (stored : server.backend = Node.backend clock) (scope : Scope)
    (operation : Operation) :
    (server.run scope request captured operation).Ends world
      (fun response after =>
        Effect server clock request captured world.state operation response after.state)
      (fun _ after => after.state = world.state) := by
  cases operation with
  | health => exact ends_pure (.kept (by change 200 ≠ 201; decide))
  | history => exact ends_bound fun params _ => ends_of_reads (reads_history stored scope params) _
  | query => exact ends_bound fun params _ => ends_of_reads (reads_query stored scope params) _
  | get => exact ends_bound fun params _ => ends_of_reads (reads_get stored scope params) _
  | list => exact ends_bound fun params _ => ends_of_reads (reads_list stored scope params) _
  | publish => exact ends_bound fun params _ => ends_publish stored scope params
  | unpublish => exact ends_bound fun params _ => ends_unpublish stored scope params
  | save => exact ends_bound fun params bound => ends_save stored scope bound
  | image kind =>
      exact ends_bound fun params _ => ends_of_reads (reads_image stored scope kind _ params) _

/-- What an action comes to as a response. -/
theorem run_respond (action : Action Node Response) (world : World Node) :
    (respond action).run world =
      match action.outcome world with
      | (.ok response, after) => (some response, after)
      | (.error (.failed error), after) => (some (Response.ofError error), after)
      | (.error .pending, after) => (none, after) := by
  cases outcome : action.outcome world with
  | mk result after =>
      have ran : action.run.run world = pure (result, after) := outcome
      rw [respond, StateT.run_bind, ran, pure_bind]
      cases result with
      | ok response => rfl
      | error halt => cases halt <;> rfl

/-- An action that ends has a response. -/
theorem respond_of_ends {action : Action Node Response} {result : Response → World Node → Prop}
    (ends : action.Ends world result fun error => result (Response.ofError error)) :
    ∃ response after, (respond action).run world = (some response, after) ∧
      result response after := by
  rw [run_respond]
  unfold Ends at ends
  cases outcome : action.outcome world with
  | mk result after =>
      rw [outcome] at ends
      cases result with
      | ok response => exact ⟨response, after, rfl, ends⟩
      | error halt =>
          cases halt with
          | failed error => exact ⟨Response.ofError error, after, rfl, ends⟩
          | pending => exact absurd ends id

/-- On a route that the gate lets through, the operation is run. -/
theorem run_answer_of_ends {route : Route} {operation : Operation}
    {result : Response → World Node → Prop}
    (passed : Access.check server.settings.readOnly route.pattern = .ok ())
    (ends : (server.run
        (.starting world.clock server.shutdownAt server.settings.requestTimeout) request captured
        operation).Ends world result fun error => result (Response.ofError error)) :
    ∃ response after,
      (server.answer request route captured operation).run world = (some response, after) ∧
        result response after := by
  rw [answer, StateT.run_bind, passed]
  exact respond_of_ends ends

/-- A request on a route is answered, whether or not the gate lets it through. -/
theorem run_answer (stored : server.backend = Node.backend clock) (request : Request)
    (route : Route) (captured : Option (List Char)) (operation : Operation) (world : World Node) :
    ∃ response after,
      (server.answer request route captured operation).run world = (some response, after) ∧
        Effect server clock request captured world.state operation response after.state := by
  let scope := Scope.starting world.clock server.shutdownAt server.settings.requestTimeout
  have gated : Ends (Action.ofExcept (Access.check server.settings.readOnly route.pattern) >>=
      fun _ => server.run scope request captured operation) world
      (fun response after =>
        Effect server clock request captured world.state operation response after.state)
      (fun _ after => after.state = world.state) :=
    ends_bind (ends_ofExcept (fun _ _ => run_ends stored scope operation) fun _ _ => rfl)
  rw [answer, StateT.run_bind]
  refine respond_of_ends (gated.mono (fun _ _ effect => effect) fun error after same => ?_)
  rw [same]
  exact .kept (unmade_ofError error)

end Server

/-- What comes of a request: it is refused before its operation is found, or it has an effect
of the operation of its path and method. -/
inductive Handled (server : Server Node) (clock : Nat → Instant) (request : Request)
    (before : Node) : Response → Node → Prop
  | refused {response : Response} (unmade : Server.Unmade response) :
      Handled server clock request before response before
  | routed {route : Route} {captured : Option (List Char)} {operation : Operation}
      {response : Response} {after : Node}
      (path : Route.ofPath? request.at.path = some (route, captured))
      (method : route.operation? request.method = some operation)
      (effect : Effect server clock request captured before operation response after) :
      Handled server clock request before response after

namespace Server

variable {server : Server Node} {clock : Nat → Instant}

theorem run_dispatch (stored : server.backend = Node.backend clock) (request : Request)
    (world : World Node) :
    ∃ response after, (server.dispatch request).run world = (some response, after) ∧
      Handled server clock request world.state response after.state := by
  unfold dispatch
  cases path : Route.ofPath? request.at.path with
  | none => exact ⟨_, world, rfl, .refused (unmade_ofError _)⟩
  | some found =>
      obtain ⟨route, captured⟩ := found
      cases method : route.operation? request.method with
      | none => exact ⟨_, world, by simp only [method]; rfl, .refused (unmade_ofError _)⟩
      | some operation =>
          obtain ⟨response, after, ran, effect⟩ :=
            run_answer stored request route captured operation world
          exact ⟨response, after, by simpa only [method] using ran, .routed path method effect⟩

/-- Every request is answered. -/
theorem run_serve (stored : server.backend = Node.backend clock) (request : Request)
    (world : World Node) :
    ∃ response after,
      (server.serve request).run world = (some (server.present request response), after) ∧
        Handled server clock request world.state response after.state := by
  cases large : server.declaresTooMuch request with
  | true =>
      refine ⟨_, world, run_serve_of_large large, .refused ?_⟩
      change 413 ≠ 201
      decide
  | false =>
      obtain ⟨response, after, ran, handled⟩ := run_dispatch stored request world
      exact ⟨response, after, run_serve_of_dispatch large ran, handled⟩

end Server
end Http
end DatasetService
