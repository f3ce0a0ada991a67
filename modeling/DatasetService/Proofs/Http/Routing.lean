import DatasetService.Http.Server

set_option autoImplicit false

/- Where requests go. A request has a handler by its path and its method, and what the handler
answers is presented to the client. -/
namespace DatasetService.Http

/-- The route of a request, the rest of its path, and the operation that is asked for. -/
def Request.handler? (request : Request) : Option (Route × Option (List Char) × Operation) := do
  let (route, captured) ← Route.ofPath? request.at.path
  let operation ← route.operation? request.method
  return (route, captured, operation)

namespace Server

variable {σ : Type} {server other : Server σ} {request : Request}

theorem dispatch_of_handler {route : Route} {captured : Option (List Char)} {operation : Operation}
    (found : request.handler? = some (route, captured, operation)) :
    server.dispatch request = server.answer request route captured operation := by
  unfold Request.handler? at found
  unfold dispatch
  cases path : Route.ofPath? request.at.path with
  | none => simp [path] at found
  | some pair =>
      obtain ⟨route, captured⟩ := pair
      cases method : route.operation? request.method with
      | none => simp [path, method] at found
      | some operation =>
          simp only [path, method, Option.bind_eq_bind, Option.bind_some, Option.pure_def,
            Option.some.injEq, Prod.mk.injEq] at found
          obtain ⟨rfl, rfl, rfl⟩ := found
          simp only [method]

/-- What no handler is found for is answered by all servers alike. -/
theorem dispatch_of_unhandled (unhandled : request.handler? = none) :
    server.dispatch request = other.dispatch request := by
  unfold Request.handler? at unhandled
  unfold dispatch
  cases path : Route.ofPath? request.at.path with
  | none => rfl
  | some pair =>
      obtain ⟨route, captured⟩ := pair
      cases method : route.operation? request.method with
      | none => simp only [method]
      | some operation => simp [path, method] at unhandled

/-- A request that is not too large is answered by its handler. -/
theorem run_serve_of_dispatch {world after : World σ} {response : Response}
    (small : server.declaresTooMuch request = false)
    (ran : (server.dispatch request).run world = (some response, after)) :
    (server.serve request).run world = (some (server.present request response), after) := by
  rw [serve, small, if_neg Bool.false_ne_true, StateT.run_bind, ran]
  rfl

/-- A request that is too large is not answered by its handler. -/
theorem run_serve_of_large {world : World σ} (large : server.declaresTooMuch request = true) :
    (server.serve request).run world =
      (some (server.present request
        (Response.text 413 plainTextType "length limit exceeded")), world) := by
  rw [serve, if_pos large]
  rfl

end Server
end DatasetService.Http
