import DatasetService.Proofs.Http.Atomicity
import DatasetService.Proofs.Http.Routing
import Mathlib.Data.List.Forall2

set_option autoImplicit false

/- A server that is read-only: requests that may change the store are refused by name of their
route, and all others are answered as by a server that is not read-only. -/
namespace DatasetService.Http

/-- The root by which a read-only server refuses a route. -/
def Route.gate? : Route → Option String
  | .sql => some "/sql"
  | .publish => some "/publish"
  | .save => some "/save"
  | _ => none

theorem Route.check_pattern (route : Route) :
    Access.check true route.pattern =
      match route.gate? with
      | some root => .error (.forbidden root)
      | none => .ok () := by
  have root : Access.root route.pattern = (route.gate?.getD (Access.root route.pattern)) := by
    cases route <;> decide
  have kind : Access.classify route.pattern =
      if route.gate?.isSome then .mutating else .read := by
    cases route <;> decide
  unfold Access.check
  rw [kind, root]
  cases route.gate? <;> rfl

/-- What changes a store is on a route that is refused. -/
theorem Route.changes_of_gate {route : Route} {method : String} {operation : Operation}
    (served : route.gate? = none) (found : route.operation? method = some operation) :
    operation.changes = false := by
  have readsOnly (name : String) : (route.served name).all (!·.changes) = true := by
    unfold Route.served
    split <;> first | rfl | cases served
  have all : (route.operation? method).all (!·.changes) = true := by
    unfold operation?
    split <;> exact readsOnly _
  simpa [found] using all

/-- The root by which a read-only server refuses a request, if it has a handler on a route that
is refused. -/
def Request.gate? (request : Request) : Option String :=
  request.handler?.bind fun (route, _) => route.gate?

def Request.operation? (request : Request) : Option Operation :=
  request.handler?.map fun (_, _, operation) => operation

/-- A request that comes at a time. -/
structure Visit where
  time : Nat
  request : Request

namespace Server

section twoServers

variable {σ : Type} {server other : Server σ} {request : Request}

/-- Servers with the same dispatch of a request answer it alike. -/
theorem serve_congr (bytes : server.settings.maxUploadBytes = other.settings.maxUploadBytes)
    (version : server.settings.apiVersion = other.settings.apiVersion)
    (same : server.dispatch request = other.dispatch request) :
    server.serve request = other.serve request := by
  have presented : server.present request = other.present request := by
    funext response
    simp only [present, toldVersion, version]
  have large : server.declaresTooMuch request = other.declaresTooMuch request := by
    simp only [declaresTooMuch, bytes]
  simp only [serve, large, same, presented]

end twoServers

section sessions

variable {σ : Type}

/-- Answer a request that comes at a time. -/
def visit (server : Server σ) (visit : Visit) (state : σ) : Option Response × σ :=
  let (response, after) := (server.serve visit.request).run { state, clock := visit.time }
  (response, after.state)

/-- Answer requests that come one after the other. -/
def session (server : Server σ) : List Visit → σ → List (Option Response) × σ
  | [], state => ([], state)
  | visit :: visits, state =>
      let (response, next) := server.visit visit state
      let (responses, last) := server.session visits next
      (response :: responses, last)

/-- Where no request changes the state, each is answered as the first one would be. -/
theorem session_of_unchanged {server : Server σ} {state : σ}
    (unchanged : ∀ visit, (server.visit visit state).2 = state) (visits : List Visit) :
    server.session visits state =
      (visits.map fun visit => (server.visit visit state).1, state) := by
  induction visits with
  | nil => rfl
  | cons visit visits ih => simp only [session, unchanged, ih, List.map_cons]

end sessions

/-- The response to a request that a read-only server refuses. -/
def refusal (server : Server Node) (request : Request) (root : String) : Response :=
  server.present request
    (if server.declaresTooMuch request then
      Response.text 413 plainTextType "length limit exceeded"
    else
      Response.json 403 (errorDocument 403 (root ++ " is not available in read-only mode")))

variable {settings : Settings} {clock : Nat → Instant} {now : Instant} {shutdownAt : Option Nat}

/-- Only what is told of the server itself shows that it is read-only. -/
theorem run_readOnly (scope : Scope) (request : Request) (captured : Option (List Char))
    {operation : Operation} (quiet : operation ≠ .health) :
    (ofNode { settings with readOnly := true } clock now shutdownAt).run scope request captured
        operation =
      (ofNode { settings with readOnly := false } clock now shutdownAt).run scope request captured
        operation := by
  cases operation with
  | health => exact absurd rfl quiet
  | _ => rfl

/-- A gated request goes no further than the gate. -/
theorem visit_gated {visit : Visit} {root : String} (gated : visit.request.gate? = some root)
    (node : Node) :
    (ofNode { settings with readOnly := true } clock now shutdownAt).visit visit node =
      (some ((ofNode { settings with readOnly := true } clock now shutdownAt).refusal
        visit.request root), node) := by
  generalize closed : ofNode { settings with readOnly := true } clock now shutdownAt = server
  have readOnly : server.settings.readOnly = true := by rw [← closed]; rfl
  obtain ⟨⟨route, captured, operation⟩, found, onRoute⟩ := Option.bind_eq_some_iff.1 gated
  have checked : Access.check server.settings.readOnly route.pattern =
      .error (.forbidden root) := by
    rw [readOnly, Route.check_pattern, show route.gate? = some root from onRoute]
  have refused (world : World Node) : (server.dispatch visit.request).run world =
      (some (Response.ofError (.forbidden root)), world) := by
    rw [dispatch_of_handler found, answer, checked]
    rfl
  unfold Server.visit refusal
  cases large : server.declaresTooMuch visit.request with
  | true =>
      rw [run_serve_of_large large]
      rfl
  | false =>
      rw [run_serve_of_dispatch large (refused _)]
      rfl

/-- All but what is gated, and what is told of the server itself, is answered as if the server
were not read-only. -/
theorem visit_ungated {visit : Visit} (ungated : visit.request.gate? = none)
    (quiet : visit.request.operation? ≠ some .health) (node : Node) :
    (ofNode { settings with readOnly := true } clock now shutdownAt).visit visit node =
      (ofNode { settings with readOnly := false } clock now shutdownAt).visit visit node := by
  have dispatched :
      (ofNode { settings with readOnly := true } clock now shutdownAt).dispatch visit.request =
        (ofNode { settings with readOnly := false } clock now shutdownAt).dispatch
          visit.request := by
    cases found : visit.request.handler? with
    | none => exact dispatch_of_unhandled found
    | some handler =>
        obtain ⟨route, captured, operation⟩ := handler
        have onRoute : route.gate? = none := by
          simpa [Request.gate?, found] using ungated
        have notHealth : operation ≠ .health := by
          simpa [Request.operation?, found] using quiet
        have passed (readOnly : Bool) : Access.check readOnly route.pattern = .ok () := by
          cases readOnly with
          | false => rfl
          | true => rw [Route.check_pattern, onRoute]
        rw [dispatch_of_handler found, dispatch_of_handler found]
        unfold answer
        simp only [passed, run_readOnly _ _ _ notHealth]
        rfl
  have served :
      (ofNode { settings with readOnly := true } clock now shutdownAt).serve visit.request =
        (ofNode { settings with readOnly := false } clock now shutdownAt).serve visit.request := by
    refine serve_congr ?_ ?_ dispatched
    · simp only [ofNode]
    · simp only [ofNode]
  rw [Server.visit, Server.visit, served]

/-- A read-only server keeps its node. -/
theorem visit_kept (visit : Visit) (node : Node) :
    ((ofNode { settings with readOnly := true } clock now shutdownAt).visit visit node).2 =
      node := by
  cases gated : visit.request.gate? with
  | some root => rw [visit_gated gated]
  | none =>
      have stored : (ofNode { settings with readOnly := true } clock now shutdownAt).backend =
          Node.backend clock := rfl
      obtain ⟨response, after, ran, handled⟩ :=
        run_serve stored visit.request { state := node, clock := visit.time }
      rw [Server.visit, ran]
      generalize state : after.state = final at handled
      cases handled with
      | refused unmade => exact state
      | @routed route captured operation response final path method effect =>
          have onRoute : route.gate? = none := by
            simpa [Request.gate?, Request.handler?, path, method] using gated
          exact state.trans (effect.unchanged_of_reads (Route.changes_of_gate onRoute method))

end Server

/-- A server that is read-only keeps its node through any requests. It refuses by its root every
request that has a handler on a gated route, whatever else stands in the request, and it answers
every other request as a server that is not read-only does, except for what it tells of itself. -/
theorem read_only_noninterference (settings : Settings) (clock : Nat → Instant) (now : Instant)
    (shutdownAt : Option Nat) (visits : List Visit) (node : Node) :
    let closed := Server.ofNode { settings with readOnly := true } clock now shutdownAt
    let writable := Server.ofNode { settings with readOnly := false } clock now shutdownAt
    (closed.session visits node).2 = node ∧
    List.Forall₂
      (fun visit answer =>
        (∀ root, visit.request.gate? = some root →
          answer = some (closed.refusal visit.request root)) ∧
        (visit.request.gate? = none → visit.request.operation? ≠ some .health →
          answer = (writable.visit visit node).1))
      visits (closed.session visits node).1 := by
  intro closed writable
  have kept : ∀ visit, (closed.visit visit node).2 = node := fun visit =>
    Server.visit_kept visit node
  rw [Server.session_of_unchanged kept visits]
  refine ⟨rfl, List.forall₂_map_right_iff.2 (List.forall₂_same.2 fun visit _ => ⟨?_, ?_⟩)⟩
  · intro root gated
    rw [Server.visit_gated gated]
  · intro ungated quiet
    rw [Server.visit_ungated ungated quiet]

end DatasetService.Http
