import DatasetService.Proofs.Binding.Guarantees
import DatasetService.Proofs.Http.ReadOnly
import DatasetService.Proofs.Store.Addresses
import DatasetService.Proofs.Store.Immutability

set_option autoImplicit false

/- Sessions: requests to a node that come one after the other. What a session does to the store of
the node is a run of changes, and every version that it tells of as new stays in the store. -/
namespace DatasetService.Http

variable {server : Server Node} {clock : Nat → Instant}

/-- An effect is one change of the store, or none. What is saved has a name. -/
theorem Effect.store_run {request : Request} {captured : Option (List Char)} {before after : Node}
    {operation : Operation} {response : Response}
    (effect : Effect server clock request captured before operation response after) :
    ∃ changes, (∀ change ∈ changes, change.Named) ∧ after.store = before.store.run changes := by
  cases effect with
  | kept unmade => exact ⟨[], by simp, rfl⟩
  | @saved params version store bound made =>
      obtain ⟨_, -, bound⟩ := exists_of_bind_eq_ok bound
      obtain ⟨_, -, bound⟩ := exists_of_bind_eq_ok bound
      have named : (Store.Change.save params.reference params.request (clock before.saves)).Named :=
        ⟨SaveParams.wellFormed_of_bind bound, (SaveParams.guaranteed_of_bind bound).named⟩
      refine ⟨[_], List.forall_mem_singleton.mpr named, ?_⟩
      rw [Store.run_cons, Store.run_nil, Store.apply, made, Store.kept]
  | @published params version store made =>
      refine ⟨[.publish params.reference (server.publishRemote params)],
        List.forall_mem_singleton.mpr trivial, ?_⟩
      rw [Store.run_cons, Store.run_nil, Store.apply, made, Store.kept]
  | @unpublished params version store made =>
      refine ⟨[.unpublish params.reference (server.publishRemote params)],
        List.forall_mem_singleton.mpr trivial, ?_⟩
      rw [Store.run_cons, Store.run_nil, Store.apply, made, Store.kept]

theorem Handled.store_run {request : Request} {before after : Node} {response : Response}
    (handled : Handled server clock request before response after) :
    ∃ changes, (∀ change ∈ changes, change.Named) ∧ after.store = before.store.run changes := by
  cases handled with
  | refused unmade => exact ⟨[], by simp, rfl⟩
  | routed path method effect => exact effect.store_run

namespace Server

theorem visit_handled (stored : server.backend = Node.backend clock) (visit : Visit)
    (node : Node) :
    ∃ response after,
      server.visit visit node = (some (server.present visit.request response), after) ∧
        Handled server clock visit.request node response after := by
  obtain ⟨response, after, ran, handled⟩ :=
    run_serve stored visit.request { state := node, clock := visit.time }
  refine ⟨response, after.state, ?_, handled⟩
  rw [Server.visit, ran]

/-- A session changes the store as a run of changes does, which saves under names alone. -/
theorem session_named_run (stored : server.backend = Node.backend clock) (visits : List Visit)
    (node : Node) :
    ∃ changes, (∀ change ∈ changes, change.Named) ∧
      (server.session visits node).2.store = node.store.run changes := by
  induction visits generalizing node with
  | nil => exact ⟨[], by simp, rfl⟩
  | cons visit visits ih =>
      obtain ⟨response, after, visited, handled⟩ := visit_handled stored visit node
      obtain ⟨first, firstNamed, one⟩ := handled.store_run
      obtain ⟨more, moreNamed, others⟩ := ih after
      refine ⟨first ++ more, List.forall_mem_append.mpr ⟨firstNamed, moreNamed⟩, ?_⟩
      rw [session, visited]
      refine others.trans ?_
      rw [one, Store.run, Store.run, Store.run, List.foldl_append]

theorem session_store_run (stored : server.backend = Node.backend clock) (visits : List Visit)
    (node : Node) : ∃ changes, (server.session visits node).2.store = node.store.run changes := by
  obtain ⟨changes, -, store⟩ := session_named_run stored visits node
  exact ⟨changes, store⟩

/-- A response that tells of a new version comes of a save, and the version is stored. -/
theorem stored_of_created (stored : server.backend = Node.backend clock) {visit : Visit}
    {node after : Node} {response : Response}
    (visited : server.visit visit node = (some response, after))
    (created : response.status = 201) :
    ∃ captured version, visit.request.handler? = some (.save, captured, .save) ∧
      response = server.present visit.request (versionResponse 201 version) ∧
      after.store.Stored version.key version.path := by
  obtain ⟨made, last, same, handled⟩ := visit_handled stored visit node
  cases visited.symm.trans same
  cases handled with
  | refused unmade => exact absurd created unmade
  | @routed route captured operation _ _ path method effect =>
      obtain ⟨rfl, params, snapshot, -, named, told, store⟩ := effect.saved_of_created created
      obtain ⟨rfl, -⟩ := Route.eq_save method
      refine ⟨captured, snapshot.version, by simp [Request.handler?, path, method],
        congrArg _ told, snapshot, ?_, rfl⟩
      rw [store, named, Store.versions_setHistory, if_pos rfl]
      exact List.mem_cons_self

/-- Every new version that a session tells of is stored after it. -/
theorem session_stored (stored : server.backend = Node.backend clock) {visits : List Visit}
    {node : Node} {response : Response} (told : some response ∈ (server.session visits node).1)
    (created : response.status = 201) :
    ∃ visit ∈ visits, ∃ version,
      response = server.present visit.request (versionResponse 201 version) ∧
      (server.session visits node).2.store.Stored version.key version.path := by
  induction visits generalizing node with
  | nil => cases told
  | cons visit visits ih =>
      obtain ⟨answered, after, visited, -⟩ := visit_handled stored visit node
      rw [session, visited] at told ⊢
      rcases List.mem_cons.mp told with first | later
      · cases first
        obtain ⟨-, version, -, same, there⟩ := stored_of_created stored visited created
        obtain ⟨changes, store⟩ := session_store_run stored visits after
        refine ⟨visit, List.mem_cons_self, version, same, ?_⟩
        rw [store]
        exact Store.stored_run changes there
      · obtain ⟨visit, member, rest⟩ := ih later
        exact ⟨visit, List.mem_cons_of_mem _ member, rest⟩

/-- Every response of a session is that to a visit in it. -/
theorem exists_visit {σ : Type} {server : Server σ} {visits : List Visit} {state : σ}
    {answer : Option Response} (told : answer ∈ (server.session visits state).1) :
    ∃ visit ∈ visits, ∃ before after, server.visit visit before = (answer, after) := by
  induction visits generalizing state with
  | nil => cases told
  | cons visit visits ih =>
      rw [session] at told
      rcases List.mem_cons.mp told with first | later
      · exact ⟨visit, List.mem_cons_self, state, (server.visit visit state).2, by rw [first]⟩
      · obtain ⟨visit, member, rest⟩ := ih later
        exact ⟨visit, List.mem_cons_of_mem _ member, rest⟩

/-- A server that is read-only tells of no new version. -/
theorem writable_of_created {settings : Settings} {now : Instant} {shutdownAt : Option Nat}
    {visit : Visit} {node after : Node} {response : Response}
    (visited : (ofNode settings clock now shutdownAt).visit visit node = (some response, after))
    (created : response.status = 201) : settings.readOnly = false := by
  cases closed : settings.readOnly with
  | false => rfl
  | true =>
      have stored : (ofNode settings clock now shutdownAt).backend = Node.backend clock := rfl
      have same : settings = { settings with readOnly := true } := by rw [← closed]
      obtain ⟨captured, -, saves, -⟩ := stored_of_created stored visited created
      have gated : visit.request.gate? = some "/save" := by
        rw [Request.gate?, saves]
        rfl
      rw [same, visit_gated gated] at visited
      cases visited
      change (if _ then _ else _ : Response).status = 201 at created
      split at created
      · exact absurd created (by decide : (413 : Nat) ≠ 201)
      · exact absurd created (by decide : (403 : Nat) ≠ 201)

end Server
end DatasetService.Http
