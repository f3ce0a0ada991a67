import DatasetService.Proofs.Http.Effect

set_option autoImplicit false

/- Failures leave no trace. An operation on a store that fails has written nothing by then, and a
request changes a node only where it succeeds. -/
namespace DatasetService.Http

/-- A status that tells of success. -/
def Response.Succeeds (response : Response) : Prop :=
  200 ≤ response.status ∧ response.status < 300

/-- Whether an operation is one that changes a store. -/
def Operation.changes : Operation → Bool
  | .save | .publish | .unpublish => true
  | _ => false

/-- What is asked for with `GET`, and with `HEAD` like it, changes no store. -/
theorem Route.changes_eq_false {route : Route} {method : String} {operation : Operation}
    (reads : method = "GET" ∨ method = "HEAD")
    (found : route.operation? method = some operation) : operation.changes = false := by
  have served : route.served "GET" = some operation := by
    rcases reads with rfl | rfl <;> simpa [operation?] using found
  have readsOnly : (route.served "GET").all (!·.changes) = true := by cases route <;> decide
  simpa [served] using readsOnly

/-- Only one route saves, and by one method. -/
theorem Route.eq_save {route : Route} {method : String}
    (found : route.operation? method = some .save) : route = .save ∧ method = "POST" := by
  unfold operation? at found
  split at found
  · cases route <;> simp [Route.served] at found
  · unfold served at found
    split at found <;> simp_all

namespace Effect

variable {server : Server Node} {clock : Nat → Instant} {request : Request}
  {captured : Option (List Char)} {before after : Node} {operation : Operation}
  {response : Response}

theorem unchanged_of_not_succeeds
    (effect : Effect server clock request captured before operation response after)
    (failed : ¬ response.Succeeds) : after = before := by
  have succeeds (status : Nat) (version : Version) (success : 200 ≤ status ∧ status < 300) :
      (Server.versionResponse status version).Succeeds := success
  cases effect with
  | kept unmade => rfl
  | saved bound made => exact absurd (succeeds 201 _ (by decide)) failed
  | published made => exact absurd (succeeds 200 _ (by decide)) failed
  | unpublished made => exact absurd (succeeds 200 _ (by decide)) failed

theorem unchanged_of_reads
    (effect : Effect server clock request captured before operation response after)
    (reads : operation.changes = false) : after = before := by
  cases effect with
  | kept unmade => rfl
  | saved bound made => cases reads
  | published made => cases reads
  | unpublished made => cases reads

/-- A response that tells of a new version comes of a save, and the version stands in front of
the history that it belongs to. -/
theorem saved_of_created
    (effect : Effect server clock request captured before operation response after)
    (created : response.status = 201) :
    operation = .save ∧ ∃ params snapshot,
      bindRequest .save server.settings.maxUploadBytes request captured = .ok params ∧
      snapshot.version.key = params.reference.key ∧
      response = Server.versionResponse 201 snapshot.version ∧
      after.store = before.store.setHistory params.reference.key
        (snapshot :: before.store.versions params.reference.key) := by
  cases effect with
  | kept unmade => exact absurd created unmade
  | @saved params version store bound made =>
      obtain ⟨table, bodySize, -, rfl, rfl⟩ :=
        (Store.save_eq_ok_iff before.store params.reference params.request _ version store).1 made
      exact ⟨rfl, params, _, bound, rfl, rfl, rfl⟩
  | published made => cases created
  | unpublished made => cases created

end Effect

/-- An operation that fails has left the store as it was. A request is answered whatever the
time is when it comes and whenever the server shuts down. It changes the node only if the answer
tells of success, and not at all if it only asks; one new version is all that a save changes. -/
theorem failures_leave_no_trace (settings : Settings) (clock : Nat → Instant) (now : Instant)
    (shutdownAt : Option Nat) :
    (∀ (before after : Store) (reference : Reference) (content : SaveRequest) (time : Instant)
        (remote : String) (error : StoreError),
      ((InPlace.save reference content time).outcome before = (.error error, after) →
        after = before) ∧
      ((InPlace.publish reference remote).outcome before = (.error error, after) →
        after = before) ∧
      ((InPlace.unpublish reference remote).outcome before = (.error error, after) →
        after = before)) ∧
    ∀ (request : Request) (world : World Node),
      ∃ response after,
        ((Server.ofNode settings clock now shutdownAt).serve request).run world =
          (some response, after) ∧
        (¬ response.Succeeds → after.state = world.state) ∧
        (request.method = "GET" ∨ request.method = "HEAD" → after.state = world.state) ∧
        (response.status = 201 →
          request.method = "POST" ∧ ∃ captured params snapshot,
            Route.ofPath? request.at.path = some (.save, captured) ∧
            bindRequest .save settings.maxUploadBytes request captured = .ok params ∧
            snapshot.version.key = params.reference.key ∧
            response = (Server.ofNode settings clock now shutdownAt).present request
              (Server.versionResponse 201 snapshot.version) ∧
            after.state.store = world.state.store.setHistory params.reference.key
              (snapshot :: world.state.store.versions params.reference.key)) := by
  refine ⟨fun before after reference content time remote error => ⟨?_, ?_, ?_⟩,
    fun request world => ?_⟩
  · rw [InPlace.outcome_save]
    exact Store.settled_of_error
  · rw [InPlace.outcome_publish]
    exact Store.settled_of_error
  · rw [InPlace.outcome_unpublish]
    exact Store.settled_of_error
  · have stored : (Server.ofNode settings clock now shutdownAt).backend = Node.backend clock := rfl
    obtain ⟨response, after, ran, handled⟩ := Server.run_serve stored request world
    refine ⟨_, after, ran, ?_⟩
    generalize state : after.state = final at handled
    cases handled with
    | refused unmade =>
        exact ⟨fun _ => rfl, fun _ => rfl, fun created => absurd created unmade⟩
    | routed path method effect =>
        subst state
        refine ⟨fun failed => effect.unchanged_of_not_succeeds failed,
          fun reads => effect.unchanged_of_reads (Route.changes_eq_false reads method),
          fun created => ?_⟩
        obtain ⟨rfl, params, snapshot, bound, key, rfl, stored⟩ := effect.saved_of_created created
        obtain ⟨rfl, posted⟩ := Route.eq_save method
        exact ⟨posted, _, params, snapshot, path, bound, key, rfl, stored⟩

end DatasetService.Http
