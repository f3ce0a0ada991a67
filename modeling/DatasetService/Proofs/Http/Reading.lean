import DatasetService.Http.Server
import DatasetService.Proofs.Action

set_option autoImplicit false

/- The operations of a server that only read its node. None of their responses tells of a new
version. -/
namespace DatasetService

namespace History

open DatasetService.Action

theorem reads_fetchRemote (clock : Nat → Instant) (scope : Scope) (remotes : Remotes)
    (params : LogParams) (remote : String) :
    Reads (fetchRemote (Node.backend clock) scope remotes params remote) Anything := by
  refine Reads.bind (reads_performWithin scope _ fun _ => rfl) fun answer _ => ?_
  match answer with
  | none => exact reads_fail _
  | some (.error error) => exact reads_fail _
  | some (.ok items) => exact reads_pure trivial

theorem reads_resolve (clock : Nat → Instant) (scope : Scope) (remotes : Remotes)
    (params : LogParams) :
    Reads (resolve (Node.backend clock) scope remotes params) Anything := by
  refine Reads.bind (reads_ofExcept fun _ _ => trivial : Reads _ Anything) fun _ _ => ?_
  split
  · exact reads_fetchRemote clock scope remotes params _
  · refine Reads.bind (reads_perform scope fun _ => rfl) fun answer _ => ?_
    split
    · exact reads_pure trivial
    · exact reads_fetchRemote clock scope remotes params _
    · exact reads_fail _

end History

namespace Http

open DatasetService.Action

namespace Server

section registry

variable {σ : Type} (server : Server σ) (scope : Scope)

/-- Through the registry the history of a dataset is that which is resolved. -/
theorem call_log (params : LogParams) :
    server.registry.call scope Command.logName { type := .logParams, value := params }
        .resolution =
      (do
        let resolution ← History.resolve server.backend scope server.remotes params
        return (resolution,
          { page := some (resolution.page.withOrder params.list.orderBy) })) := by
  have found : Assoc.get? Command.logName server.registry.commands =
      some (Command.log server.backend server.remotes) := rfl
  simp only [Registry.call, Registry.dispatch, found, Command.log, Erased.cast?, dite_true,
    bind_assoc, pure_bind]

theorem call_sql (params : SqlParams) :
    server.registry.call scope Command.sqlName { type := .sqlParams, value := params }
        .content =
      (do
        let answer ← scope.perform server.backend (.exec params.query params.outputFormat)
        let content ← Action.ofStore answer
        return (content, { contentType := some params.outputFormat.contentType })) := by
  have found : Assoc.get? Command.sqlName server.registry.commands =
      some (Command.sql server.backend) := rfl
  simp only [Registry.call, Registry.dispatch, found, Command.sql, Erased.cast?, dite_true,
    bind_assoc, pure_bind]

theorem call_list (params : ListParams) :
    server.registry.call scope Command.listName { type := .listParams, value := params }
        .versions =
      (do
        let answer ← scope.perform server.backend (.list params)
        let items ← Action.ofStore answer
        return (items, { page := some params.page })) := by
  have found : Assoc.get? Command.listName server.registry.commands =
      some (Command.list server.backend) := rfl
  simp only [Registry.call, Registry.dispatch, found, Command.list, Erased.cast?, dite_true,
    bind_assoc, pure_bind]

end registry

variable {server : Server Node} {clock : Nat → Instant}

/-- A response that tells of no new version. -/
def Unmade (response : Response) : Prop := response.status ≠ 201

theorem unmade_versionPage (base : String) (page : PageToken) (items : List Version) :
    Unmade (versionPage base page items) := by
  change 200 ≠ 201
  decide

theorem unmade_contentResponse {format : Format} {contentType : String}
    {disposition : Option String} {content : Payload} {response : Response}
    (rendered : contentResponse format contentType disposition content = .ok response) :
    Unmade response := by
  have ok : response.status = 200 := by
    cases format with
    | json =>
        cases value : contentValue content with
        | error error => simp [contentResponse, value, bind, Except.bind] at rendered
        | ok data =>
            simp only [contentResponse, value, bind, Except.bind] at rendered
            cases rendered
            rfl
    | csv =>
        cases rendered
        rfl
    | zip =>
        cases rendered
        rfl
  simp [Unmade, ok]

theorem unmade_imageResponse (image : Image) : Unmade (imageResponse image) := by
  unfold imageResponse
  split
  · change 200 ≠ 201
    decide
  · change 500 ≠ 201
    decide

theorem reads_history (stored : server.backend = Node.backend clock) (scope : Scope)
    (params : LogParams) : Reads (server.history scope params) Unmade := by
  unfold history
  rw [call_log, stored]
  refine Reads.bind (Reads.bind (History.reads_resolve clock scope server.remotes params)
    fun _ _ => reads_pure trivial : Reads _ Anything) fun found _ => ?_
  exact reads_pure (unmade_versionPage _ _ _)

theorem reads_query (stored : server.backend = Node.backend clock) (scope : Scope)
    (params : SqlParams) : Reads (server.query scope params) Unmade := by
  unfold query
  rw [call_sql, stored]
  refine Reads.bind (Reads.bind (reads_perform scope fun _ => rfl) fun answer _ =>
    Reads.bind (reads_ofStore answer) fun _ _ => reads_pure trivial : Reads _ Anything)
    fun found _ => ?_
  exact reads_ofExcept fun response rendered => unmade_contentResponse rendered

theorem reads_get (stored : server.backend = Node.backend clock) (scope : Scope)
    (params : GetParams) : Reads (server.get scope params) Unmade := by
  unfold get
  rw [stored]
  refine Reads.bind (reads_perform scope fun _ => rfl) fun answer _ => ?_
  refine Reads.bind (reads_ofStore answer) fun content _ => ?_
  exact reads_ofExcept fun response rendered => unmade_contentResponse rendered

theorem reads_list (stored : server.backend = Node.backend clock) (scope : Scope)
    (params : ListParams) : Reads (server.list scope params) Unmade := by
  unfold list
  rw [call_list, stored, bind_assoc]
  refine Reads.bind (reads_perform scope fun _ => rfl) fun answer _ => ?_
  rw [bind_assoc]
  refine Reads.bind (reads_ofStore answer) fun items _ => ?_
  exact reads_pure (unmade_versionPage _ _ _)

theorem reads_image (stored : server.backend = Node.backend clock) (scope : Scope)
    (kind : ImageKind) (owner : Owner) (params : ProfileImageParams) :
    Reads (server.image scope kind owner params) Unmade := by
  unfold image
  rw [stored]
  generalize imageSubject owner params = subject
  obtain ⟨peername, id⟩ := subject
  dsimp only
  split
  · exact reads_fail _
  · refine Reads.bind (reads_perform scope fun _ => rfl) fun answer _ => ?_
    refine Reads.bind (reads_ofStore answer) fun image _ => ?_
    exact reads_pure (unmade_imageResponse image)

end Server
end Http
end DatasetService
