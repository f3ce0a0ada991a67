import DatasetService.Proofs.Http.Paging
import DatasetService.Proofs.Http.Session
import DatasetService.Proofs.Store.Rendering

set_option autoImplicit false

/- Reading what was saved. Every version that a server tells of as new can be read again, unless
its rows are uneven where CSV is asked for, or the whole of it is too deep where JSON is. -/
namespace DatasetService.Http

open DatasetService.Action

/-- The status that the answer of a store is sent with. -/
def sentStatus (format : Format) : Except StoreError Payload → Nat
  | .error error => (ApiError.ofStore error).status
  | .ok content =>
      match format with
      | .json =>
          match contentValue content with
          | .error error => error.status
          | .ok _ => 200
      | _ => 200

section statuses

variable {format : Format} {admitted : Prop} [Decidable admitted]

/-- Text is sent as JSON if it parses. -/
theorem sentStatus_json {bytes : Text.Bytes}
    (parses : (∃ read, Json.parse bytes = .ok read) ↔ admitted) :
    sentStatus .json (.ok (.bytes bytes)) = if admitted then 200 else 500 := by
  unfold sentStatus contentValue
  dsimp only
  cases read : Json.parse bytes with
  | ok value => rw [if_pos (parses.mp ⟨value, read⟩)]
  | error error =>
      have fails : ¬ admitted := by
        intro holds
        obtain ⟨value, other⟩ := parses.mpr holds
        cases read.symm.trans other
      rw [if_neg fails]
      rfl

theorem sentStatus_written {answer : Except StoreError Payload} (plain : format ≠ .json)
    (written : Store.Written admitted answer) :
    sentStatus format answer = if admitted then 200 else 500 := by
  by_cases even : admitted
  · obtain ⟨content, same⟩ := written.1 even
    rw [if_pos even, same]
    cases format with
    | json => exact absurd rfl plain
    | csv => rfl
    | zip => rfl
  · rw [if_neg even, written.2 even]
    rfl

end statuses

namespace Server

/-- A request for an operation, with the parameters that it binds. -/
structure Requests (server : Server Node) (request : Request) (operation : Operation)
    (shape : ParamShape) (params : shape.Params) : Prop where
  small : server.declaresTooMuch request = false
  handled : ∃ route captured, request.handler? = some (route, captured, operation) ∧
    bindRequest shape server.settings.maxUploadBytes request captured = .ok params

/-- A request is answered with a status. -/
def Tells (server : Server Node) (world : World Node) (request : Request) (status : Nat) : Prop :=
  ∃ response after, (server.serve request).run world = (some response, after) ∧
    response.status = status

variable {server : Server Node} {clock : Nat → Instant} {world : World Node} {scope : Scope}

/-- What a store answered is sent with its status. -/
theorem ends_sent (format : Format) (contentType : String) (disposition : Option String)
    (answer : Except StoreError Payload) :
    (do
      let content ← Action.ofStore answer
      Action.ofExcept (contentResponse format contentType disposition content)).Ends world
      (fun response _ => response.status = sentStatus format answer)
      (fun error _ => error.status = sentStatus format answer) := by
  cases answer with
  | error error => exact ends_bind (ends_fail rfl)
  | ok content =>
      refine ends_bind (ends_pure ?_)
      cases format with
      | csv => exact ends_pure rfl
      | zip => exact ends_pure rfl
      | json =>
          unfold contentResponse sentStatus
          dsimp only
          cases contentValue content with
          | ok value => exact ends_pure rfl
          | error error => exact ends_fail rfl

theorem ends_get (stored : server.backend = Node.backend clock)
    (goesOn : scope.stopped? world.clock = none) (params : GetParams) :
    (server.get scope params).Ends world
      (fun response _ => response.status =
        sentStatus params.format (world.state.store.get params.reference params.format))
      (fun error _ => error.status =
        sentStatus params.format (world.state.store.get params.reference params.format)) := by
  unfold Server.get
  rw [stored]
  refine ends_bind (Node.ends_perform (fun error stopped => ?_) fun _ => ends_sent _ _ _ _)
  rw [goesOn] at stopped
  cases stopped

theorem ends_query (stored : server.backend = Node.backend clock)
    (goesOn : scope.stopped? world.clock = none) (params : SqlParams) :
    (server.query scope params).Ends world
      (fun response _ => response.status =
        sentStatus params.outputFormat (world.state.store.exec params.query params.outputFormat))
      (fun error _ => error.status =
        sentStatus params.outputFormat
          (world.state.store.exec params.query params.outputFormat)) := by
  unfold Server.query
  rw [call_sql, stored, bind_assoc]
  refine ends_bind (Node.ends_perform (fun error stopped => ?_) fun _ => ?_)
  · rw [goesOn] at stopped
    cases stopped
  · simp only [bind_assoc, pure_bind]
    exact ends_sent _ _ _ _

variable {request : Request} {status : Nat}

/-- A request is answered with the status that its operation comes to. -/
theorem tells_of_ends {operation : Operation} {shape : ParamShape} {params : shape.Params}
    {handle : Scope → shape.Params → Action Node Response}
    (writable : server.settings.readOnly = false)
    (requests : server.Requests request operation shape params)
    (run : ∀ scope captured, server.run scope request captured operation =
      server.bound shape request captured >>= handle scope)
    (ends : (handle (server.scopeIn world) params).Ends world
      (fun response _ => response.status = status) (fun error _ => error.status = status)) :
    server.Tells world request status := by
  obtain ⟨route, captured, found, bound⟩ := requests.handled
  have passed : Access.check server.settings.readOnly route.pattern = .ok () := by
    rw [writable]
    rfl
  have all : (server.run (server.scopeIn world) request captured operation).Ends world
      (fun response _ => response.status = status) (fun error _ => error.status = status) := by
    rw [run]
    refine ends_bind ?_
    unfold Server.bound
    rw [bound]
    exact ends_pure ends
  obtain ⟨response, after, ran, tells⟩ : ∃ response after,
      (server.answer request route captured operation).run world = (some response, after) ∧
        response.status = status := run_answer_of_ends passed all
  rw [← dispatch_of_handler found] at ran
  exact ⟨_, after, run_serve_of_dispatch requests.small ran, tells⟩

end Server

/-- A reference to one version of a dataset. -/
def Addresses (reference : Reference) (version : Version) : Prop :=
  reference.key = version.key ∧ reference.path = some version.path

/-- How a server sends what is stored of a version. Its body as JSON, also that of a query, is
always sent. CSV is sent if the rows are even, and so is an archive, which holds them as CSV. The
whole of a version as JSON, in which its rows are counted with 64 bits, is sent if it is not too
deep. -/
structure Server.Renders (server : Server Node) (world : World Node) (version : Version)
    (found : Snapshot) : Prop where
  document : ∀ request (params : GetParams), server.Requests request .get .get params →
    Addresses params.reference version → params.reference.selector = none →
    params.format = .json → found.table.rows.length ≤ Literal.maxCount →
      server.Tells world request (if found.document.depth < Json.depthLimit then 200 else 500)
  table : ∀ request (params : GetParams), server.Requests request .get .get params →
    Addresses params.reference version →
    (params.reference.selector = none ∨ params.reference.selector = some "body") →
    params.format = .csv →
      server.Tells world request (if found.table.Even none then 200 else 500)
  archive : ∀ request (params : GetParams), server.Requests request .get .get params →
    Addresses params.reference version → params.reference.selector = none →
    params.format = .zip →
      server.Tells world request (if found.table.Even none then 200 else 500)
  body : ∀ request (params : GetParams), server.Requests request .get .get params →
    Addresses params.reference version → params.reference.selector = some "body" →
    params.format = .json → server.Tells world request 200
  queryTable : ∀ request (params : SqlParams) (query : Query),
    server.Requests request .query .sql params → Query.parse params.query = .ok query →
    Addresses query.reference version → params.outputFormat = .csv →
      server.Tells world request (if found.table.Even query.limit then 200 else 500)
  queryRows : ∀ request (params : SqlParams) (query : Query),
    server.Requests request .query .sql params → Query.parse params.query = .ok query →
    Addresses query.reference version → params.outputFormat = .json →
      server.Tells world request 200

namespace Server

variable {server : Server Node} {clock : Nat → Instant} {world : World Node} {request : Request}

theorem tells_get {status : Nat} (stored : server.backend = Node.backend clock)
    (writable : server.settings.readOnly = false) (running : server.Running world)
    {params : GetParams} (requests : server.Requests request .get .get params)
    (sent : sentStatus params.format (world.state.store.get params.reference params.format) =
      status) : server.Tells world request status := by
  refine tells_of_ends writable requests (fun _ _ => rfl) ?_
  rw [← sent]
  exact ends_get stored running params

theorem tells_query {status : Nat} (stored : server.backend = Node.backend clock)
    (writable : server.settings.readOnly = false) (running : server.Running world)
    {params : SqlParams} (requests : server.Requests request .query .sql params)
    (sent : sentStatus params.outputFormat
      (world.state.store.exec params.query params.outputFormat) = status) :
    server.Tells world request status := by
  refine tells_of_ends writable requests (fun _ _ => rfl) ?_
  rw [← sent]
  exact ends_query stored running params

/-- What is found of a version is sent, as long as nothing stops the server. -/
theorem renders_of_found (stored : server.backend = Node.backend clock)
    (writable : server.settings.readOnly = false) (running : server.Running world)
    {version : Version} {found : Snapshot} (renderable : found.Renderable)
    (finds : ∀ reference, Addresses reference version →
      world.state.store.snapshot reference = .ok found) :
    server.Renders world version found := by
  constructor
  · intro request params requests addresses whole json counted
    refine tells_get stored writable running requests ?_
    rw [json, Store.get_document (finds _ addresses) whole]
    exact sentStatus_json (Snapshot.parse_document_iff renderable counted)
  · intro request params requests addresses tabular csv
    refine tells_get stored writable running requests ?_
    rw [csv]
    exact sentStatus_written (by decide) (Store.get_csv (finds _ addresses) tabular)
  · intro request params requests addresses whole zip
    refine tells_get stored writable running requests ?_
    rw [zip]
    exact sentStatus_written (by decide) (Store.get_zip (finds _ addresses) whole)
  · intro request params requests addresses body json
    refine tells_get stored writable running requests ?_
    rw [json, Store.get_body (finds _ addresses) body]
    exact sentStatus_json (iff_true_intro (Snapshot.parse_body renderable))
  · intro request params query requests read addresses csv
    refine tells_query stored writable running requests ?_
    rw [csv]
    exact sentStatus_written (by decide) (Store.exec_csv read (finds _ addresses))
  · intro request params query requests read addresses json
    refine tells_query stored writable running requests ?_
    obtain ⟨count, rows⟩ := Store.exec_json read (finds _ addresses)
    rw [json, rows]
    exact sentStatus_json (iff_true_intro (Snapshot.parse_rows renderable count))

end Server

/-- Whatever requests are made to a server without deadline, every version that it tells of as new
is stored after them, and is sent when it is asked for: always its body as JSON, everything else
unless its rows were uploaded as arrays of unequal length, or it was uploaded in JSON that is as
deep as can be read. In these cases the rows as CSV, or the whole as JSON, are an internal
failure. -/
theorem saved_versions_are_sent (settings : Settings) (clock : Nat → Instant) (now : Instant)
    (start : Store.Start) (visits : List Visit) (response : Response)
    (told : some response ∈ ((Server.ofNode { settings with requestTimeout := none } clock now
      none).session visits { store := start.store }).1)
    (created : response.status = 201) :
    let server := Server.ofNode { settings with requestTimeout := none } clock now none
    let node := (server.session visits { store := start.store }).2
    ∃ visit ∈ visits, ∃ version, ∃ found ∈ node.store.versions version.key,
      response = server.present visit.request (Server.versionResponse 201 version) ∧
      found.version.path = version.path ∧
      (∀ time calls, server.Renders { state := node, clock := time, calls } version found) ∧
      (found.table.Even none ∨
        ∃ upload, Table.ofUpload upload = .ok found.table ∧ Table.Ragged upload) ∧
      (found.table.rows.length ≤ Literal.maxCount → found.document.depth < Json.depthLimit ∨
        ∃ upload, Table.ofUpload upload = .ok found.table ∧ Table.Deep upload) := by
  intro server node
  have stored : server.backend = Node.backend clock := rfl
  obtain ⟨visit, member, version, same, there⟩ := Server.session_stored stored told created
  obtain ⟨found, inside, path, finds⟩ := Store.exists_of_stored there
  have renderable : found.Renderable := by
    obtain ⟨changes, store⟩ := Server.session_store_run stored visits { store := start.store }
    have all := Store.renderable_run start changes
    rw [← store] at all
    exact all version.key found inside
  have writable : server.settings.readOnly = false := by
    obtain ⟨visit, -, before, after, visited⟩ := Server.exists_visit told
    exact Server.writable_of_created visited created
  refine ⟨visit, member, version, found, inside, same, path, fun time calls => ?_,
    renderable.table.even_or_ragged, Snapshot.shallow_or_deep renderable⟩
  exact Server.renders_of_found stored writable rfl renderable fun reference addresses =>
    finds reference addresses.1 addresses.2

section finches

/-- A server without deadline. -/
def patientServer : Server Node :=
  Server.ofNode { ({} : Settings) with requestTimeout := none } Store.secondsClock { seconds := 0 }
    none

/-- Visits to the server while it has no data yet. -/
def firstVisits (visits : List Visit) : List (Option Response) × Node :=
  patientServer.session visits { store := Store.Start.empty.store }

/-- An upload of two rows of unequal length. -/
def raggedFinches : Visit :=
  { time := 0
    request :=
      { method := "POST"
        target := "/save/peer/finches"
        headers := [("content-type", Text.bytesOf jsonType)]
        body := Text.bytesOf "\x7b\"body\":[[1],[2,3]]\x7d" } }

def finchesAsCsv : Visit := { time := 1, request := .following "/get/peer/finches?format=csv" }

theorem statuses_raggedFinches :
    (firstVisits [raggedFinches]).1.map (Option.map Response.status) = [some 201] := by
  decide +kernel

theorem ragged_finches_are_sent :
    ∃ response, some response ∈ (firstVisits [raggedFinches]).1 ∧ response.status = 201 ∧
      ∃ version found,
        response = patientServer.present raggedFinches.request
          (Server.versionResponse 201 version) ∧
        found.version.path = version.path ∧
        ∀ time calls, patientServer.Renders
          { state := (firstVisits [raggedFinches]).2, clock := time, calls } version found := by
  have created : some 201 ∈ (firstVisits [raggedFinches]).1.map (Option.map Response.status) := by
    rw [statuses_raggedFinches]
    exact List.mem_singleton_self _
  obtain ⟨answer, told, status⟩ := List.mem_map.mp created
  obtain ⟨response, same, status⟩ := Option.map_eq_some_iff.mp status
  rw [same] at told
  obtain ⟨visit, member, version, found, -, presented, path, renders, -⟩ :=
    saved_versions_are_sent {} Store.secondsClock { seconds := 0 } .empty [raggedFinches] response
      told status
  rw [List.mem_singleton.mp member] at presented
  exact ⟨response, told, status, version, found, presented, path, renders⟩

/-- Rows of unequal length are saved, and then cannot be read as CSV. -/
theorem ragged_finches_fail_as_csv :
    (firstVisits [raggedFinches, finchesAsCsv]).1.map (Option.map Response.status) =
      [some 201, some 500] := by
  decide +kernel

end finches

end DatasetService.Http
