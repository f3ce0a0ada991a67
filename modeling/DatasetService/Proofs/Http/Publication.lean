import DatasetService.Proofs.History.Published
import DatasetService.Proofs.Http.HistoryPages

set_option autoImplicit false

/- Publications. Whoever publishes a dataset and then pulls it from the same remote gets the pages
of the local history. -/
namespace DatasetService.Http

open DatasetService.Action
open Binding (Whole integerOf)

/-- A request to a route for a dataset that gives these values in its query and nothing in its body.
Of several values of one name the last counts. -/
structure Request.Gives (request : Request) (method : String) (route : Route)
    (dataset : Reference) (values : List (String × Option String)) : Prop where
  method : request.method = method
  path : ∃ captured, Route.ofPath? request.at.path = some (route, some captured) ∧
    decodeReference (some captured) = .ok (some dataset.slug)
  untyped : request.header? "content-type" = none
  query : ∀ value ∈ values, Binding.lastNamed value.1 request.query = value.2

/-- What a request for a history gives. -/
def historyValues (limit offset remote : Option String) (pull : Bool) :
    List (String × Option String) :=
  [("limit", limit), ("offset", offset), ("local", none), ("remote", remote),
   ("pull", if pull then some "true" else none)]

/-- The window that is given by texts. -/
def givenWindow (limit offset : Option String) : Window :=
  Window.ofSigned (integerOf limit) (integerOf offset)

/-- What is bound of a request for a history. -/
def historyParams (dataset : Reference) (limit offset remote : Option String) (pull : Bool) :
    LogParams :=
  { reference := dataset.dataset
    list :=
      { limit := (givenWindow limit offset).limit, offset := (givenWindow limit offset).offset }
    remote := remote.bind nonempty
    pull }

theorem window_historyParams (dataset : Reference) (limit offset remote : Option String)
    (pull : Bool) :
    (historyParams dataset limit offset remote pull).list.window = givenWindow limit offset := rfl

section requests

variable {request : Request} {method : String} {route : Route} {dataset : Reference}
  {values : List (String × Option String)}

theorem Request.Gives.effective (gives : request.Gives method route dataset values)
    (reference : Option String) {name : String} {text : Option String}
    (given : (name, text) ∈ values) :
    (request.input reference).effective name = text.map .text := by
  have body : Binding.lastNamed name
      (([] : List (String × Binding.RawValue)).filter fun pair => !pair.2.isNull) = none := rfl
  have query : Binding.lastNamed name request.query = text := gives.query (name, text) given
  rw [Binding.RawInput.effective, Request.input, body, Option.none_or, query]

variable (wellFormed : dataset.WellFormed) (named : dataset.hasName = true)
include wellFormed named

theorem Request.Gives.bindRequest_publish {remote : Option String}
    (gives : request.Gives method route dataset [("remote", remote)]) (maxBytes : Nat) :
    ∃ captured, Route.ofPath? request.at.path = some (route, some captured) ∧
      bindRequest .publish maxBytes request (some captured) =
        .ok { reference := dataset.dataset, remote := remote.bind nonempty } := by
  obtain ⟨captured, path, decoded⟩ := gives.path
  let values : PublishValues := { reference := dataset.dataset, remote }
  have read : values.ReadFrom (request.input (some dataset.slug)) :=
    { reference := Binding.parseReference_slug rfl wellFormed named
      named := named
      remote := by
        rw [gives.effective _ List.mem_cons_self]
        exact Binding.fieldValue_text "remote" remote }
  refine ⟨captured, path, ?_⟩
  rw [bindRequest_untyped .publish maxBytes gives.untyped decoded]
  exact values.bind_of_read read

theorem Request.Gives.asks_history {limit offset remote : Option String} {pull : Bool}
    (gives : request.Gives "GET" .history dataset (historyValues limit offset remote pull))
    (wholeLimit : Whole limit) (wholeOffset : Whole offset) {server : Server Node}
    (small : server.declaresTooMuch request = false) :
    server.Asks request .history .log (historyParams dataset limit offset remote pull) := by
  obtain ⟨captured, path, decoded⟩ := gives.path
  let values : LogValues :=
    { reference := dataset.dataset, window := givenWindow limit offset, remote
      pull := if pull then some true else none }
  have effective (name : String) (text : Option String)
      (given : (name, text) ∈ historyValues limit offset remote pull) :=
    gives.effective (some dataset.slug) given
  have read : values.ReadFrom (request.input (some dataset.slug)) :=
    { reference := Binding.parseReference_slug rfl wellFormed named
      named := named
      limit := by
        rw [effective "limit" limit (by simp [historyValues])]
        exact Binding.fieldValue_limit wholeLimit "limit"
      offset := by
        rw [effective "offset" offset (by simp [historyValues])]
        exact Binding.fieldValue_offset wholeOffset "offset"
      isLocal := by
        rw [effective "local" none (by simp [historyValues])]
        exact Binding.fieldValue_unset "local"
      remote := by
        rw [effective "remote" remote (by simp [historyValues])]
        exact Binding.fieldValue_text "remote" remote
      pull := by
        rw [effective "pull" (if pull then some "true" else none) (by simp [historyValues])]
        cases pull with
        | true => exact Binding.fieldValue_flag "pull" (by decide)
        | false => exact Binding.fieldValue_unset "pull" }
  have bound := values.bind_of_read read
  refine ⟨gives.method, small, some captured, path, ?_⟩
  rw [bindRequest_untyped .log _ gives.untyped decoded, bound]
  cases pull <;> rfl

end requests

namespace Server

variable {server : Server Node} {clock : Nat → Instant} {world after : World Node}
  {request : Request} {response : Response}

/-- A publication that was made in time: it is that of the store. -/
structure Publishes (server : Server Node) (params : PublishParams) (world after : World Node) :
    Prop where
  running : server.Running world
  clock : after.clock = world.clock
  made : ∃ version,
    world.state.store.publish params.reference (server.publishRemote params) =
      .ok (version, after.state.store)

/-- Who is told of a publication has published. Nothing is said of a failure. -/
theorem ends_publication (stored : server.backend = Node.backend clock) (params : PublishParams) :
    (server.publish (server.scopeIn world) params).Ends world
      (fun _ after => server.Publishes params world after) (fun _ _ => True) := by
  unfold publish
  rw [stored]
  let call : Call := .publish params.reference (server.publishRemote params)
  let operation := world.state.store.publish params.reference (server.publishRemote params)
  have settles : ((server.scopeIn world).perform (Node.backend clock) call).Ends world
      (fun answer after => server.Running world ∧ after.clock = world.clock ∧
        (answer, after.state) = world.state.settled 0 operation)
      (fun _ _ => True) :=
    Node.ends_perform (fun _ _ => trivial) fun goesOn =>
      ⟨goesOn, rfl, Node.publish_eq world.state params.reference (server.publishRemote params)⟩
  refine ends_bind (settles.mono ?_ fun _ _ _ => trivial)
  rintro answer after ⟨running, clock, settled⟩
  cases made : operation with
  | error error =>
      rw [made] at settled
      obtain ⟨rfl, -⟩ := Prod.mk.inj settled
      exact ends_bind (ends_fail trivial)
  | ok result =>
      obtain ⟨version, store⟩ := result
      rw [made] at settled
      obtain ⟨rfl, state⟩ := Prod.mk.inj settled
      refine ends_bind (ends_pure (ends_pure ⟨running, clock, version, ?_⟩))
      rw [state]
      exact made

/-- A request to publish that succeeds has passed the gate, was in time, and has published. -/
theorem publishes_of_succeeds (stored : server.backend = Node.backend clock)
    {captured : Option (List Char)} {params : PublishParams} (posted : request.method = "POST")
    (path : Route.ofPath? request.at.path = some (.publish, captured))
    (bound : bindRequest .publish server.settings.maxUploadBytes request captured = .ok params)
    (served : (server.serve request).run world = (some response, after))
    (succeeds : response.status = 200) : server.Publishes params world after := by
  -- What holds of a response that succeeds holds of a failure, whatever stage it comes from.
  let Published (response : Response) (after : World Node) : Prop :=
    response.status = 200 → server.Publishes params world after
  have refused (error : ApiError) (after : World Node) : Published (Response.ofError error) after :=
    fun status => absurd status (ofError_ne_ok error)
  have handler : request.handler? = some (.publish, captured, .publish) := by
    have operation : Route.publish.operation? "POST" = some .publish := by decide
    simp [Request.handler?, path, posted, operation]
  have gated : Ends
      (Action.ofExcept (Access.check server.settings.readOnly Route.publish.pattern) >>= fun _ =>
        server.run (server.scopeIn world) request captured .publish) world Published
      (fun error => Published (Response.ofError error)) := by
    refine ends_bind (ends_ofExcept (fun _ _ => ?_) fun error _ => refused error world)
    refine ends_bind (ends_ofExcept (fun found ok => ?_) fun error _ => refused error world)
    cases bound.symm.trans ok
    exact (ends_publication stored params).mono (fun _ _ publishes _ => publishes)
      fun error after _ => refused error after
  cases large : server.declaresTooMuch request with
  | true =>
      rw [run_serve_of_large large] at served
      cases served
      cases succeeds
  | false =>
      obtain ⟨answer, last, ran, published⟩ := respond_of_ends gated
      have dispatched : (server.dispatch request).run world = (some answer, last) := by
        rw [dispatch_of_handler handler, Server.answer, StateT.run_bind]
        exact ran
      cases (run_serve_of_dispatch large dispatched).symm.trans served
      exact published succeeds

end Server

/-- A page of a history, as it is presented to a client who reads bodies. -/
theorem isPage_of_asks {server : Server Node} {clock : Nat → Instant} {world : World Node}
    {request : Request} {dataset : Reference} {limit offset remote : Option String} {pull : Bool}
    {items : List Version} (stored : server.backend = Node.backend clock)
    (asks : server.Asks request .history .log (historyParams dataset limit offset remote pull))
    (running : server.Running world)
    (source : History.source world.state.store server.remotes
      (historyParams dataset limit offset remote pull) = .ok items) :
    ∃ response after, (server.serve request).run world = (some response, after) ∧
      world.Same after ∧
      response.IsPage ((givenWindow limit offset).slice items)
        (Pagination.of (historyBase dataset.dataset)
          (historyParams dataset limit offset remote pull).list.page
          ((givenWindow limit offset).slice items).length) := by
  have asksHere : server.Asks request histories.route histories.shape
      (historyParams dataset limit offset remote pull) := asks
  have found : histories.source world.state.store server.remotes
      (historyParams dataset limit offset remote pull) = .ok items := source
  obtain ⟨response, after, served, same, page⟩ :=
    (histories_lawful stored).isPage_of_asks asksHere running found
  have window : (histories.list (historyParams dataset limit offset remote pull)).window =
      givenWindow limit offset := window_historyParams dataset limit offset remote pull
  rw [window] at page
  exact ⟨response, after, served, same, page⟩

/-- What is published is what a pull returns. If a dataset is published to a remote, by whatever
name that is given for it or by default, then a request that pulls its history from the same name
is answered with the page that a request for the local history is answered with. The versions come
from a remote then, and nothing else is different. -/
theorem published_history_is_pulled (settings : Settings) (clock : Nat → Instant) (now : Instant)
    (shutdownAt : Option Nat) (world after : World Node) (dataset : Reference)
    (limit offset remote : Option String) (publishing pulling viewing : Request)
    (response : Response) (wellFormed : dataset.WellFormed) (named : dataset.hasName = true)
    (wholeLimit : Whole limit) (wholeOffset : Whole offset)
    (publishes : publishing.Gives "POST" .publish dataset [("remote", remote)])
    (pulls : pulling.Gives "GET" .history dataset (historyValues limit offset remote true))
    (views : viewing.Gives "GET" .history dataset (historyValues limit offset none false))
    (small : ∀ request ∈ [pulling, viewing],
      (Server.ofNode settings clock now shutdownAt).declaresTooMuch request = false)
    (served : ((Server.ofNode settings clock now shutdownAt).serve publishing).run world =
      (some response, after))
    (succeeds : response.status = 200) :
    let server := Server.ofNode settings clock now shutdownAt
    let items := (givenWindow limit offset).slice
      ((after.state.store.versions dataset.key).map Snapshot.version)
    ∃ pagination, ∀ later, after.Same later →
      (∃ pulled last, (server.serve pulling).run later = (some pulled, last) ∧
        later.Same last ∧ pulled.IsPage (items.map Version.received) pagination) ∧
      ∃ viewed last, (server.serve viewing).run later = (some viewed, last) ∧
        later.Same last ∧ viewed.IsPage items pagination := by
  intro server items
  have stored : server.backend = Node.backend clock := rfl
  obtain ⟨captured, path, bound⟩ :=
    publishes.bindRequest_publish wellFormed named settings.maxUploadBytes
  obtain ⟨running, clock_eq, version, made⟩ :=
    Server.publishes_of_succeeds stored publishes.method path bound served succeeds
  have runningAfter : server.Running after := running.at_clock clock_eq
  let list := (historyParams dataset limit offset remote true).list
  refine ⟨Pagination.of (historyBase dataset.dataset) list.page items.length,
    fun later same => ⟨?_, ?_⟩⟩
  -- Both sides bind the name of the remote alike, so that the pull asks where the copies are.
  · have source : History.source later.state.store server.remotes
        (historyParams dataset limit offset remote true) =
          .ok (((after.state.store.versions dataset.key).map Snapshot.version).map
            Version.received) := by
      rw [same.state]
      exact History.source_of_pull made list
    have asks := pulls.asks_history wellFormed named wholeLimit wholeOffset
      (small pulling List.mem_cons_self)
    have page := isPage_of_asks stored asks (runningAfter.same same) source
    rw [Window.slice_map, List.length_map] at page
    exact page
  · have source : History.source later.state.store server.remotes
        (historyParams dataset limit offset none false) =
          .ok ((after.state.store.versions dataset.key).map Snapshot.version) := by
      rw [same.state]
      exact History.source_of_publish made list rfl
    have asks := views.asks_history wellFormed named wholeLimit wholeOffset
      (small viewing (List.mem_cons_of_mem _ List.mem_cons_self))
    have page := isPage_of_asks stored asks (runningAfter.same same) source
    exact page

section demonstration

/-- The demonstration dataset is published to the archive, whose name has blanks around it. -/
def publishMovies : Request :=
  { method := "POST", target := "/publish/peer/movies?remote=+archive+" }

def pullMovies : Request :=
  { target := "/history/peer/movies?pull=true&remote=+archive+&limit=2&offset=1" }

def viewMovies : Request := { target := "/history/peer/movies?limit=2&offset=1" }

theorem wellFormed_movies : Store.moviesReference.WellFormed :=
  ((Reference.parseChars_eq_ok_iff Store.moviesReference.text.toList _).mp (by decide)).2

theorem publishMovies_gives :
    publishMovies.Gives "POST" .publish Store.moviesReference [("remote", some " archive ")] where
  method := rfl
  path := ⟨"peer/movies".toList, by decide, by decide⟩
  untyped := rfl
  query := by decide

theorem pullMovies_gives :
    pullMovies.Gives "GET" .history Store.moviesReference
      (historyValues (some "2") (some "1") (some " archive ") true) where
  method := rfl
  path := ⟨"peer/movies".toList, by decide, by decide⟩
  untyped := rfl
  query := by decide

theorem viewMovies_gives :
    viewMovies.Gives "GET" .history Store.moviesReference
      (historyValues (some "2") (some "1") none false) where
  method := rfl
  path := ⟨"peer/movies".toList, by decide, by decide⟩
  untyped := rfl
  query := by decide

/-- Every version of the dataset can be read, also after it was published. -/
theorem representable_published : ∀ snapshot ∈ ((demonstrationServer.serve publishMovies).run
    demonstrationWorld).2.state.store.versions Store.movies, snapshot.version.Representable := by
  decide +kernel

theorem movies_are_pulled :
    ∃ response after pagination items,
      (demonstrationServer.serve publishMovies).run demonstrationWorld = (some response, after) ∧
      response.status = 200 ∧ items.length = 2 ∧
      (∃ pulled last, (demonstrationServer.serve pullMovies).run after = (some pulled, last) ∧
        pulled.page? = some (items.map Version.received, pagination)) ∧
      ∃ viewed last, (demonstrationServer.serve viewMovies).run after = (some viewed, last) ∧
        viewed.page? = some (items, pagination) := by
  have status : ((demonstrationServer.serve publishMovies).run demonstrationWorld).1.map
      Response.status = some 200 := rfl
  have count : (((demonstrationServer.serve publishMovies).run
      demonstrationWorld).2.state.store.versions Store.movies).length = 3 := rfl
  have readable := representable_published
  cases served : (demonstrationServer.serve publishMovies).run demonstrationWorld with
  | mk answer after =>
      rw [served] at status count readable
      obtain ⟨response, rfl, succeeds⟩ := Option.map_eq_some_iff.mp status
      obtain ⟨pagination, pages⟩ :=
        published_history_is_pulled {} Store.secondsClock { seconds := 0 } none demonstrationWorld
          after Store.moviesReference (some "2") (some "1") (some " archive ") publishMovies
          pullMovies viewMovies response wellFormed_movies rfl (by decide) (by decide)
          publishMovies_gives pullMovies_gives viewMovies_gives (by decide) served succeeds
      obtain ⟨⟨pulled, last, pull, -, pulledPage⟩, viewed, end_, view, -, viewedPage⟩ :=
        pages after (.refl after)
      have window : givenWindow (some "2") (some "1") = { limit := 2, offset := 1 } := by decide
      have stored : ∀ version ∈ (after.state.store.versions Store.movies).map Snapshot.version,
          version.Representable := List.forall_mem_map.mpr readable
      have items : ∀ version ∈ (givenWindow (some "2") (some "1")).slice
          ((after.state.store.versions Store.movies).map Snapshot.version),
          version.Representable := fun version inside =>
        stored version (List.mem_of_mem_drop (List.mem_of_mem_take inside))
      refine ⟨response, after, pagination, _, rfl, succeeds, ?_,
        ⟨pulled, last, pull, pulledPage.read (List.forall_mem_map.mpr fun version inside => ?_)⟩,
        viewed, end_, view, viewedPage.read items⟩
      · rw [window, Window.slice, List.length_take, List.length_drop, List.length_map]
        exact congrArg (fun length => min 2 (length - 1)) count
      · exact ⟨(items version inside).dated, (items version inside).rows,
          (items version inside).size⟩

end demonstration

end DatasetService.Http
