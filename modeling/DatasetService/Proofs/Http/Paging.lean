import DatasetService.Proofs.Http.Effect
import DatasetService.Proofs.Http.Link
import DatasetService.Proofs.Http.PageBody
import DatasetService.Proofs.History.Source

set_option autoImplicit false

/- Walks along the links of pages. A list that is served page by page is walked through to its end,
as long as each page is served from the same list. -/
namespace DatasetService.Http

open DatasetService.Action

/-- A response is a page: it is the document of versions and their pagination, and a client who
reads it has them, as long as the counts and the times of the versions can be held. -/
structure Response.IsPage (response : Response) (items : List Version) (pagination : Pagination) :
    Prop where
  status : response.status = 200
  body : response.body =
    .bytes (Text.bytesOf (Envelope.ofPage items pagination).encode.compact)
  read : (∀ item ∈ items, item.Representable) → response.page? = some (items, pagination)

/-- A page of versions, with the address of the page after it if there is one. -/
def Response.Shows (response : Response) (items : List Version) (next : Option String) : Prop :=
  ∃ pagination : Pagination, pagination.nextUrl = next ∧ response.IsPage items pagination

theorem Response.IsPage.shows {response : Response} {items : List Version} {pagination : Pagination}
    (page : response.IsPage items pagination) : response.Shows items pagination.nextUrl :=
  ⟨pagination, rfl, page⟩

theorem Response.Shows.status {response : Response} {items : List Version} {next : Option String}
    (shows : response.Shows items next) : response.status = 200 := by
  obtain ⟨pagination, -, page⟩ := shows
  exact page.status

/-- What a response shows is what a client reads of it. -/
theorem Response.Shows.unique {response : Response} {items others : List Version}
    {next after : Option String} (shows : response.Shows items next)
    (again : response.Shows others after) (all : ∀ item ∈ items, item.Representable)
    (allOthers : ∀ item ∈ others, item.Representable) : items = others ∧ next = after := by
  obtain ⟨pagination, rfl, page⟩ := shows
  obtain ⟨otherPagination, rfl, otherPage⟩ := again
  obtain ⟨rfl, rfl⟩ :=
    Prod.mk.inj (Option.some.inj ((page.read all).symm.trans (otherPage.read allOthers)))
  exact ⟨rfl, rfl⟩

/-- A request for a page, and then for the page of its link as long as it has one. -/
inductive Walk (server : Server Node) : World Node → Request → List (List Version) →
    World Node → Prop
  | last {world after : World Node} {request : Request} {response : Response}
      {items : List Version}
      (served : (server.serve request).run world = (some response, after))
      (shows : response.Shows items none) : Walk server world request [items] after
  | next {world middle after : World Node} {request : Request} {response : Response}
      {items : List Version} {url : String} {pages : List (List Version)}
      (served : (server.serve request).run world = (some response, middle))
      (shows : response.Shows items (some url))
      (rest : Walk server middle (.following url) pages after) :
      Walk server world request (items :: pages) after

/-- A walk begins with the page of its request, and goes on if there is a link. -/
theorem Walk.begins {server : Server Node} {world last : World Node} {request : Request}
    {pages : List (List Version)} (walk : Walk server world request pages last) :
    ∃ response middle items rest next,
      (server.serve request).run world = (some response, middle) ∧ response.Shows items next ∧
        pages = items :: rest ∧
        match next with
        | none => rest = [] ∧ last = middle
        | some url => Walk server middle (.following url) rest last := by
  cases walk with
  | last served shows => exact ⟨_, _, _, [], none, served, shows, rfl, rfl, rfl⟩
  | next served shows rest => exact ⟨_, _, _, _, some _, served, shows, rfl, rest⟩

/-- There is one walk from a request, for a client who can read its pages. -/
theorem Walk.unique {server : Server Node} {world last other : World Node} {request : Request}
    {pages others : List (List Version)} (walk : Walk server world request pages last)
    (again : Walk server world request others other)
    (all : ∀ version ∈ pages.flatten, version.Representable)
    (allOthers : ∀ version ∈ others.flatten, version.Representable) :
    pages = others ∧ last = other := by
  induction walk generalizing others with
  | last served shows =>
      obtain ⟨_, _, _, _, _, servedAgain, showsAgain, rfl, onward⟩ := again.begins
      cases served.symm.trans servedAgain
      obtain ⟨rfl, rfl⟩ := shows.unique showsAgain
        (fun item inside => all item (List.mem_append_left _ inside))
        fun item inside => allOthers item (List.mem_append_left _ inside)
      obtain ⟨rfl, rfl⟩ := onward
      exact ⟨rfl, rfl⟩
  | next served shows rest ih =>
      obtain ⟨_, _, _, _, _, servedAgain, showsAgain, rfl, onward⟩ := again.begins
      cases served.symm.trans servedAgain
      obtain ⟨rfl, rfl⟩ := shows.unique showsAgain
        (fun item inside => all item (List.mem_append_left _ inside))
        fun item inside => allOthers item (List.mem_append_left _ inside)
      obtain ⟨rfl, rfl⟩ := ih onward
        (fun version inside => all version (List.mem_append_right _ inside))
        fun version inside => allOthers version (List.mem_append_right _ inside)
      exact ⟨rfl, rfl⟩

namespace Server

/-- A request that a route takes, with the parameters that it binds. -/
structure Asks (server : Server Node) (request : Request) (route : Route) (shape : ParamShape)
    (params : shape.Params) : Prop where
  get : request.method = "GET"
  small : server.declaresTooMuch request = false
  bound : ∃ captured, Route.ofPath? request.at.path = some (route, captured) ∧
    bindRequest shape server.settings.maxUploadBytes request captured = .ok params

/-- The link of a window, if it is full. -/
def linkAfter (base : String) (limit index : Nat) (orderBy : Option String)
    (items : List Version) : Option String :=
  if limit ≤ items.length then some (pageUrl base (.numbered limit (index + 1) orderBy)) else none

/-- Every page of a list is served, as its window and with its link, whatever was called before. -/
def Serves (server : Server Node) (world : World Node) (base : String) (limit : Nat)
    (orderBy : Option String) (items : List Version) : Prop :=
  ∀ index current, index * limit ≤ maxInt → world.Same current →
    ∃ response after,
      (server.serve (.following (pageUrl base (.numbered limit index orderBy)))).run current =
        (some response, after) ∧
      world.Same after ∧
      response.Shows (({ limit, offset := index * limit } : Window).slice items)
        (linkAfter base limit index orderBy
          (({ limit, offset := index * limit } : Window).slice items))

variable {server : Server Node} {world : World Node} {base : String} {limit : Nat}
  {orderBy : Option String} {items : List Version}

/-- From one page on, the links lead through all the rest of the list. -/
theorem walk_of_serves (positive : 0 < limit) (fits : items.length ≤ maxInt)
    (serves : server.Serves world base limit orderBy items) (index : Nat) (current : World Node)
    (within : index * limit ≤ maxInt) (same : world.Same current) :
    ∃ pages last, Walk server current (.following (pageUrl base (.numbered limit index orderBy)))
      pages last ∧ world.Same last ∧ pages.flatten = items.drop (index * limit) := by
  induction left : items.length - index * limit using Nat.strong_induction_on
    generalizing index current with
  | _ left ih =>
      obtain ⟨response, after, served, later, shows⟩ := serves index current within same
      generalize window : ({ limit, offset := index * limit } : Window) = cut at shows
      have cutLimit : cut.limit = limit := by rw [← window]
      have cutOffset : cut.offset = index * limit := by rw [← window]
      by_cases full : limit ≤ (cut.slice items).length
      · rw [linkAfter, if_pos full] at shows
        have goesOn : index * limit + limit ≤ items.length := by
          have inside := (cut.slice_full_iff items (by omega)).mp (by omega)
          omega
        have next : (index + 1) * limit = index * limit + limit := by
          rw [Nat.add_mul, Nat.one_mul]
        obtain ⟨pages, last, walk, end_, flat⟩ :=
          ih (items.length - (index + 1) * limit) (by omega) (index + 1) after (by omega) later rfl
        refine ⟨_, last, .next served shows walk, end_, ?_⟩
        rw [List.flatten_cons, flat, next, ← cutOffset, ← cutLimit, Window.slice_append_drop]
      · rw [linkAfter, if_neg full] at shows
        refine ⟨_, after, .last served shows, later, ?_⟩
        have rest := Window.slice_of_not_full (by omega : ¬ cut.limit ≤ (cut.slice items).length)
        simp only [List.flatten_cons, List.flatten_nil, List.append_nil, rest, cutOffset]

/-- A page as it is presented to a client who reads bodies. -/
theorem isPage_versionPage (server : Server Node) {request : Request}
    (reads : request.asksForHead = false) (base : String) {page : PageToken}
    (counted : page.Representable) (items : List Version) :
    (server.present request (versionPage base page items)).IsPage items
      (Pagination.of base page items.length) := by
  have body : (server.present request (versionPage base page items)).body =
      .bytes (Text.bytesOf
        (Envelope.ofPage items (Pagination.of base page items.length)).encode.compact) := by
    simp only [present, reads, Bool.false_eq_true, if_false]
    rfl
  exact ⟨rfl, body, fun all => Response.page?_of_body body all (counted.pagination base _)⟩

theorem shows_versionPage (server : Server Node) {request : Request}
    (reads : request.asksForHead = false) (base : String) {page : PageToken}
    (counted : page.Representable) (items : List Version) :
    (server.present request (versionPage base page items)).Shows items
      (if page.limit ≤ items.length then some (pageUrl base page.next) else none) :=
  (isPage_versionPage server reads base counted items).shows

/-- The first page of a walk may start anywhere. The pages after it start at multiples of its
limit. -/
theorem shows_window (server : Server Node) {request : Request}
    (reads : request.asksForHead = false) (base : String) {params : ListParams}
    (bounded : params.Bounded) {items : List Version} (fits : items.length ≤ maxInt) :
    (server.present request
        (versionPage base params.page (params.window.slice items))).Shows
      (params.window.slice items)
      (linkAfter base params.limit (params.offset / params.limit) params.orderBy
        (params.window.slice items)) := by
  have page : params.page = .numbered params.limit (params.offset / params.limit) params.orderBy :=
    PageToken.withOrder_ofWindow params.orderBy bounded.positive bounded.limitFits
      bounded.offsetFits
  have shows := shows_versionPage server reads base params.representable_page
    (params.window.slice items)
  have size : params.page.limit = params.limit := by rw [page]; rfl
  rw [size] at shows
  unfold linkAfter
  by_cases full : params.limit ≤ (params.window.slice items).length
  · have nextFits : (params.offset / params.limit + 1) * params.limit ≤ maxInt :=
      Nat.le_trans (params.window.next_le_of_full items bounded.positive full) fits
    have next : params.page.next =
        .numbered params.limit (params.offset / params.limit + 1) params.orderBy := by
      rw [page, PageToken.next_numbered _ bounded.positive bounded.limitFits nextFits]
    rw [if_pos full, next] at shows
    rwa [if_pos full]
  · rw [if_neg full] at shows
    rwa [if_neg full]

/-- The scope of a request that comes now. -/
def scopeIn (server : Server Node) (world : World Node) : Scope :=
  .starting world.clock server.shutdownAt server.settings.requestTimeout

/-- Nothing stops a request that comes now. -/
def Running (server : Server Node) (world : World Node) : Prop :=
  (server.scopeIn world).stopped? world.clock = none

theorem Running.at_clock {after : World Node} (running : server.Running world)
    (clock : after.clock = world.clock) : server.Running after := by
  unfold Running scopeIn at running ⊢
  rw [clock]
  exact running

theorem Running.same {after : World Node} (running : server.Running world)
    (same : world.Same after) : server.Running after :=
  running.at_clock same.clock

end Server

/-- Lists that a server sends in pages: where they are asked for, what handles the request, and
which list it is that a window is cut out of. -/
structure Paged where
  route : Route
  operation : Operation
  shape : ParamShape
  handle : Server Node → Scope → shape.Params → Action Node Response
  list : shape.Params → ListParams
  base : shape.Params → String
  source : Store → History.Remotes → shape.Params → Except ApiError (List Version)

namespace Paged

/-- What is answered as long as nothing stops a request: a window onto the list, or its failure. -/
def answer (paged : Paged) (store : Store) (remotes : History.Remotes)
    (params : paged.shape.Params) : Response :=
  match paged.source store remotes params with
  | .ok items =>
      Server.versionPage (paged.base params) (paged.list params).page
        ((paged.list params).window.slice items)
  | .error error => Response.ofError error

section answers

variable {paged : Paged} {store : Store} {remotes : History.Remotes} {params : paged.shape.Params}

theorem answer_of_ok {items : List Version}
    (source : paged.source store remotes params = .ok items) :
    paged.answer store remotes params =
      Server.versionPage (paged.base params) (paged.list params).page
        ((paged.list params).window.slice items) := by
  rw [answer, source]

theorem answer_of_error {error : ApiError}
    (source : paged.source store remotes params = .error error) :
    paged.answer store remotes params = Response.ofError error := by
  rw [answer, source]

end answers

/-- A server handles requests for a list as it is meant to. -/
structure Lawful (paged : Paged) (server : Server Node) : Prop where
  read : Access.check server.settings.readOnly paged.route.pattern = .ok ()
  get : paged.route.operation? "GET" = some paged.operation
  run : ∀ scope request captured, server.run scope request captured paged.operation =
    server.bound paged.shape request captured >>= paged.handle server scope
  bounded : ∀ request captured params,
    bindRequest paged.shape server.settings.maxUploadBytes request captured = .ok params →
      (paged.list params).Bounded
  handles : ∀ scope world params, (paged.list params).Bounded →
    (paged.handle server scope params).Ends world
      (fun response after => scope.stopped? world.clock = none ∧ world.Same after ∧
        ∃ items, paged.source world.state.store server.remotes params = .ok items ∧
          response = paged.answer world.state.store server.remotes params)
      (scope.Fails world (paged.source world.state.store server.remotes params))

/-- What comes of a request for a list: a page of it, or a failure. -/
inductive Outcome (paged : Paged) (server : Server Node) (world : World Node) (request : Request)
    (captured : Option (List Char)) : Response → World Node → Prop
  | page {params : paged.shape.Params} {items : List Version} {after : World Node}
      (bound : bindRequest paged.shape server.settings.maxUploadBytes request captured =
        .ok params)
      (running : server.Running world)
      (source : paged.source world.state.store server.remotes params = .ok items)
      (same : world.Same after) :
      Outcome paged server world request captured
        (paged.answer world.state.store server.remotes params) after
  | failed {error : ApiError} {after : World Node} (same : world.Same after)
      (cause : ∀ params,
        bindRequest paged.shape server.settings.maxUploadBytes request captured = .ok params →
        server.Running world →
        paged.source world.state.store server.remotes params = .error error) :
      Outcome paged server world request captured (Response.ofError error) after

section outcomes

variable {paged : Paged} {server : Server Node} {world : World Node}

theorem Lawful.ends_run (lawful : paged.Lawful server) (request : Request)
    (captured : Option (List Char)) :
    (server.run (server.scopeIn world) request captured paged.operation).Ends world
      (Outcome paged server world request captured)
      (fun error => Outcome paged server world request captured (Response.ofError error)) := by
  rw [lawful.run]
  refine ends_bind (ends_ofExcept ?_ ?_)
  · intro params bound
    refine (lawful.handles _ world params (lawful.bounded _ _ _ bound)).mono ?_ ?_
    · rintro response after ⟨running, same, items, source, rfl⟩
      exact .page bound running source same
    · rintro error after ⟨same, fails⟩
      refine .failed same fun other otherBound running => ?_
      cases bound.symm.trans otherBound
      exact fails running
  · intro error unbound
    refine .failed (.refl world) fun params bound => ?_
    cases unbound.symm.trans bound

theorem Lawful.run_serve (lawful : paged.Lawful server) (world : World Node) {request : Request}
    {captured : Option (List Char)} (get : request.method = "GET")
    (path : Route.ofPath? request.at.path = some (paged.route, captured))
    (small : server.declaresTooMuch request = false) :
    ∃ response after,
      (server.serve request).run world = (some (server.present request response), after) ∧
        Outcome paged server world request captured response after := by
  have found : request.handler? = some (paged.route, captured, paged.operation) := by
    simp [Request.handler?, path, get, lawful.get]
  obtain ⟨response, after, ran, outcome⟩ :=
    Server.run_answer_of_ends lawful.read (lawful.ends_run request captured)
  refine ⟨response, after, Server.run_serve_of_dispatch small ?_, outcome⟩
  rw [Server.dispatch_of_handler found]
  exact ran

variable {request : Request} {params : paged.shape.Params}

/-- A request that succeeds has bound its parameters and is answered with a page. -/
theorem Lawful.asks_of_succeeds (lawful : paged.Lawful server) {captured : Option (List Char)}
    {response : Response} {after : World Node} (get : request.method = "GET")
    (path : Route.ofPath? request.at.path = some (paged.route, captured))
    (served : (server.serve request).run world = (some response, after))
    (succeeds : response.status = 200) :
    ∃ params items, server.Asks request paged.route paged.shape params ∧
      server.Running world ∧ world.Same after ∧
      paged.source world.state.store server.remotes params = .ok items := by
  cases large : server.declaresTooMuch request with
  | true =>
      rw [Server.run_serve_of_large large] at served
      cases served
      cases succeeds
  | false =>
      obtain ⟨answer, last, ran, outcome⟩ := lawful.run_serve world get path large
      cases ran.symm.trans served
      cases outcome with
      | page bound running source same =>
          exact ⟨_, _, ⟨get, large, _, path, bound⟩, running, same, source⟩
      | @failed error _ same cause => exact absurd succeeds (Server.ofError_ne_ok error)

theorem Lawful.run_of_asks (lawful : paged.Lawful server)
    (asks : server.Asks request paged.route paged.shape params) (running : server.Running world) :
    ∃ after, world.Same after ∧ (server.serve request).run world =
      (some (server.present request (paged.answer world.state.store server.remotes params)),
        after) := by
  obtain ⟨captured, path, bound⟩ := asks.bound
  obtain ⟨response, after, served, outcome⟩ := lawful.run_serve world asks.get path asks.small
  cases outcome with
  | page boundHere _ source same =>
      cases bound.symm.trans boundHere
      exact ⟨after, same, served⟩
  | failed same cause =>
      refine ⟨after, same, ?_⟩
      rw [served, answer_of_error (cause params bound running)]

variable {items : List Version}

/-- A list is answered with the page of its window. -/
theorem Lawful.isPage_of_asks (lawful : paged.Lawful server)
    (asks : server.Asks request paged.route paged.shape params) (running : server.Running world)
    (source : paged.source world.state.store server.remotes params = .ok items) :
    ∃ response after, (server.serve request).run world = (some response, after) ∧
      world.Same after ∧
      response.IsPage ((paged.list params).window.slice items)
        (Pagination.of (paged.base params) (paged.list params).page
          ((paged.list params).window.slice items).length) := by
  obtain ⟨after, same, served⟩ := lawful.run_of_asks asks running
  have reads : request.asksForHead = false := by simp [Request.asksForHead, asks.get]
  rw [answer_of_ok source] at served
  exact ⟨_, after, served, same,
    Server.isPage_versionPage server reads _ (ListParams.representable_page _) _⟩

/-- A page shows its window and has the link to the next one, if the window is full. -/
theorem Lawful.shows_of_asks (lawful : paged.Lawful server)
    (asks : server.Asks request paged.route paged.shape params) (running : server.Running world)
    (fits : items.length ≤ maxInt)
    (source : paged.source world.state.store server.remotes params = .ok items) :
    ∃ response after, (server.serve request).run world = (some response, after) ∧
      world.Same after ∧
      response.Shows ((paged.list params).window.slice items)
        (Server.linkAfter (paged.base params) (paged.list params).limit
          ((paged.list params).offset / (paged.list params).limit) (paged.list params).orderBy
          ((paged.list params).window.slice items)) := by
  obtain ⟨after, same, served⟩ := lawful.run_of_asks asks running
  obtain ⟨captured, path, bound⟩ := asks.bound
  have reads : request.asksForHead = false := by simp [Request.asksForHead, asks.get]
  rw [answer_of_ok source] at served
  exact ⟨_, after, served, same, Server.shows_window server reads _
    (lawful.bounded _ _ _ bound) fits⟩

/-- A request with room for all the rest of a list is shown all of it. -/
theorem Lawful.shows_rest (lawful : paged.Lawful server)
    (asks : server.Asks request paged.route paged.shape params) (running : server.Running world)
    (fits : items.length ≤ maxInt)
    (source : paged.source world.state.store server.remotes params = .ok items)
    (room : items.length ≤ (paged.list params).offset + (paged.list params).limit) :
    ∃ response after next, (server.serve request).run world = (some response, after) ∧
      response.Shows (items.drop (paged.list params).offset) next := by
  obtain ⟨response, after, served, -, shows⟩ := lawful.shows_of_asks asks running fits source
  have all : (paged.list params).window.slice items = items.drop (paged.list params).offset :=
    List.take_of_length_le (by rw [List.length_drop]; exact Nat.sub_le_iff_le_add'.mpr room)
  rw [all] at shows
  exact ⟨response, after, _, served, shows⟩

/-- The links of a list are served from it, if they ask for its windows. -/
theorem Lawful.serves_of_links (lawful : paged.Lawful server) (running : server.Running world)
    (fits : items.length ≤ maxInt) {base : String} {limit : Nat} {orderBy : Option String}
    (positive : 0 < limit) (page : Nat → paged.shape.Params)
    (based : ∀ index, paged.base (page index) = base)
    (windows : ∀ index, (paged.list (page index)).limit = limit ∧
      (paged.list (page index)).offset = index * limit ∧
      (paged.list (page index)).orderBy = orderBy)
    (asks : ∀ index, index * limit ≤ maxInt →
      server.Asks (.following (pageUrl base (.numbered limit index orderBy))) paged.route
        paged.shape (page index))
    (source : ∀ index, paged.source world.state.store server.remotes (page index) = .ok items) :
    server.Serves world base limit orderBy items := by
  intro index current within same
  have found : paged.source current.state.store server.remotes (page index) = .ok items := by
    rw [same.state]
    exact source index
  obtain ⟨response, after, served, later, shows⟩ :=
    lawful.shows_of_asks (asks index within) (running.same same) fits found
  obtain ⟨limits, offsets, orders⟩ := windows index
  have window : (paged.list (page index)).window = { limit, offset := index * limit } := by
    rw [ListParams.window, limits, offsets]
  rw [window, based, limits, offsets, orders, Nat.mul_div_cancel index positive] at shows
  exact ⟨response, after, served, same.trans later, shows⟩

/-- A walk from a window onto a list goes on through the list that its links are served from. -/
theorem Lawful.walk_of_asks (lawful : paged.Lawful server)
    (asks : server.Asks request paged.route paged.shape params) (running : server.Running world)
    (fits : items.length ≤ maxInt)
    (source : paged.source world.state.store server.remotes params = .ok items)
    {linked : List Version} (linkedFits : linked.length ≤ maxInt)
    (serves : server.Serves world (paged.base params) (paged.list params).limit
      (paged.list params).orderBy linked) :
    ∃ pages last,
      Walk server world request ((paged.list params).window.slice items :: pages) last ∧
        pages.flatten =
          if (paged.list params).limit ≤ ((paged.list params).window.slice items).length then
            linked.drop (((paged.list params).offset / (paged.list params).limit + 1) *
              (paged.list params).limit)
          else [] := by
  obtain ⟨response, after, served, same, shows⟩ := lawful.shows_of_asks asks running fits source
  obtain ⟨captured, path, bound⟩ := asks.bound
  have window := lawful.bounded _ _ _ bound
  generalize paged.list params = list at *
  by_cases full : list.limit ≤ (list.window.slice items).length
  · rw [Server.linkAfter, if_pos full] at shows
    have within : (list.offset / list.limit + 1) * list.limit ≤ maxInt :=
      Nat.le_trans (list.window.next_le_of_full items window.positive full) fits
    obtain ⟨pages, last, walk, -, flat⟩ :=
      Server.walk_of_serves window.positive linkedFits serves _ after within same
    exact ⟨pages, last, .next served shows walk, by rw [if_pos full, flat]⟩
  · rw [Server.linkAfter, if_neg full] at shows
    exact ⟨[], after, .last served shows, by rw [if_neg full]; rfl⟩

end outcomes

end Paged

/-- A server with the settings that are given by default. -/
def demonstrationServer : Server Node :=
  Server.ofNode {} Store.secondsClock { seconds := 0 } none

end DatasetService.Http
