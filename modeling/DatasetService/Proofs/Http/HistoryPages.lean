import DatasetService.Proofs.Http.Paging

set_option autoImplicit false

/- Pages of histories. A page is a window onto the history that answers its request; the links of a
page name the dataset alone, so that they lead through the history that answers the plain
request. -/
namespace DatasetService.Http

open DatasetService.Action

def historyBase (reference : Reference) : String := "/history/" ++ reference.slug

/-- Histories, as a server sends them in pages. -/
def histories : Paged where
  route := .history
  operation := .history
  shape := .log
  handle := Server.history
  list := LogParams.list
  base params := historyBase params.reference
  source := History.source

/-- The request for the page after a window onto a history. -/
def historyLink (params : LogParams) : Request :=
  .following (pageUrl (historyBase params.reference)
    (.numbered params.list.limit (params.list.offset / params.list.limit + 1) none))

theorem bounded_of_bindRequest_log {request : Request} {captured : Option (List Char)}
    {maxBytes : Nat} {params : LogParams}
    (bound : bindRequest .log maxBytes request captured = .ok params) :
    params.Bounded ∧ params.reference.WellFormed ∧ params.reference.hasName = true := by
  obtain ⟨_, -, bound⟩ := exists_of_bind_eq_ok bound
  obtain ⟨_, -, bound⟩ := exists_of_bind_eq_ok bound
  exact LogParams.bounded_of_bind bound

variable {server : Server Node} {clock : Nat → Instant} {world : World Node}

theorem ends_history (stored : server.backend = Node.backend clock) (scope : Scope)
    {params : LogParams} (bounded : params.list.Bounded) :
    (server.history scope params).Ends world
      (fun response after => scope.stopped? world.clock = none ∧ world.Same after ∧
        ∃ items, History.source world.state.store server.remotes params = .ok items ∧
          response = histories.answer world.state.store server.remotes params)
      (scope.Fails world (History.source world.state.store server.remotes params)) := by
  unfold Server.history
  rw [Server.call_log, stored]
  refine ends_bind (ends_bind (History.ends_resolve.mono ?_ fun _ _ fails => fails))
  rintro resolution after ⟨goesOn, same, checked, answered⟩
  obtain ⟨items, source, cut⟩ := answered.cut bounded checked
  refine ends_pure (ends_pure ⟨goesOn, same, items, source, ?_⟩)
  have answer : histories.answer world.state.store server.remotes params =
      Server.versionPage (historyBase params.reference) params.list.page
        (params.list.window.slice items) := Paged.answer_of_ok source
  rw [answer, ← cut.items, ← cut.page]
  rfl

theorem histories_lawful (stored : server.backend = Node.backend clock) :
    histories.Lawful server where
  read := by
    have read : Access.classify Route.history.pattern = .read := by decide
    simp [histories, Access.check, read]
  get := by decide
  run _ _ _ := rfl
  bounded _ _ _ bound := (bounded_of_bindRequest_log bound).1.window
  handles scope _ _ bounded := ends_history stored scope bounded

section links

variable {reference : Reference} (wellFormed : reference.WellFormed)
  (named : reference.hasName = true) {limit : Nat} (positive : 0 < limit)
  (limitFits : limit ≤ maxInt)
include wellFormed named positive limitFits

/-- The address of a page of a history is bound to its dataset and its window. -/
theorem bindRequest_historyLink {index : Nat} (within : index * limit ≤ maxInt) (maxBytes : Nat) :
    let request := Request.following
      (pageUrl (historyBase reference) (.numbered limit index none))
    Route.ofPath? request.at.path = some (.history, some reference.slug.toList) ∧
      bindRequest .log maxBytes request (some reference.slug.toList) =
        .ok { reference := reference.dataset, list := { limit, offset := index * limit } } := by
  have written : (historyBase reference).toList = "/history/".toList ++ reference.slug.toList := by
    rw [historyBase, String.toList_append]
  have rooted : (historyBase reference).toList =
      '/' :: ("history/".toList ++ reference.slug.toList) := by
    rw [written]
    rfl
  have plain : '?' ∉ (historyBase reference).toList ∧ '#' ∉ (historyBase reference).toList := by
    have query : '?' ∉ reference.slug.toList :=
      wellFormed.not_mem_slug named (by decide) (by decide)
    have fragment : '#' ∉ reference.slug.toList :=
      wellFormed.not_mem_slug named (by decide) (by decide)
    rw [written, List.mem_append, List.mem_append]
    exact ⟨by simpa using query, by simpa using fragment⟩
  constructor
  · rw [at_following _ rooted plain, written]
    exact ofPath?_history (wellFormed.slug_ne_nil named)
  · have bounded : (PageToken.numbered limit index none).Bounded := ⟨positive, limitFits, within⟩
    rw [bindRequest_following _ rooted plain .log maxBytes (decodeReference_slug wellFormed named)]
    exact PageToken.bind_log bounded wellFormed named

/-- The link of a page asks for a window onto the history of the dataset. -/
theorem asks_historyLink (server : Server Node) {index : Nat} (within : index * limit ≤ maxInt) :
    server.Asks (.following (pageUrl (historyBase reference) (.numbered limit index none)))
      .history .log
      { reference := reference.dataset, list := { limit, offset := index * limit } } where
  get := rfl
  small := rfl
  bound := ⟨_, bindRequest_historyLink wellFormed named positive limitFits within _⟩

/-- The links of a history are served from the history that answers the plain request. -/
theorem serves_history (stored : server.backend = Node.backend clock)
    (running : server.Running world) {items : List Version} (fits : items.length ≤ maxInt)
    (source : History.source world.state.store server.remotes { reference := reference.dataset } =
      .ok items) :
    server.Serves world (historyBase reference) limit none items := by
  let page (index : Nat) : LogParams :=
    { reference := reference.dataset, list := { limit, offset := index * limit } }
  have found (index : Nat) :
      histories.source world.state.store server.remotes (page index) = .ok items :=
    (History.source_congr _ _ { reference := reference.dataset } (page index).list).trans source
  exact (histories_lawful stored).serves_of_links running fits positive page (fun _ => rfl)
    (fun _ => ⟨rfl, rfl, rfl⟩)
    (fun _ within => asks_historyLink wellFormed named positive limitFits server within) found

end links

/-- The plain request is that for the dataset, whatever its window is. -/
theorem source_dataset (params : LogParams) :
    History.source world.state.store server.remotes { reference := params.reference.dataset } =
      History.source world.state.store server.remotes params.plain :=
  (History.source_congr _ _ { reference := params.reference.dataset } params.list).symm

section walks

variable {after : World Node} {request : Request} {params : LogParams} {items : List Version}
  (stored : server.backend = Node.backend clock)
  (asks : server.Asks request .history .log params) (running : server.Running world)
  (fits : items.length ≤ maxInt)
include stored asks running fits

/-- Where the plain request fails, the link of a full window fails alike. -/
theorem run_historyLink_of_error (same : world.Same after)
    (full : params.list.limit ≤ (params.list.window.slice items).length) {error : ApiError}
    (fails : History.source world.state.store server.remotes params.plain = .error error) :
    ∃ last, (server.serve (historyLink params)).run after =
      (some (server.present (historyLink params) (Response.ofError error)), last) := by
  obtain ⟨captured, path, bound⟩ := asks.bound
  obtain ⟨⟨window, -⟩, wellFormed, named⟩ := bounded_of_bindRequest_log bound
  have within : (params.list.offset / params.list.limit + 1) * params.list.limit ≤ maxInt :=
    Nat.le_trans (params.list.window.next_le_of_full items window.positive full) fits
  let next : LogParams :=
    { reference := params.reference.dataset
      list :=
        { limit := params.list.limit
          offset := (params.list.offset / params.list.limit + 1) * params.list.limit } }
  have asksNext : server.Asks (historyLink params) histories.route histories.shape next :=
    asks_historyLink wellFormed named window.positive window.limitFits server within
  have nextFails : History.source after.state.store server.remotes next = .error error := by
    rw [same.state]
    exact (History.source_congr _ _ params.plain next.list).trans fails
  have answer : histories.answer after.state.store server.remotes next =
      Response.ofError error := Paged.answer_of_error nextFails
  obtain ⟨last, -, served⟩ := (histories_lawful stored).run_of_asks asksNext (running.same same)
  rw [answer] at served
  exact ⟨last, served⟩

/-- A walk from a window onto one history goes on through the history of the plain request. -/
theorem walk_of_history
    (source : History.source world.state.store server.remotes params = .ok items)
    {plain : List Version} (plainFits : plain.length ≤ maxInt)
    (plainSource : History.source world.state.store server.remotes params.plain = .ok plain) :
    ∃ pages last, Walk server world request (params.list.window.slice items :: pages) last ∧
      pages.flatten =
        if params.list.limit ≤ (params.list.window.slice items).length then
          plain.drop ((params.list.offset / params.list.limit + 1) * params.list.limit)
        else [] := by
  obtain ⟨captured, path, bound⟩ := asks.bound
  obtain ⟨⟨window, unordered⟩, wellFormed, named⟩ := bounded_of_bindRequest_log bound
  have serves := serves_history wellFormed named window.positive window.limitFits stored running
    plainFits ((source_dataset params).trans plainSource)
  rw [← unordered] at serves
  exact (histories_lawful stored).walk_of_asks asks running fits source plainFits serves

end walks

/-- A request for a history that succeeds is answered with a window onto its source, whatever the
limit is. The links of it lead through the history that answers the plain request for the dataset,
from the next multiple of the limit on. That is the rest of the source if no version is asked for,
and no remote that is not asked anyhow. -/
theorem history_links_lead_to_plain_history (settings : Settings) (clock : Nat → Instant)
    (now : Instant) (shutdownAt : Option Nat) (world after : World Node) (request : Request)
    (response : Response) (captured : Option (List Char)) (get : request.method = "GET")
    (path : Route.ofPath? request.at.path = some (.history, captured))
    (served : ((Server.ofNode settings clock now shutdownAt).serve request).run world =
      (some response, after))
    (succeeds : response.status = 200)
    (counted : world.state.store.Counted) :
    let server := Server.ofNode settings clock now shutdownAt
    let source := History.source world.state.store server.remotes
    ∃ params items,
      server.Asks request .history .log params ∧ source params = .ok items ∧
      (∀ whole limit,
        server.Asks whole .history .log { params with list := { params.list with limit } } →
        items.length ≤ params.list.offset + limit →
        ∃ answer last next, (server.serve whole).run world = (some answer, last) ∧
          answer.Shows (items.drop params.list.offset) next) ∧
      (∀ plain, source params.plain = .ok plain →
        ∃ pages last, Walk server world request (params.list.window.slice items :: pages) last ∧
          pages.flatten =
            if params.list.limit ≤ (params.list.window.slice items).length then
              plain.drop ((params.list.offset / params.list.limit + 1) * params.list.limit)
            else []) ∧
      (∀ error, source params.plain = .error error →
        params.list.limit ≤ (params.list.window.slice items).length →
        ∃ last, (server.serve (historyLink params)).run after =
          (some (server.present (historyLink params) (Response.ofError error)), last)) ∧
      (params.list.limit ∣ params.list.offset → params.reference.path = none →
        params.pull = false → History.Agreeing world.state.store server.remotes params →
        ∃ pages last, Walk server world request pages last ∧
          pages.flatten = items.drop params.list.offset) := by
  intro server source
  have stored : server.backend = Node.backend clock := rfl
  have lawful := histories_lawful stored
  obtain ⟨params, items, asks, running, same, found⟩ :=
    lawful.asks_of_succeeds get path served succeeds
  have fits := History.length_le_of_source counted found
  refine ⟨params, items, asks, found, fun whole limit asksWhole room => ?_,
    fun plain plainFound => ?_, fun error fails full => ?_,
    fun aligned latest unpulled agreeing => ?_⟩
  · let larger : LogParams := { params with list := { params.list with limit } }
    have asksLarger : server.Asks whole histories.route histories.shape larger := asksWhole
    have largerFound : histories.source world.state.store server.remotes larger = .ok items :=
      (History.source_congr _ _ params larger.list).trans found
    obtain ⟨answer, last, next, servedWhole, shows⟩ :=
      lawful.shows_rest asksLarger running fits largerFound room
    exact ⟨answer, last, next, servedWhole, shows⟩
  · exact walk_of_history stored asks running fits found
      (History.length_le_of_source counted plainFound) plainFound
  · exact run_historyLink_of_error stored asks running fits same full fails
  · obtain ⟨pages, last, walk, flat⟩ := walk_of_history stored asks running fits found fits
      (History.source_plain latest unpulled agreeing found)
    refine ⟨_, last, walk, ?_⟩
    rw [List.flatten_cons, flat, Nat.add_mul, Nat.one_mul, Nat.div_mul_cancel aligned]
    exact params.list.window.slice_append_rest items

section demonstration

open DatasetService.Store

def demonstrationWorld : World Node := { state := { store := demonstration.store } }

/-- The history of the dataset that only remotes hold. The archive has the latest of it. -/
def censusHistory : List Version :=
  (List.range 30).map fun age => censusVersion (secondsClock (filmCount + age)) age

def censusReference : Reference := { username := "registry_peer", name := "census" }

def censusInTwos : Request := .following "/history/registry_peer/census?limit=2"

def censusOfArchiveInTwos : Request :=
  .following "/history/registry_peer/census?remote=archive&limit=2"

def censusOfArchive : Request := .following "/history/registry_peer/census?remote=archive"

theorem asks_censusInTwos : demonstrationServer.Asks censusInTwos .history .log
    { reference := censusReference, list := { limit := 2 } } where
  get := rfl
  small := rfl
  bound := ⟨some "registry_peer/census".toList, by decide, rfl⟩

theorem asks_censusOfArchiveInTwos : demonstrationServer.Asks censusOfArchiveInTwos .history .log
    { reference := censusReference, list := { limit := 2 }, remote := some "archive" } where
  get := rfl
  small := rfl
  bound := ⟨some "registry_peer/census".toList, by decide, rfl⟩

theorem asks_censusOfArchive : demonstrationServer.Asks censusOfArchive .history .log
    { reference := censusReference, remote := some "archive" } where
  get := rfl
  small := rfl
  bound := ⟨some "registry_peer/census".toList, by decide, rfl⟩

theorem counted_demonstration : demonstration.store.Counted where
  here := by decide
  there := by decide

theorem running_demonstration : demonstrationServer.Running demonstrationWorld := rfl

theorem source_census :
    History.source demonstration.store {} { reference := censusReference } =
      .ok censusHistory := rfl

theorem source_censusOfArchive :
    History.source demonstration.store {}
        { reference := censusReference, remote := some "archive" } =
      .ok (censusHistory.take 3) := rfl

theorem census_links_lead_through :
    demonstration.store.Counted ∧ ∃ response after,
      (demonstrationServer.serve censusInTwos).run demonstrationWorld = (some response, after) ∧
        response.status = 200 ∧ ∃ pages last,
          Walk demonstrationServer demonstrationWorld censusInTwos pages last ∧
            pages.flatten = censusHistory := by
  obtain ⟨response, after, served, -, shows⟩ :=
    (histories_lawful rfl).shows_of_asks asks_censusInTwos running_demonstration
      (History.length_le_of_source counted_demonstration source_census) source_census
  obtain ⟨captured, path, bound⟩ := asks_censusInTwos.bound
  obtain ⟨params, items, asks, found, -, -, -, walks⟩ :=
    history_links_lead_to_plain_history {} secondsClock { seconds := 0 } none demonstrationWorld
      after censusInTwos response captured rfl path served shows.status counted_demonstration
  obtain ⟨other, otherPath, otherBound⟩ := asks.bound
  cases path.symm.trans otherPath
  cases bound.symm.trans otherBound
  cases source_census.symm.trans found
  obtain ⟨pages, last, walk, flat⟩ := walks (Nat.dvd_zero 2) rfl rfl (.inl rfl)
  exact ⟨counted_demonstration, response, after, served, shows.status, pages, last, walk, flat⟩

/-- The archive has three versions, which fit on one page. -/
theorem shows_censusOfArchive : ∃ response after,
    (demonstrationServer.serve censusOfArchive).run demonstrationWorld = (some response, after) ∧
      response.Shows (censusHistory.take 3) none := by
  have fits := History.length_le_of_source counted_demonstration source_censusOfArchive
  obtain ⟨response, after, served, -, shows⟩ :=
    (histories_lawful rfl).shows_of_asks asks_censusOfArchive running_demonstration fits
      source_censusOfArchive
  exact ⟨response, after, served, shows⟩

/-- The links of a page of them lead through the thirty versions of the registry. -/
theorem walk_censusOfArchiveInTwos : ∃ pages last,
    Walk demonstrationServer demonstrationWorld censusOfArchiveInTwos pages last ∧
      pages.flatten = censusHistory := by
  have fits := History.length_le_of_source counted_demonstration source_censusOfArchive
  obtain ⟨pages, last, walk, flat⟩ :=
    walk_of_history rfl asks_censusOfArchiveInTwos running_demonstration fits
      source_censusOfArchive
      (History.length_le_of_source counted_demonstration source_census) source_census
  exact ⟨_, last, walk, by rw [List.flatten_cons, flat]; rfl⟩

theorem representable_census : ∀ version ∈ censusHistory, version.Representable := by
  decide +kernel

/-- So links need not lead through the list that a request with room for all of it is shown. -/
theorem archive_links_lead_elsewhere :
    ¬ ∀ (world after : World Node) (request whole : Request) (response : Response)
      (params : LogParams) (limit : Nat) (items : List Version),
      demonstrationServer.Asks request .history .log params →
      params.list.limit ∣ params.list.offset →
      demonstrationServer.Asks whole .history .log
        { params with list := { params.list with limit } } →
      (demonstrationServer.serve whole).run world = (some response, after) →
      response.Shows items none →
      ∃ pages last, Walk demonstrationServer world request pages last ∧
        pages.flatten = items := by
  intro through
  obtain ⟨response, after, served, shows⟩ := shows_censusOfArchive
  obtain ⟨pages, last, walk, flat⟩ := through _ _ _ _ _ _ 25 _ asks_censusOfArchiveInTwos
    (Nat.dvd_zero 2) asks_censusOfArchive served shows
  obtain ⟨others, end_, otherWalk, otherFlat⟩ := walk_censusOfArchiveInTwos
  have readable : ∀ version ∈ pages.flatten, version.Representable := fun version inside =>
    representable_census version (List.mem_of_mem_take (flat ▸ inside))
  obtain ⟨rfl, -⟩ := walk.unique otherWalk readable fun version inside =>
    representable_census version (otherFlat ▸ inside)
  have lengths := congrArg List.length (flat.symm.trans otherFlat)
  exact absurd lengths (by decide)

end demonstration

end DatasetService.Http
