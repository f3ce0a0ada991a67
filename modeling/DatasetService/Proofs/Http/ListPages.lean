import DatasetService.Proofs.Http.Paging

set_option autoImplicit false

/- Pages of the list of datasets. A page is a window onto the latest versions that match its
request; the links of a page keep the order and drop the filters, so that they lead through the
latest versions of all datasets. -/
namespace DatasetService.Http

open DatasetService.Action

def listBase : String := "/list"

/-- The list of datasets, as a server sends it in pages. -/
def datasets : Paged where
  route := .list
  operation := .list
  shape := .list
  handle := Server.list
  list params := params
  base _ := listBase
  source store _ params := .ok (store.sorted params)

theorem bounded_of_bindRequest_list {request : Request} {captured : Option (List Char)}
    {maxBytes : Nat} {params : ListParams}
    (bound : bindRequest .list maxBytes request captured = .ok params) :
    params.Bounded ∧ params.validate = .ok () := by
  obtain ⟨_, -, bound⟩ := exists_of_bind_eq_ok bound
  obtain ⟨_, -, bound⟩ := exists_of_bind_eq_ok bound
  exact ListParams.bounded_of_bind bound

variable {server : Server Node} {clock : Nat → Instant} {world : World Node}

theorem ends_list (stored : server.backend = Node.backend clock) (scope : Scope)
    (params : ListParams) :
    (server.list scope params).Ends world
      (fun response after => scope.stopped? world.clock = none ∧ world.Same after ∧
        ∃ items, datasets.source world.state.store server.remotes params = .ok items ∧
          response = datasets.answer world.state.store server.remotes params)
      (scope.Fails world (datasets.source world.state.store server.remotes params)) := by
  unfold Server.list
  rw [Server.call_list, stored]
  refine ends_bind (ends_bind (Node.ends_perform ?_ fun goesOn => ?_))
  · intro error stopped
    exact ⟨.refl world, fun goesOn => by rw [stopped] at goesOn; cases goesOn⟩
  · have same : world.Same (Node.called clock world (.list params)) := Node.called_same rfl
    have answer : (world.state.answer clock (.list params)).1 =
        .ok (world.state.store.list params) := rfl
    rw [answer]
    exact ends_bind (ends_pure (ends_pure ⟨goesOn, same, _, rfl, rfl⟩))

theorem datasets_lawful (stored : server.backend = Node.backend clock) :
    datasets.Lawful server where
  read := by
    have read : Access.classify Route.list.pattern = .read := by decide
    simp [datasets, Access.check, read]
  get := by decide
  run _ _ _ := rfl
  bounded _ _ _ bound := (bounded_of_bindRequest_list bound).1
  handles scope _ params _ := ends_list stored scope params

section links

variable {limit : Nat} {orderBy : Option String} (positive : 0 < limit) (limitFits : limit ≤ maxInt)
  (ordered : ∀ order ∈ orderBy, order = orderByUpdated ∨ order = orderByName)
include positive limitFits ordered

/-- The link of a page asks for a window onto the latest versions in the same order. -/
theorem asks_listLink (server : Server Node) {index : Nat} (within : index * limit ≤ maxInt) :
    server.Asks (.following (pageUrl listBase (.numbered limit index orderBy))) .list .list
      { limit, offset := index * limit, orderBy } := by
  have rooted : listBase.toList = '/' :: "list".toList := rfl
  have plain : '?' ∉ listBase.toList ∧ '#' ∉ listBase.toList := by decide
  refine ⟨rfl, rfl, none, ?_, ?_⟩
  · rw [at_following _ rooted plain]
    exact ofPath?_list
  · have bounded : (PageToken.numbered limit index orderBy).Bounded :=
      ⟨positive, limitFits, within⟩
    have unnamed : decodeReference none = .ok none := rfl
    rw [bindRequest_following _ rooted plain .list _ unnamed]
    exact PageToken.bind_list bounded ordered

/-- The links of a list are served from the latest versions of all datasets. -/
theorem serves_list (stored : server.backend = Node.backend clock)
    (running : server.Running world) (counted : world.state.store.datasets.length ≤ maxInt) :
    server.Serves world listBase limit orderBy (world.state.store.sorted { orderBy }) := by
  let page (index : Nat) : ListParams := { limit, offset := index * limit, orderBy }
  have fits : (world.state.store.sorted { orderBy }).length ≤ maxInt :=
    Nat.le_trans (Store.length_sorted_le _ _) counted
  exact (datasets_lawful stored).serves_of_links running fits positive page (fun _ => rfl)
    (fun _ => ⟨rfl, rfl, rfl⟩)
    (fun _ within => asks_listLink positive limitFits ordered server within) fun _ => rfl

end links

/-- A walk from a window onto the versions that match goes on through all latest versions. -/
theorem walk_of_list (stored : server.backend = Node.backend clock) {request : Request}
    {params : ListParams} (asks : server.Asks request .list .list params)
    (running : server.Running world) (counted : world.state.store.datasets.length ≤ maxInt) :
    ∃ pages last,
      Walk server world request
        (params.window.slice (world.state.store.sorted params) :: pages) last ∧
      pages.flatten =
        if params.limit ≤ (params.window.slice (world.state.store.sorted params)).length then
          (world.state.store.sorted params.unfiltered).drop
            ((params.offset / params.limit + 1) * params.limit)
        else [] := by
  obtain ⟨captured, path, bound⟩ := asks.bound
  obtain ⟨window, valid⟩ := bounded_of_bindRequest_list bound
  have fits (params : ListParams) : (world.state.store.sorted params).length ≤ maxInt :=
    Nat.le_trans (Store.length_sorted_le _ _) counted
  have serves := serves_list window.positive window.limitFits (ListParams.order_of_validate valid)
    stored running counted
  exact (datasets_lawful stored).walk_of_asks asks running (fits params) rfl (fits _) serves

/-- A request for a list that succeeds is answered with a window onto the versions that match, in
the order that is asked for. The links of it keep that order and drop the filters: from the next
multiple of the limit on, they lead through the latest versions of all datasets. That is the rest of
what matches if there are no links, or if everything matches. -/
theorem list_links_drop_filters (settings : Settings) (clock : Nat → Instant) (now : Instant)
    (shutdownAt : Option Nat) (world after : World Node) (request : Request) (response : Response)
    (captured : Option (List Char)) (get : request.method = "GET")
    (path : Route.ofPath? request.at.path = some (.list, captured))
    (served : ((Server.ofNode settings clock now shutdownAt).serve request).run world =
      (some response, after))
    (succeeds : response.status = 200)
    (counted : world.state.store.datasets.length ≤ maxInt) :
    let server := Server.ofNode settings clock now shutdownAt
    let store := world.state.store
    ∃ params, server.Asks request .list .list params ∧
      (store.sorted params).Perm (store.latest.filter (Store.matchesFilters params)) ∧
      (store.sorted params).Pairwise (fun left right => Store.order params left right = true) ∧
      (∃ pages last,
        Walk server world request (params.window.slice (store.sorted params) :: pages) last ∧
        pages.flatten =
          if params.limit ≤ (params.window.slice (store.sorted params)).length then
            (store.sorted params.unfiltered).drop
              ((params.offset / params.limit + 1) * params.limit)
          else []) ∧
      (params.limit ∣ params.offset →
        (params.limit ≤ (params.window.slice (store.sorted params)).length →
          ∀ version ∈ store.latest, Store.matchesFilters params version = true) →
        ∃ pages last, Walk server world request pages last ∧
          pages.flatten = (store.sorted params).drop params.offset) := by
  intro server store
  have stored : server.backend = Node.backend clock := rfl
  obtain ⟨params, asks, running⟩ :
      ∃ params : ListParams, server.Asks request .list .list params ∧ server.Running world := by
    obtain ⟨params, -, asks, running, -, -⟩ :=
      (datasets_lawful stored).asks_of_succeeds get path served succeeds
    exact ⟨params, asks, running⟩
  have walks := walk_of_list stored asks running counted
  refine ⟨params, asks, store.sorted_perm params, store.sorted_pairwise params, walks,
    fun aligned unfiltered => ?_⟩
  obtain ⟨pages, last, walk, flat⟩ := walks
  have rest : pages.flatten =
      if params.limit ≤ (params.window.slice (store.sorted params)).length then
        (store.sorted params).drop (params.offset + params.limit) else [] := by
    rw [flat]
    split
    · rename_i full
      rw [Store.sorted_unfiltered (unfiltered full), Nat.add_mul, Nat.one_mul,
        Nat.div_mul_cancel aligned]
    · rfl
  refine ⟨_, last, walk, ?_⟩
  rw [List.flatten_cons, rest]
  exact params.window.slice_append_rest (store.sorted params)

section catalogue

def catalogued (name : String) (second : Int) (published : Bool) : Version :=
  { username := "peer", name, path := "/mem/" ++ name, commitTime := { seconds := second }
    commitTitle := name, bodyRows := 0, bodySize := 0, published }

def birds : Version := catalogued "birds" 2 true

def films : Version := catalogued "films" 1 false

def historyOf (version : Version) : DatasetKey × List Snapshot :=
  (version.key, [{ version, metadata := .null, table := { columns := [], rows := [] } }])

/-- A dataset that is published, and an older one that is not. -/
def catalogue : World Node :=
  { state := { store := { datasets := [historyOf birds, historyOf films] } } }

def listInOnes : Request := .following "/list?limit=1"

def publishedInOnes : Request := .following "/list?published=true&limit=1"

theorem asks_listInOnes : demonstrationServer.Asks listInOnes .list .list { limit := 1 } :=
  ⟨rfl, rfl, none, by decide, rfl⟩

theorem asks_publishedInOnes :
    demonstrationServer.Asks publishedInOnes .list .list { limit := 1, published := some true } :=
  ⟨rfl, rfl, none, by decide, rfl⟩

theorem running_catalogue : demonstrationServer.Running catalogue := rfl

theorem counted_catalogue : catalogue.state.store.datasets.length ≤ maxInt := by decide

theorem sorted_catalogue : catalogue.state.store.sorted {} = [birds, films] := by
  have latest : catalogue.state.store.latest.filter (Store.matchesFilters {}) = [birds, films] :=
    rfl
  rw [Store.sorted, latest]
  exact List.mergeSort_of_pairwise (by decide)

theorem sorted_published :
    catalogue.state.store.sorted { published := some true } = [birds] := by
  have latest : catalogue.state.store.latest.filter
      (Store.matchesFilters { published := some true }) = [birds] := rfl
  rw [Store.sorted, latest, List.mergeSort_singleton]

theorem list_links_lead_through :
    ∃ response after,
      (demonstrationServer.serve listInOnes).run catalogue = (some response, after) ∧
        response.status = 200 ∧ catalogue.state.store.datasets.length ≤ maxInt ∧
        ∃ pages last, Walk demonstrationServer catalogue listInOnes pages last ∧
          pages.flatten = [birds, films] := by
  obtain ⟨response, after, served, -, shows⟩ :=
    (datasets_lawful rfl).shows_of_asks asks_listInOnes running_catalogue
      (Nat.le_trans (Store.length_sorted_le _ _) counted_catalogue) rfl
  obtain ⟨captured, path, bound⟩ := asks_listInOnes.bound
  obtain ⟨params, asks, -, -, -, walks⟩ :=
    list_links_drop_filters {} Store.secondsClock { seconds := 0 } none catalogue after listInOnes
      response captured rfl path served shows.status counted_catalogue
  obtain ⟨other, otherPath, otherBound⟩ := asks.bound
  cases path.symm.trans otherPath
  cases bound.symm.trans otherBound
  obtain ⟨pages, last, walk, flat⟩ := walks (Nat.dvd_zero 1) fun _ _ _ => rfl
  exact ⟨response, after, served, shows.status, counted_catalogue, pages, last, walk,
    flat.trans sorted_catalogue⟩

/-- The links of a list of published datasets lead through one that is not. -/
theorem walk_publishedInOnes : ∃ pages last,
    Walk demonstrationServer catalogue publishedInOnes pages last ∧
      pages.flatten = [birds, films] := by
  obtain ⟨pages, last, walk, flat⟩ :=
    walk_of_list rfl asks_publishedInOnes running_catalogue counted_catalogue
  have published :
      catalogue.state.store.sorted { limit := 1, published := some true } = [birds] :=
    sorted_published
  have all : catalogue.state.store.sorted
      ({ limit := 1, published := some true } : ListParams).unfiltered = [birds, films] :=
    sorted_catalogue
  refine ⟨_, last, walk, ?_⟩
  rw [List.flatten_cons, flat, published, all]
  rfl

theorem representable_catalogue : ∀ version ∈ [birds, films], version.Representable := by decide

/-- So links need not lead through the datasets that match, in the order that is asked for, even if
no two of them were committed at one time. -/
theorem published_links_lead_to_unpublished :
    ¬ ∀ (world : World Node) (request : Request) (params : ListParams),
      demonstrationServer.Asks request .list .list params → params.offset = 0 →
      demonstrationServer.Running world →
      (world.state.store.latest.map Version.commitTime).Nodup →
      ∃ pages last, Walk demonstrationServer world request pages last ∧
        pages.flatten = world.state.store.sorted params := by
  intro through
  obtain ⟨pages, last, walk, flat⟩ := through catalogue publishedInOnes _ asks_publishedInOnes rfl
    running_catalogue (by decide)
  have only : pages.flatten = [birds] := flat.trans sorted_published
  obtain ⟨others, end_, otherWalk, otherFlat⟩ := walk_publishedInOnes
  have readable : ∀ version ∈ pages.flatten, version.Representable := fun version inside =>
    representable_catalogue version (List.mem_append_left [films] (only ▸ inside))
  obtain ⟨rfl, -⟩ := walk.unique otherWalk readable fun version inside =>
    representable_catalogue version (otherFlat ▸ inside)
  have lengths := congrArg List.length (only.symm.trans otherFlat)
  exact absurd lengths (by decide)

end catalogue

end DatasetService.Http
