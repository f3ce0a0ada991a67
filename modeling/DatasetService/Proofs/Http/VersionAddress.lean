import DatasetService.Proofs.Http.HistoryPages
import DatasetService.Proofs.Http.Session

set_option autoImplicit false

/- The addresses of versions. Under the name of its dataset and its path, every version that is
stored is the first of the history that is answered. -/
namespace DatasetService

namespace Store

/-- Where paths are distinct, a history from the path of a version on starts at its place. -/
theorem since_of_getElem? {history : List Snapshot} {position : Nat} {snapshot : Snapshot}
    (distinct : (history.map fun snapshot => snapshot.version.path).Nodup)
    (here : history[position]? = some snapshot) :
    since snapshot.version.path history = history.drop position := by
  induction history generalizing position with
  | nil => cases here
  | cons newest older ih =>
      obtain ⟨fresh, distinct⟩ := List.nodup_cons.mp distinct
      cases position with
      | zero =>
          cases here
          simp [since]
      | succ position =>
          rw [List.getElem?_cons_succ] at here
          have member := List.mem_of_getElem? here
          have other : newest.version.path ≠ snapshot.version.path := by
            intro same
            exact fresh (List.mem_map.mpr ⟨snapshot, member, same.symm⟩)
          rw [since_cons_of_ne older other, List.drop_succ_cons]
          exact ih distinct here

theorem rest_of_stored {store : Store} {reference : Reference} {path : String}
    (given : reference.path = some path) (stored : store.Stored reference.key path) :
    store.rest reference =
      .ok ((since path (store.versions reference.key)).map Snapshot.version) := by
  have known := history?_of_stored stored
  have reached := fromPath?_of_stored stored
  cases versions : store.versions reference.key with
  | nil =>
      obtain ⟨snapshot, member, -⟩ := stored
      rw [versions] at member
      cases member
  | cons newest older =>
      rw [versions] at known reached
      simp only [rest, known, given, reached]

end Store

namespace Http

open Reference (versionMarker)
open Binding (Whole integerOf)

/-- A version as it stands in an address: its dataset, `at` and its path. -/
def markedVersion (key : DatasetKey) (path : String) : String :=
  key.username ++ "/" ++ key.name ++ "/at" ++ path

def limitQuery (limit : Int) : String := "limit=" ++ toString limit

/-- A request for the history of a dataset from a version on, with a limit and with no other
parameter. -/
structure Request.SeeksFrom (request : Request) (key : DatasetKey) (path : String) (limit : Int) :
    Prop where
  get : request.method = "GET"
  target : request.target = "/history/" ++ markedVersion key path ++ "?" ++ limitQuery limit
  untyped : request.header? "content-type" = none

section query

variable (limit : Int)

theorem not_mem_limit {mark : Char} (undigit : mark.isDigit = false) (unsigned : mark ≠ '-') :
    mark ∉ (toString limit).toList := by
  intro member
  rcases Literal.isDigit_of_mem_toString member with digit | sign
  · rw [undigit] at digit
    cases digit
  · exact unsigned sign

theorem formPairs_limitQuery :
    Text.formPairs (Text.bytesOf (limitQuery limit)) = [("limit", toString limit)] := by
  have one : (limitQuery limit).toList =
      Text.joinWith '&' ([("limit".toList, (toString limit).toList)].map Text.formPiece) := by
    simp [limitQuery, Text.joinWith, Text.formPiece]
  have name : Text.formText (Text.encode "limit".toList) = "limit" :=
    Text.formText_plain (by decide) (by decide)
  have value : Text.formText (Text.encode (toString limit).toList) = toString limit :=
    Text.formText_plain (not_mem_limit limit (by decide) (by decide))
      (not_mem_limit limit (by decide) (by decide))
  rw [Text.bytesOf, one, Text.formPairs_joined _ (List.cons_ne_nil _ _)]
  · rw [List.map_singleton, name, value]
  · have plain : '&' ∉ "limit".toList ∧ '=' ∉ "limit".toList := by decide
    exact List.forall_mem_singleton.mpr plain
  · exact List.forall_mem_singleton.mpr (not_mem_limit limit (by decide) (by decide))

end query

section address

variable {key : DatasetKey} {path : String} (addressable : Addressable key path)
include addressable

/-- The path of a version begins with a slash, after `@` in its text and after `at` in its
address. -/
theorem exists_address : ∃ rest : List Char, rest ≠ [] ∧
    (key.version path).text.toList =
      key.username.toList ++ '/' :: (key.name.toList ++ '@' :: '/' :: rest) ∧
    (markedVersion key path).toList =
      key.username.toList ++ '/' :: (key.name.toList ++ '/' :: (versionMarker ++ '/' :: rest)) := by
  obtain ⟨first, second, pair⟩ := addressable.pair
  have name : (key.version path).name ≠ "" := by
    simpa [Reference.hasName] using addressable.named
  have versioned : (key.version path).path = some ("/" ++ first ++ "/" ++ second) := by
    rw [← pair]
    rfl
  refine ⟨first.toList ++ '/' :: second.toList, by simp, ?_, ?_⟩
  · rw [Reference.text_toList, if_neg name, versioned, Reference.optionalPart_version]
    simp [DatasetKey.version, Reference.optionalPart]
  · rw [pair]
    simp [markedVersion, versionMarker]

/-- No mark stands in the address of a version but slashes. -/
theorem not_mem_marked {mark : Char} (other : Reference.isPathChar mark = false)
    (unslashed : mark ≠ '/') (unversioned : mark ≠ '@') :
    mark ∉ (markedVersion key path).toList := by
  obtain ⟨rest, -, text, written⟩ := exists_address addressable
  have absent : mark ∉ (key.version path).text.toList :=
    addressable.wellFormed.not_mem_text other unslashed unversioned
  have unmarked : mark ∉ versionMarker := by
    intro member
    have all : versionMarker.all Reference.isPathChar = true := by decide
    rw [List.all_eq_true.mp all mark member] at other
    cases other
  rw [text] at absent
  rw [written]
  simp only [List.mem_append, List.mem_cons, not_or] at absent ⊢
  exact ⟨absent.1, unslashed, absent.2.2.1, unslashed, unmarked, unslashed, absent.2.2.2.2.2⟩

variable {request : Request} {limit : Int} (seeks : request.SeeksFrom key path limit)
include seeks

theorem Request.SeeksFrom.at_eq : request.at =
    { path := ("/history/" ++ markedVersion key path).toList
      query := (limitQuery limit).toList } := by
  have rooted : ("/history/" ++ markedVersion key path).toList =
      '/' :: ("history/".toList ++ (markedVersion key path).toList) := by
    simp
  have plain {mark : Char} (absent : mark ∉ (markedVersion key path).toList)
      (other : mark ∉ "/history/".toList) :
      mark ∉ ("/history/" ++ markedVersion key path).toList := by
    rw [String.toList_append, List.mem_append, not_or]
    exact ⟨other, absent⟩
  have whole : '#' ∉ (limitQuery limit).toList := by
    rw [limitQuery, String.toList_append, List.mem_append, not_or]
    exact ⟨by decide, not_mem_limit limit (by decide) (by decide)⟩
  rw [Request.at, seeks.target]
  refine Target.parse_query rooted ⟨?_, ?_⟩ whole
  · exact plain (not_mem_marked addressable (by decide) (by decide) (by decide)) (by decide)
  · exact plain (not_mem_marked addressable (by decide) (by decide) (by decide)) (by decide)

theorem Request.SeeksFrom.effective (reference : Option String) (name : String) :
    (request.input reference).effective name =
      (if name = "limit" then some (toString limit) else none).map .text := by
  have query : request.query = [("limit", toString limit)] := by
    rw [Request.query, seeks.at_eq addressable]
    exact formPairs_limitQuery limit
  have body : Binding.lastNamed name
      (([] : List (String × Binding.RawValue)).filter fun pair => !pair.2.isNull) = none := rfl
  have last : Binding.lastNamed name request.query =
      if name = "limit" then some (toString limit) else none := by
    rw [query]
    by_cases same : name = "limit"
    · simp [Binding.lastNamed, same]
    · simp [Binding.lastNamed, same, Ne.symm same]
  rw [Binding.RawInput.effective, Request.input, body, Option.none_or, last]

/-- What is bound is the version and the limit, which is the default one if it is not positive. -/
theorem Request.SeeksFrom.asks (low : Literal.minSigned ≤ limit) (high : limit ≤ Literal.maxSigned)
    {server : Server Node} (small : server.declaresTooMuch request = false) :
    server.Asks request .history .log
      { reference := key.version path, list := { limit := (Window.ofSigned limit 0).limit } } := by
  obtain ⟨rest, filled, text, written⟩ := exists_address addressable
  have user := addressable.wellFormed.user
  have begun : (markedVersion key path).toList ≠ [] := by
    rw [written]
    exact List.append_ne_nil_of_left_ne_nil user.1 _
  have unslashed : Text.Halts (· == '/') (markedVersion key path).toList := by
    rw [written]
    exact Text.halts_append user.1 user.inPath.halts.1
  have integer : integerOf (some (toString limit)) = limit := by
    rw [integerOf, Option.bind_some, Binding.integerOfText?_integer low high, Option.getD_some]
  have whole : Whole (some (toString limit)) := by
    rintro given ⟨⟩
    rw [Binding.integerOfText?_integer low high]
    rfl
  let values : LogValues :=
    { reference := key.version path
      window := { limit := (Window.ofSigned limit 0).limit, offset := 0 } }
  have effective := seeks.effective addressable (some (markedVersion key path))
  have read : values.ReadFrom (request.input (some (markedVersion key path))) :=
    { reference := Binding.parseReference_of_resolve rfl begun unslashed
        (Reference.resolve_marked addressable.wellFormed addressable.named filled text written _)
      named := addressable.named
      limit := by
        have given := Binding.fieldValue_limit whole "limit"
        rw [integer] at given
        rw [effective "limit"]
        exact given
      offset := by
        have none : Whole none := by rintro given ⟨⟩
        rw [effective "offset"]
        exact Binding.fieldValue_offset none "offset"
      isLocal := by
        rw [effective "local"]
        exact Binding.fieldValue_unset "local"
      remote := by
        rw [effective "remote"]
        exact Binding.fieldValue_text "remote" none
      pull := by
        rw [effective "pull"]
        exact Binding.fieldValue_unset "pull" }
  have decoded : decodeReference (some (markedVersion key path).toList) =
      .ok (some (markedVersion key path)) :=
    decodeReference_plain (not_mem_marked addressable (by decide) (by decide) (by decide))
  refine ⟨seeks.get, small, some (markedVersion key path).toList, ?_, ?_⟩
  · rw [seeks.at_eq addressable, String.toList_append]
    exact ofPath?_history begun
  · rw [bindRequest_untyped .log _ seeks.untyped decoded]
    exact values.bind_of_read read

end address

/-- Every version that is stored is found by its address, whatever its dataset is called. After any
requests to a new server or to one with demonstration data, the history that is asked for under the
path of a version starts with that version and goes on with all that are older, as far as the limit
goes, or the default limit in place of one that is not positive. -/
theorem stored_versions_are_addressable (settings : Settings) (clock : Nat → Instant)
    (now : Instant) (shutdownAt : Option Nat) (start : Store.Start) (visits : List Visit)
    (key : DatasetKey) (position : Nat) (snapshot : Snapshot) (limit : Int) (request : Request)
    (world : World Node)
    (reached : world.state = ((Server.ofNode settings clock now shutdownAt).session visits
      { store := start.store }).2)
    (distinct : ((world.state.store.versions key).map
      fun snapshot => snapshot.version.path).Nodup)
    (here : (world.state.store.versions key)[position]? = some snapshot)
    (low : Literal.minSigned ≤ limit) (high : limit ≤ Literal.maxSigned)
    (seeks : request.SeeksFrom key snapshot.version.path limit)
    (small : (Server.ofNode settings clock now shutdownAt).declaresTooMuch request = false)
    (running : (Server.ofNode settings clock now shutdownAt).Running world) :
    let server := Server.ofNode settings clock now shutdownAt
    let history := (world.state.store.versions key).map Snapshot.version
    let shown := (history.drop position).take (if limit ≤ 0 then defaultLimit else limit.toNat)
    ∃ response after pagination, (server.serve request).run world = (some response, after) ∧
      response.IsPage shown pagination ∧ shown.head? = some snapshot.version := by
  intro server history shown
  have stored : server.backend = Node.backend clock := rfl
  have member := List.mem_of_getElem? here
  have addressable : Addressable key snapshot.version.path := by
    obtain ⟨changes, named, store⟩ :=
      Server.session_named_run stored visits { store := start.store }
    have all := Store.addressed_run changes named (Store.addressed_start start)
    rw [← store, ← reached] at all
    exact all key snapshot member
  let params : LogParams :=
    { reference := key.version snapshot.version.path
      list := { limit := (Window.ofSigned limit 0).limit } }
  have asks : server.Asks request histories.route histories.shape params :=
    seeks.asks addressable low high small
  have rest : world.state.store.rest params.reference = .ok (history.drop position) := by
    have at_ : world.state.store.Stored params.reference.key snapshot.version.path :=
      ⟨snapshot, member, rfl⟩
    have same : params.reference.key = key := rfl
    rw [Store.rest_of_stored rfl at_, same, Store.since_of_getElem? distinct here, List.map_drop]
  have source : histories.source world.state.store server.remotes params =
      .ok (history.drop position) := History.source_of_rest rfl rfl server.remotes rest
  obtain ⟨response, after, served, -, page⟩ :=
    (histories_lawful stored).isPage_of_asks asks running source
  refine ⟨response, after, _, served, page, ?_⟩
  have some_ : (if limit ≤ 0 then defaultLimit else limit.toNat) ≠ 0 := by
    split
    · decide
    · omega
  rw [List.head?_take, if_neg some_, List.head?_drop, List.getElem?_map, here, Option.map_some]

section marks

/-- An upload of one row to a dataset that is called like the mark of versions. -/
def savedMarks (time : Nat) : Visit :=
  { time
    request :=
      { method := "POST"
        target := "/save/at/at"
        headers := [("content-type", Text.bytesOf jsonType)]
        body := Text.bytesOf "\x7b\"body\":[[1]]\x7d" } }

def marks : DatasetKey := { username := "at", name := "at" }

/-- The dataset was saved twice. -/
def marksWorld : World Node :=
  { state := (demonstrationServer.session [savedMarks 0, savedMarks 1]
      { store := Store.Start.empty.store }).2 }

def marksHistory : List Version :=
  (marksWorld.state.store.versions marks).map Snapshot.version

/-- Every version of the dataset can be read. -/
theorem representable_marks : ∀ version ∈ marksHistory, version.Representable := by
  decide +kernel

theorem older_marks_are_addressable : ∃ snapshot,
    (marksWorld.state.store.versions marks)[1]? = some snapshot ∧
    ∃ response after pagination,
      (demonstrationServer.serve
        { target := "/history/" ++ markedVersion marks snapshot.version.path ++ "?" ++
            limitQuery 7 }).run marksWorld = (some response, after) ∧
      response.page? = some ((marksHistory.drop 1).take 7, pagination) := by
  have two : (marksWorld.state.store.versions marks)[1]?.isSome = true := by decide +kernel
  have distinct : ((marksWorld.state.store.versions marks).map
      fun snapshot => snapshot.version.path).Nodup := by decide +kernel
  obtain ⟨snapshot, here⟩ := Option.isSome_iff_exists.mp two
  let request : Request :=
    { target := "/history/" ++ markedVersion marks snapshot.version.path ++ "?" ++ limitQuery 7 }
  have seeks : request.SeeksFrom marks snapshot.version.path 7 := ⟨rfl, rfl, rfl⟩
  have small : demonstrationServer.declaresTooMuch request = false := rfl
  have clock : marksWorld.clock = 0 := by rw [marksWorld]
  have running : demonstrationServer.Running marksWorld := by
    rw [Server.Running, Server.scopeIn, clock]
    decide
  have reached : marksWorld.state = (demonstrationServer.session [savedMarks 0, savedMarks 1]
      { store := Store.Start.empty.store }).2 := by rw [marksWorld]
  rw [demonstrationServer] at reached small running ⊢
  obtain ⟨response, after, pagination, served, page, -⟩ :=
    stored_versions_are_addressable _ _ _ _ _ _ _ _ _ _ _ _ reached distinct here (by decide)
      (by decide) seeks small running
  have readable : ∀ version ∈ (marksHistory.drop 1).take 7, version.Representable :=
    fun version inside =>
      representable_marks version (List.mem_of_mem_drop (List.mem_of_mem_take inside))
  exact ⟨snapshot, here, response, after, pagination, served, page.read readable⟩

end marks

end Http
end DatasetService
