import DatasetService.Proofs.Binding.References
import DatasetService.Proofs.Http.HistoryPages
import DatasetService.Proofs.Reference.Address

set_option autoImplicit false

/- The spellings of a read as CSV. The header, the parameter and the suffix lead through the
choice of the format in different ways, with the selector of the rows or without one. All of them
come to one outcome, in which the spelling does not occur. -/
namespace DatasetService

open Text (Bytes)
open Reference (versionMarker)

namespace Store

variable {store : Store} {reference : Reference}

/-- The rows of a version as CSV. -/
def rowsAsCsv (store : Store) (reference : Reference) : Except StoreError Bytes := do
  (← store.snapshot reference).table.csv none

theorem snapshot_error {error : StoreError} (absent : store.snapshot reference = .error error) :
    ∃ what, error = .notFound what := by
  unfold snapshot at absent
  split at absent
  · exact ⟨_, (Except.error.inj absent).symm⟩
  · split at absent
    · cases absent
    · exact ⟨_, (Except.error.inj absent).symm⟩

section rows

variable {selector : Option String}
  (tabular : selector = none ∨ selector = some Negotiation.bodySelector)
include tabular

/-- With the selector of the rows or without one, CSV is that of the rows. -/
theorem get_of_snapshot_csv {found : Snapshot} (located : store.snapshot reference = .ok found) :
    store.get { reference with selector } .csv = (do return .bytes (← found.table.csv none)) := by
  rw [get, bind_of_eq_ok (snapshot_of_selector located selector)]
  rcases tabular with rfl | rfl <;> rfl

theorem get_of_rowsAsCsv {csv : Bytes} (rows : store.rowsAsCsv reference = .ok csv) :
    store.get { reference with selector } .csv = .ok (.bytes csv) := by
  obtain ⟨found, located, written⟩ := exists_of_bind_eq_ok rows
  rw [get_of_snapshot_csv tabular located, bind_of_eq_ok written]
  rfl

/-- Without rows the reads fail alike, whatever the message says of the selector. -/
theorem get_of_no_rows {error : StoreError} (none : store.rowsAsCsv reference = .error error) :
    ∃ other, store.get { reference with selector } .csv = .error other ∧
      (ApiError.ofStore other).status = (ApiError.ofStore error).status := by
  cases located : store.snapshot reference with
  | ok found =>
      rw [rowsAsCsv, bind_of_eq_ok located] at none
      refine ⟨error, ?_, rfl⟩
      rw [get_of_snapshot_csv tabular located, bind_of_eq_error none]
  | error absent =>
      rw [rowsAsCsv, bind_of_eq_error located] at none
      obtain rfl := Except.error.inj none
      obtain ⟨what, rfl⟩ := snapshot_error located
      cases other : store.snapshot { reference with selector } with
      | ok found =>
          have back := snapshot_of_selector other reference.selector
          rw [located] at back
          cases back
      | error cause =>
          obtain ⟨message, rfl⟩ := snapshot_error other
          exact ⟨_, bind_of_eq_error other _, rfl⟩

end rows

end Store

namespace Http

open Binding (parseReference)
open Store (moviesReference)

/-- The ways to ask for the rows of a dataset as CSV. -/
inductive CsvSpelling
  | header
  | parameter
  | bodyParameter
  | bodyHeader
  | bodySuffix
deriving DecidableEq

namespace CsvSpelling

/-- The selector in the path. -/
def selector? : CsvSpelling → Option String
  | header | parameter => none
  | bodyParameter | bodyHeader => some "body"
  | bodySuffix => some "body.csv"

/-- The format that the query names. -/
def explicit? : CsvSpelling → Option String
  | parameter | bodyParameter => some "csv"
  | header | bodyHeader | bodySuffix => none

def accept? : CsvSpelling → Option String
  | header | bodyHeader => some "text/csv"
  | parameter | bodyParameter | bodySuffix => none

/-- What is asked for in the path. -/
def written (spelling : CsvSpelling) (reference : Reference) : Reference :=
  { reference with selector := spelling.selector? }

def path (spelling : CsvSpelling) (reference : Reference) : String :=
  "/get/" ++ (spelling.written reference).text

def query? (spelling : CsvSpelling) : Option String :=
  spelling.explicit?.map fun format => "format=" ++ format

def target (spelling : CsvSpelling) (reference : Reference) : String :=
  spelling.path reference ++ Reference.optionalPart "?" spelling.query?

/-- The request of a spelling, with no header that it does not need. -/
def request (spelling : CsvSpelling) (reference : Reference) : Request :=
  { target := spelling.target reference
    headers := spelling.accept?.toList.map fun accept => ("accept", Text.bytesOf accept) }

/-- The selector that is left of choosing the format. -/
def selected : CsvSpelling → Option String
  | parameter => none
  | header | bodyParameter | bodyHeader | bodySuffix => some Negotiation.bodySelector

theorem selected_tabular (spelling : CsvSpelling) :
    spelling.selected = none ∨ spelling.selected = some Negotiation.bodySelector := by
  cases spelling <;> simp [selected]

/-- Every spelling is one for CSV, and none of them contradicts itself. -/
theorem negotiate_eq (spelling : CsvSpelling) : ∃ source,
    Negotiation.negotiate spelling.explicit? spelling.selector? spelling.accept? =
      .ok { format := .csv, source, selector := spelling.selected } := by
  cases spelling with
  | header => exact ⟨.header, by decide +kernel⟩
  | parameter => exact ⟨.explicit, by decide +kernel⟩
  | bodyParameter => exact ⟨.explicit, by decide +kernel⟩
  | bodyHeader => exact ⟨.header, by decide +kernel⟩
  | bodySuffix => exact ⟨.suffix, by decide +kernel⟩

theorem formPairs_query (spelling : CsvSpelling) :
    Text.formPairs (Text.bytesOf (spelling.query?.getD "")) =
      (spelling.explicit?.map fun format => ("format", format)).toList := by
  cases spelling <;> decide +kernel

theorem selectorPath (spelling : CsvSpelling) :
    ∀ selector ∈ spelling.selector?, Reference.SelectorPath selector.toList := by
  have suffixed : ∀ selector ∈ some "body.csv", Reference.SelectorPath selector.toList :=
    ((Reference.parseChars_eq_ok_iff "a/b/body.csv".toList
      { username := "a", name := "b", selector := some "body.csv" }).mp (by decide)).2.selectorPath
  have body : ∀ selector ∈ some "body", Reference.SelectorPath selector.toList := by
    rintro selector ⟨⟩
    exact Negotiation.selectorPath_body
  cases spelling with
  | header => simp [selector?]
  | parameter => simp [selector?]
  | bodyParameter => exact body
  | bodyHeader => exact body
  | bodySuffix => exact suffixed

theorem unfragmented (spelling : CsvSpelling) : ∀ query ∈ spelling.query?, '#' ∉ query.toList := by
  cases spelling <;> decide

section address

variable (spelling : CsvSpelling) {reference : Reference} (wellFormed : reference.WellFormed)
  (named : reference.hasName = true)

include wellFormed named in
theorem wellFormed_written : (spelling.written reference).WellFormed :=
  wellFormed.withSelector named spelling.selectorPath

/-- No segment `at` comes with a selector. -/
theorem marked_written_iff (whole : reference.selector = none) :
    (spelling.written reference).Marked ↔ reference.Marked := by
  have more {selector : String} (unslashed : '/' ∉ selector.toList)
      (other : versionMarker ≠ selector.toList) :
      ({ reference with selector := some selector } : Reference).Marked ↔ reference.Marked := by
    have text : ({ reference with selector := some selector } : Reference).text.toList =
        reference.text.toList ++ '/' :: selector.toList := by
      rw [Reference.text_toList, Reference.text_toList, whole]
      simp
    rw [Reference.Marked, text, Text.splitAt_append _ unslashed, List.drop_append, List.mem_append]
    refine or_iff_left fun added => ?_
    exact other (List.mem_singleton.mp (List.mem_of_mem_drop added))
  have same : ({ reference with selector := none } : Reference) = reference := by
    rw [← whole]
  cases spelling with
  | header => rw [written, selector?, same]
  | parameter => rw [written, selector?, same]
  | bodyParameter => exact more (by decide) (by decide)
  | bodyHeader => exact more (by decide) (by decide)
  | bodySuffix => exact more (by decide) (by decide)

end address

end CsvSpelling

/-- A request in a spelling: a target and a header `Accept`, whoever makes it. It has no body. -/
structure Request.Spells (request : Request) (spelling : CsvSpelling) (reference : Reference) :
    Prop where
  get : request.method = "GET"
  target : request.target = spelling.target reference
  accept : request.header? "accept" = spelling.accept?
  untyped : request.header? "content-type" = none
  unmeasured : request.header? "content-length" = none

theorem CsvSpelling.spells_request (spelling : CsvSpelling) (reference : Reference) :
    (spelling.request reference).Spells spelling reference where
  get := rfl
  target := rfl
  accept := by cases spelling <;> rfl
  untyped := by cases spelling <;> rfl
  unmeasured := by cases spelling <;> rfl

section requests

variable {request : Request} {spelling : CsvSpelling} {reference : Reference}
  (spells : request.Spells spelling reference)

include spells in
theorem Request.Spells.small (server : Server Node) :
    server.declaresTooMuch request = false := by
  rw [Server.declaresTooMuch, Request.declaredLength?, spells.unmeasured]
  rfl

variable (wellFormed : reference.WellFormed) (named : reference.hasName = true)
include spells wellFormed named

theorem Request.Spells.at_eq : request.at =
    { path := (spelling.path reference).toList
      query := (spelling.query?.getD "").toList } := by
  have written := spelling.wellFormed_written wellFormed named
  have rooted : (spelling.path reference).toList =
      '/' :: ("get/".toList ++ (spelling.written reference).text.toList) := by
    rw [CsvSpelling.path, String.toList_append]
    rfl
  have plain : '?' ∉ (spelling.path reference).toList ∧ '#' ∉ (spelling.path reference).toList := by
    rw [CsvSpelling.path, String.toList_append, List.mem_append, List.mem_append, not_or, not_or]
    exact ⟨⟨by decide, written.not_asked⟩,
      ⟨by decide, written.not_mem_text (by decide) (by decide) (by decide)⟩⟩
  rw [Request.at, spells.target, CsvSpelling.target]
  cases asked : spelling.query? with
  | none =>
      rw [Reference.optionalPart_none, String.append_empty]
      exact Target.parse_path rooted plain
  | some query =>
      rw [Reference.optionalPart, ← String.append_assoc]
      exact Target.parse_query rooted plain (spelling.unfragmented query asked)

theorem Request.Spells.effective (captured : Option String) :
    (request.input captured).effective "format" = spelling.explicit?.map .text := by
  have query : request.query =
      (spelling.explicit?.map fun format => ("format", format)).toList := by
    rw [Request.query, spells.at_eq wellFormed named]
    exact spelling.formPairs_query
  rw [Binding.RawInput.effective, Request.input, query]
  cases spelling <;> rfl

theorem Request.Spells.handler : request.handler? =
    some (.get, some (spelling.written reference).text.toList, .get) := by
  have written := spelling.wellFormed_written wellFormed named
  have path : Route.ofPath? request.at.path =
      some (.get, some (spelling.written reference).text.toList) := by
    rw [spells.at_eq wellFormed named, CsvSpelling.path, String.toList_append]
    exact ofPath?_get written.text_ne_nil
  have operation : Route.get.operation? "GET" = some .get := by decide
  simp [Request.handler?, path, spells.get, operation]

theorem Request.Spells.bindRequest_eq (maxBytes : Nat) :
    bindRequest .get maxBytes request (some (spelling.written reference).text.toList) =
      Binding.bind .get (request.input (some (spelling.written reference).text)) := by
  have written := spelling.wellFormed_written wellFormed named
  exact bindRequest_untyped .get maxBytes spells.untyped
    (decodeReference_plain (written.not_mem_text (by decide) (by decide) (by decide)))

/-- What is bound is the reference, with the selector of the rows or without one. -/
theorem Request.Spells.binds (whole : reference.selector = none)
    (unmarked : ¬ reference.Marked) (maxBytes : Nat) :
    bindRequest .get maxBytes request (some (spelling.written reference).text.toList) =
      .ok { reference := { reference with selector := spelling.selected }, format := .csv } := by
  have written := spelling.wellFormed_written wellFormed named
  let input := request.input (some (spelling.written reference).text)
  obtain ⟨source, negotiated⟩ := spelling.negotiate_eq
  have chosen : Negotiation.negotiate spelling.explicit? (spelling.written reference).selector
      input.accept = .ok { format := .csv, source, selector := spelling.selected } := by
    rw [← spells.accept] at negotiated
    exact negotiated
  have read := written.resolve_text
    (fun marked => unmarked ((spelling.marked_written_iff whole).mp marked)) request.owner.peername
  have parsed : parseReference referenceField input = .ok (some (spelling.written reference)) :=
    Binding.parseReference_of_resolve rfl written.text_ne_nil written.text_halts.1 read
  have valid : GetParams.validate
      { reference := { reference with selector := spelling.selected }, format := .csv } =
        .ok () := by
    have checked : requireName { reference with selector := spelling.selected } = .ok () :=
      Binding.requireName_of_named named
    rw [GetParams.validate]
    exact (bind_of_eq_ok checked _).trans rfl
  rw [spells.bindRequest_eq wellFormed named]
  exact Binding.bind_get parsed (spells.effective wellFormed named _) chosen valid

/-- A version with a segment `at` is refused in every spelling. -/
theorem Request.Spells.refused (whole : reference.selector = none)
    (marked : reference.Marked) (maxBytes : Nat) :
    ∃ cause, bindRequest .get maxBytes request (some (spelling.written reference).text.toList) =
      .error (.reference cause) := by
  have written := spelling.wellFormed_written wellFormed named
  have versioned : (spelling.written reference).path.isSome = true :=
    wellFormed.versioned_of_marked named whole marked
  obtain ⟨cause, refused⟩ := written.resolve_text_refused versioned
    ((spelling.marked_written_iff whole).mpr marked) request.owner.peername
  refine ⟨cause, ?_⟩
  have field : ParamShape.get.referenceField? = some referenceField := rfl
  rw [spells.bindRequest_eq wellFormed named, Binding.bind_stages, Binding.readReference, field]
  exact bind_of_eq_error
    (Binding.parseReference_of_refused rfl written.text_ne_nil written.text_halts.1 refused) _

end requests

/-- How a read as CSV ends: with the rows, or with the status of a failure. -/
abbrev CsvOutcome : Type := Except Nat Bytes

/-- A response tells a client of an outcome. -/
def Response.Tells (response : Response) : CsvOutcome → Prop
  | .ok csv => response.status = 200 ∧ response.contentType = some Format.csv.contentType ∧
      response.disposition = none ∧ response.body = .bytes csv
  | .error status => response.status = status

namespace Server

variable {server : Server Node} {clock : Nat → Instant} {world : World Node} {scope : Scope}

/-- What is left of a read when its reference is bound: the scope may have ended, and the version
may be absent or without CSV. -/
def rowsOutcome (scope : Scope) (world : World Node) (reference : Reference) : CsvOutcome :=
  match scope.stopped? world.clock with
  | some error => .error error.status
  | none => (world.state.store.rowsAsCsv reference).mapError fun error =>
      (ApiError.ofStore error).status

/-- The outcome of a read as CSV in all its spellings. A version with a segment `at` is no
reference. -/
def csvOutcome (server : Server Node) (world : World Node) (reference : Reference) : CsvOutcome :=
  if reference.Marked then .error 400
  else rowsOutcome (server.scopeIn world) world reference

/-- No failure has the status of a success. -/
theorem status_of_csvOutcome {reference : Reference} {status : Nat}
    (failed : server.csvOutcome world reference = .error status) : status ≠ 200 := by
  have error_ne (error : ApiError) : error.status ≠ 200 := by
    have high := error.status_ge
    omega
  unfold csvOutcome rowsOutcome at failed
  split at failed
  · cases failed
    decide
  · split at failed
    · rename_i error stopped
      cases failed
      exact error_ne error
    · cases rows : world.state.store.rowsAsCsv reference with
      | ok csv =>
          rw [rows] at failed
          cases failed
      | error error =>
          rw [rows] at failed
          cases failed
          exact error_ne _

theorem csvOutcome_eq_ok_iff {reference : Reference} {csv : Bytes} :
    server.csvOutcome world reference = .ok csv ↔ server.Running world ∧
      ¬ reference.Marked ∧
      ∃ found, world.state.store.snapshot reference = .ok found ∧
        found.table.csv none = .ok csv := by
  unfold csvOutcome rowsOutcome Running
  by_cases marked : reference.Marked
  · simp [marked]
  · rw [if_neg marked]
    cases stopped : (server.scopeIn world).stopped? world.clock with
    | some error => simp
    | none =>
        cases located : world.state.store.snapshot reference with
        | error error =>
            simp only [Store.rowsAsCsv, bind_of_eq_error located]
            simp [Except.mapError]
        | ok found =>
            simp only [Store.rowsAsCsv, bind_of_eq_ok located]
            cases written : found.table.csv none <;> simp [Except.mapError, marked, written]

theorem ends_csv (stored : server.backend = Node.backend clock) (reference : Reference)
    {selector : Option String}
    (tabular : selector = none ∨ selector = some Negotiation.bodySelector) :
    (server.get scope { reference := { reference with selector }, format := .csv }).Ends world
      (fun response _ => response.Tells (rowsOutcome scope world reference))
      (fun error _ => (Response.ofError error).Tells (rowsOutcome scope world reference)) := by
  unfold Server.get
  rw [stored]
  dsimp only
  apply Action.ends_bind
  apply Node.ends_perform
  · intro error stopped
    rw [rowsOutcome, stopped]
    rfl
  · intro goesOn
    have answered : (world.state.answer clock
        (.get { reference with selector } .csv)).1 =
          world.state.store.get { reference with selector } .csv := rfl
    rw [rowsOutcome, goesOn, answered]
    cases rows : world.state.store.rowsAsCsv reference with
    | ok csv =>
        rw [Store.get_of_rowsAsCsv tabular rows]
        exact Action.ends_bind (Action.ends_pure (Action.ends_pure ⟨rfl, rfl, rfl, rfl⟩))
    | error error =>
        obtain ⟨other, failed, status⟩ := Store.get_of_no_rows tabular rows
        rw [failed]
        exact Action.ends_bind (Action.ends_fail status)

/-- What a client is presented with tells the same. -/
theorem tells_present {request : Request} {response : Response} {outcome : CsvOutcome}
    (get : request.method = "GET") (tells : response.Tells outcome) :
    (server.present request response).Tells outcome := by
  have reads : request.asksForHead = false := by
    rw [Request.asksForHead, get]
    rfl
  cases outcome with
  | error status => exact tells
  | ok csv =>
      obtain ⟨status, contentType, disposition, body⟩ := tells
      refine ⟨status, contentType, disposition, ?_⟩
      rw [present, reads]
      exact body

end Server

/-- With its parameters bound or refused, a read as CSV comes to its outcome. -/
theorem Request.Spells.ends_run {server : Server Node} {clock : Nat → Instant}
    (stored : server.backend = Node.backend clock) (world : World Node) {request : Request}
    {spelling : CsvSpelling} {reference : Reference}
    (spells : request.Spells spelling reference) (wellFormed : reference.WellFormed)
    (named : reference.hasName = true) (whole : reference.selector = none) :
    (server.run (server.scopeIn world) request (some (spelling.written reference).text.toList)
        .get).Ends world
      (fun response _ => response.Tells (server.csvOutcome world reference))
      (fun error _ => (Response.ofError error).Tells (server.csvOutcome world reference)) := by
  let maxBytes := server.settings.maxUploadBytes
  -- The action has a name of its own, so that no tactic runs it to look at the goal.
  generalize ran : server.run _ request _ .get = action
  rw [Server.run, Server.bound] at ran
  by_cases marked : reference.Marked
  · obtain ⟨cause, refused⟩ := spells.refused wellFormed named whole marked maxBytes
    rw [refused] at ran
    rw [← ran, Server.csvOutcome, if_pos marked]
    exact Action.ends_bind (Action.ends_fail rfl)
  · rw [spells.binds wellFormed named whole marked maxBytes] at ran
    rw [← ran, Server.csvOutcome, if_neg marked]
    exact Action.ends_bind
      (Action.ends_pure (Server.ends_csv stored reference spelling.selected_tabular))

/-- The spelling of a request does not matter for its outcome. -/
theorem Request.Spells.tells {server : Server Node} {clock : Nat → Instant}
    (stored : server.backend = Node.backend clock) (world : World Node) {request : Request}
    {spelling : CsvSpelling} {reference : Reference}
    (spells : request.Spells spelling reference) (wellFormed : reference.WellFormed)
    (named : reference.hasName = true) (whole : reference.selector = none) :
    ∃ response after, (server.serve request).run world = (some response, after) ∧
      response.Tells (server.csvOutcome world reference) := by
  have passed : Access.check server.settings.readOnly Route.get.pattern = .ok () := by
    have read : Access.classify Route.get.pattern = .read := by decide
    simp [Access.check, read]
  obtain ⟨response, after, ran, tells⟩ := Server.run_answer_of_ends passed
    (spells.ends_run stored world wellFormed named whole)
  rw [← Server.dispatch_of_handler (spells.handler wellFormed named)] at ran
  exact ⟨_, after, Server.run_serve_of_dispatch (spells.small server) ran,
    Server.tells_present spells.get tells⟩

/-- All spellings of a read as CSV have one outcome. Whatever is stored, whoever asks and whatever
the server allows, the responses have one status, and where that is a success, one content type and
the same bytes. They are a success just if the server is running and finds the version, with rows
that can be written as CSV, and no segment of the version is `at`. -/
theorem csv_spellings_agree (settings : Settings) (clock : Nat → Instant) (now : Instant)
    (shutdownAt : Option Nat) (world : World Node) (reference : Reference)
    (wellFormed : reference.WellFormed) (named : reference.hasName = true)
    (whole : reference.selector = none) :
    let server := Server.ofNode settings clock now shutdownAt
    ∃ status csv,
      (∀ spelling request, request.Spells spelling reference →
        ∃ response after, (server.serve request).run world = (some response, after) ∧
          response.status = status ∧
          (status = 200 → response.contentType = some Format.csv.contentType ∧
            response.disposition = none ∧ response.body = .bytes csv)) ∧
      ∀ rows, (status = 200 ∧ csv = rows) ↔ server.Running world ∧
        ¬ reference.Marked ∧
        ∃ found, world.state.store.snapshot reference = .ok found ∧
          found.table.csv none = .ok rows := by
  intro server
  have stored : server.backend = Node.backend clock := rfl
  simp only [← Server.csvOutcome_eq_ok_iff]
  cases outcome : server.csvOutcome world reference with
  | ok csv =>
      refine ⟨200, csv, fun spelling request spells => ?_, fun rows => by simp⟩
      obtain ⟨response, after, served, tells⟩ := spells.tells stored world wellFormed named whole
      rw [outcome] at tells
      exact ⟨response, after, served, tells.1, fun _ => tells.2⟩
  | error status =>
      have fails : status ≠ 200 := Server.status_of_csvOutcome outcome
      refine ⟨status, [], fun spelling request spells => ?_, fun rows => by simp [fails]⟩
      obtain ⟨response, after, served, tells⟩ := spells.tells stored world wellFormed named whole
      rw [outcome] at tells
      exact ⟨response, after, served, tells, fun succeeds => absurd succeeds fails⟩

theorem movies_agree :
    moviesReference.WellFormed ∧ ∃ found csv,
      demonstrationWorld.state.store.snapshot moviesReference = .ok found ∧
      found.table.csv none = .ok csv ∧
      ∀ spelling : CsvSpelling, ∃ response after,
        (demonstrationServer.serve (spelling.request moviesReference)).run demonstrationWorld =
          (some response, after) ∧
        response.status = 200 ∧ response.contentType = some "text/csv; charset=utf-8" ∧
        response.body = .bytes csv := by
  have wellFormed : moviesReference.WellFormed :=
    ((Reference.parseChars_eq_ok_iff moviesReference.text.toList moviesReference).mp (by decide)).2
  have written : (demonstrationWorld.state.store.rowsAsCsv moviesReference).isOk = true := by
    decide +kernel
  obtain ⟨csv, rows⟩ := exists_of_isOk written
  obtain ⟨found, located, table⟩ := exists_of_bind_eq_ok rows
  have running : demonstrationServer.Running demonstrationWorld := running_demonstration
  rw [demonstrationServer] at running ⊢
  obtain ⟨status, bytes, agree, succeeds⟩ :=
    csv_spellings_agree _ _ _ _ demonstrationWorld moviesReference wellFormed (by decide) rfl
  obtain ⟨rfl, rfl⟩ := (succeeds csv).mpr ⟨running, by decide, found, located, table⟩
  refine ⟨wellFormed, found, bytes, located, table, fun spelling => ?_⟩
  obtain ⟨response, after, served, status, content⟩ :=
    agree spelling _ (spelling.spells_request moviesReference)
  obtain ⟨contentType, -, body⟩ := content rfl
  exact ⟨response, after, served, status, contentType, body⟩

end Http
end DatasetService
