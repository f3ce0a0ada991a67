import DatasetService.Proofs.Json.Members
import DatasetService.Proofs.Store.Consistency
import DatasetService.Proofs.Store.Immutability
import DatasetService.Proofs.Store.Tables
import DatasetService.Store.Query

set_option autoImplicit false

/- Rendering stored versions. Whatever was done to a store, what its versions are made of is sound
and not too deep, so that their text parses again; only the whole of a version may be one level too
deep for that. -/
namespace DatasetService

open Json (Value Members)

section films

open Store

theorem within_film (title : String) {year : Nat} (small : year < 2 ^ 64) (rating : Nat)
    {limit : Nat} : ∀ cell ∈ film title year rating, cell.Within limit := by
  have decimal : (tenths rating).Within limit := by
    unfold tenths
    split
    · rename_i value rounds
      exact .number (Binary.fits_of_ofDecimal (by decide) (by decide) rounds)
    · exact .null
  simp only [film, List.forall_mem_cons]
  exact ⟨.string title, .ofNat small, decimal, fun _ => by simp⟩

theorem holds_films (now : Instant) (age : Nat) {limit : Nat} :
    (filmSnapshot now age).table.Holds limit := by
  intro row member
  have all : ∀ row ∈ films, ∀ cell ∈ row, cell.Within limit := by
    simp only [films, List.forall_mem_cons]
    exact ⟨within_film _ (by decide) _, within_film _ (by decide) _, within_film _ (by decide) _,
      within_film _ (by decide) _, within_film _ (by decide) _, fun _ => by simp⟩
  exact all row (List.mem_of_mem_take member)

theorem even_films (now : Instant) (age : Nat) : (filmSnapshot now age).table.Even none := by
  intro row member
  have all : ∀ row ∈ films, row.length = 3 := by
    simp only [films, List.forall_mem_cons]
    exact ⟨rfl, rfl, rfl, rfl, rfl, fun _ => by simp⟩
  exact all row (List.mem_of_mem_take member)

end films

namespace Table

/-- A table that was read from an upload, or is one of the demonstration. -/
def Given (table : Table) : Prop :=
  (∃ upload, ofUpload upload = .ok table) ∨ ∃ now age, table = (Store.filmSnapshot now age).table

variable {table : Table}

theorem Given.holds (given : table.Given) : table.Holds 125 := by
  rcases given with ⟨upload, read⟩ | ⟨now, age, rfl⟩
  · exact holds_ofUpload read
  · exact holds_films now age

theorem Given.even_or_ragged (given : table.Given) :
    table.Even none ∨ ∃ upload, ofUpload upload = .ok table ∧ Ragged upload := by
  rcases given with ⟨upload, read⟩ | ⟨now, age, rfl⟩
  · by_cases even : table.Even none
    · exact Or.inl even
    · exact Or.inr ⟨upload, read, ragged_of_uneven read even⟩
  · exact Or.inl (even_films now age)

theorem Given.holds_or_deep (given : table.Given) :
    table.Holds 124 ∨ ∃ upload, ofUpload upload = .ok table ∧ Deep upload := by
  rcases given with ⟨upload, read⟩ | ⟨now, age, rfl⟩
  · by_cases deep : Deep upload
    · exact Or.inr ⟨upload, read, deep⟩
    · exact Or.inl (holds_of_not_deep read deep)
  · exact Or.inl (holds_films now age)

end Table

namespace Snapshot

/-- A version whose metadata is one level deep, and whose table was read. -/
structure Renderable (snapshot : Snapshot) : Prop where
  metadata : snapshot.metadata.Within 1
  table : snapshot.table.Given

variable {snapshot : Snapshot}

theorem select_body (snapshot : Snapshot) :
    snapshot.document.select? "body" = some (.array snapshot.table.objects) := by
  have segments : Text.splitWhere Json.isSelectorSeparator "body".toList = ["body".toList] := by
    decide
  unfold Value.select?
  rw [segments]
  unfold document Value.ofMembers
  simp only [Value.follow?, Value.child?, String.ofList_toList, Json.member?_ofMembers_append,
    Option.bind_some]

theorem within_optionalText (text : Option String) {limit : Nat} :
    (optionalText text).Within limit := by
  cases text with
  | none => exact .null
  | some text => exact .string text

theorem within_headerMembers (renderable : snapshot.Renderable)
    (counted : snapshot.table.rows.length ≤ Literal.maxCount) :
    ∀ member ∈ snapshot.headerMembers, member.2.Within 2 := by
  have entries : (Value.ofNat snapshot.table.rows.length).Within 1 :=
    .ofNat (Nat.lt_of_le_of_lt counted (by decide))
  have columns : (Value.array (snapshot.table.columns.map .string)).Within 1 := by
    refine Value.Within.array fun item member => ?_
    obtain ⟨column, -, rfl⟩ := List.mem_map.mp member
    exact .string column
  have commit : ∀ member ∈ ([("title", .string snapshot.version.commitTitle),
      ("message", optionalText snapshot.version.commitMessage),
      ("timestamp", .string snapshot.version.commitTime.offsetText)] : Members),
      member.2.Within 1 := by
    simp only [List.forall_mem_cons]
    exact ⟨.string _, within_optionalText _, .string _, fun _ => by simp⟩
  have shape : ∀ member ∈ ([("format", .string "csv"),
      ("columns", .array (snapshot.table.columns.map .string)),
      ("entries", .ofNat snapshot.table.rows.length)] : Members), member.2.Within 1 := by
    simp only [List.forall_mem_cons]
    exact ⟨.string _, columns, entries, fun _ => by simp⟩
  simp only [headerMembers, List.forall_mem_cons]
  exact ⟨.string _, .string _, .string _, .ofMembers commit, renderable.metadata.mono (by decide),
    .ofMembers shape, fun _ => by simp⟩

/-- The whole of a version is three levels deeper than its cells. -/
theorem within_document (renderable : snapshot.Renderable)
    (counted : snapshot.table.rows.length ≤ Literal.maxCount) {limit : Nat}
    (holds : snapshot.table.Holds limit) : snapshot.document.Within (limit + 3) := by
  refine .ofMembers fun member inside => ?_
  rcases List.mem_append.mp inside with head | body
  · exact (within_headerMembers renderable counted member head).mono (by omega)
  · cases List.mem_singleton.mp body
    have all := Table.within_objects holds snapshot.table.objects.length
    rwa [List.take_length] at all

/-- The whole of a version is too deep only if it was uploaded as deep as it can be. -/
theorem shallow_or_deep (renderable : snapshot.Renderable)
    (counted : snapshot.table.rows.length ≤ Literal.maxCount) :
    snapshot.document.depth < Json.depthLimit ∨
      ∃ upload, Table.ofUpload upload = .ok snapshot.table ∧ Table.Deep upload :=
  renderable.table.holds_or_deep.imp_left fun holds =>
    Nat.lt_succ_of_le (within_document renderable counted holds).depth

theorem parse_document_iff (renderable : snapshot.Renderable)
    (counted : snapshot.table.rows.length ≤ Literal.maxCount) :
    (∃ read, Json.parse (Text.bytesOf snapshot.document.compact) = .ok read) ↔
      snapshot.document.depth < Json.depthLimit :=
  Json.parse_compact_iff (within_document renderable counted renderable.table.holds).sound

theorem parse_rows (renderable : snapshot.Renderable) (count : Nat) :
    ∃ read, Json.parse (Text.bytesOf (Value.array (snapshot.table.objects.take count)).compact) =
      .ok read := by
  have within := Table.within_objects renderable.table.holds count
  exact (Json.parse_compact_iff within.sound).mpr (Nat.lt_succ_of_le within.depth)

theorem parse_body (renderable : snapshot.Renderable) :
    ∃ read, Json.parse (Text.bytesOf (Value.array snapshot.table.objects).compact) =
      .ok read := by
  have all := parse_rows renderable snapshot.table.objects.length
  rwa [List.take_length] at all

end Snapshot

namespace Store

/-- Every stored version is made of what can be rendered. -/
def Renderable (store : Store) : Prop :=
  ∀ key, ∀ snapshot ∈ store.versions key, snapshot.Renderable

variable {store after : Store}

/-- A new table was read from an upload, or is the one before. -/
theorem given_newTable {reference : Reference} {previous : Option Snapshot} {body : Option Upload}
    {table : Table} {bodySize : Nat} (old : ∀ snapshot ∈ previous, snapshot.table.Given)
    (read : newTable reference previous body = .ok (table, bodySize)) : table.Given := by
  cases body with
  | some upload =>
      cases made : Table.ofUpload upload with
      | error error =>
          rw [newTable, made] at read
          cases read
      | ok found =>
          rw [newTable, made] at read
          cases read
          exact Or.inl ⟨upload, made⟩
  | none =>
      cases previous with
      | none => cases read
      | some snapshot =>
          cases read
          exact old snapshot rfl

theorem renderable_newSnapshot {reference : Reference} {request : SaveRequest} {time : Instant}
    {table : Table} {bodySize : Nat} (renderable : store.Renderable)
    (read : newTable reference (store.versions reference.key).head? request.body =
      .ok (table, bodySize)) :
    (store.newSnapshot reference request time table bodySize).Renderable := by
  have old := renderable reference.key
  constructor
  · unfold newSnapshot
    dsimp only
    cases previous : (store.versions reference.key).head? with
    | none =>
        refine .ofMembers fun member inside => ?_
        cases List.mem_singleton.mp inside
        exact .string _
    | some snapshot => exact (old snapshot (List.mem_of_head? previous)).metadata
  · exact given_newTable (fun snapshot previous => (old snapshot
      (List.mem_of_head? previous)).table) read

theorem renderable_marked {key : DatasetKey} (renderable : store.Renderable) (published : Bool) :
    ∀ snapshot ∈ store.marked key published, snapshot.Renderable := by
  intro snapshot member
  obtain ⟨old, known, rfl⟩ := mem_marked member
  exact ⟨(renderable key old known).metadata, (renderable key old known).table⟩

theorem renderable_setHistory {key : DatasetKey} {history : List Snapshot}
    (renderable : store.Renderable) (all : ∀ snapshot ∈ history, snapshot.Renderable) :
    (store.setHistory key history).Renderable := by
  intro other snapshot member
  rw [versions_setHistory] at member
  split at member
  · exact all snapshot member
  · exact renderable other snapshot member

theorem renderable_step {change : Change} (step : Step store change after)
    (renderable : store.Renderable) : after.Renderable := by
  cases step with
  | unchanged => exact renderable
  | remoteAdded unknown => exact renderable
  | saved read =>
      refine renderable_setHistory renderable fun snapshot member => ?_
      rcases List.mem_cons.mp member with rfl | older
      · exact renderable_newSnapshot renderable read
      · exact renderable _ snapshot older
  | published nonempty known =>
      exact renderable_setHistory renderable (renderable_marked renderable true)
  | unpublished nonempty known =>
      exact renderable_setHistory renderable (renderable_marked renderable false)

theorem renderable_filmSnapshot (now : Instant) (age : Nat) :
    (filmSnapshot now age).Renderable := by
  constructor
  · refine .ofMembers fun member inside => ?_
    simp only [List.mem_cons, List.not_mem_nil, or_false] at inside
    rcases inside with rfl | rfl
    · exact .string _
    · exact .string _
  · exact Or.inr ⟨now, age, rfl⟩

theorem renderable_start (start : Start) : start.store.Renderable := by
  cases start with
  | empty =>
      intro key snapshot member
      cases member
  | seeded clock profileId =>
      intro key snapshot member
      obtain ⟨-, age, -, rfl⟩ := mem_seeded member
      exact renderable_filmSnapshot _ _

/-- Whatever was done to a store, its versions can be rendered. -/
theorem renderable_run (start : Start) (changes : List Change) :
    (start.store.run changes).Renderable :=
  run_keeps renderable_step changes (renderable_start start)

/-- What is stored at a path is found there. -/
theorem exists_of_stored {key : DatasetKey} {path : String} (stored : store.Stored key path) :
    ∃ found ∈ store.versions key, found.version.path = path ∧
      ∀ reference : Reference, reference.key = key → reference.path = some path →
        store.snapshot reference = .ok found := by
  obtain ⟨found, older, equal⟩ := exists_since stored
  have member : found ∈ since path (store.versions key) := equal ▸ List.mem_cons_self
  have reached : found.version.path = path := by
    have stops := List.head?_dropWhile_not (fun snapshot => snapshot.version.path != path)
      (store.versions key)
    unfold since at equal
    rw [equal] at stops
    simpa using stops
  refine ⟨found, (List.dropWhile_sublist _).mem member, reached, ?_⟩
  rintro reference rfl given
  simp only [snapshot, history?_of_stored stored, given, fromPath?_of_stored stored, equal,
    Option.bind_some, List.head?_cons]

section readings

variable {reference : Reference} {found : Snapshot}

/-- Content that is there if a table is even, and else a failure of the store itself. -/
def Written (even : Prop) (answer : Except StoreError Payload) : Prop :=
  (even → ∃ content, answer = .ok content) ∧
    (¬ even → answer = .error (.internal "writing csv row"))

theorem written_csv (table : Table) (limit : Option Nat) :
    Written (table.Even limit) (do return .bytes (← table.csv limit)) := by
  constructor
  · intro even
    exact ⟨_, bind_of_eq_ok (Table.csv_of_even even) _⟩
  · intro uneven
    rw [bind_of_eq_error (Table.csv_of_uneven uneven)]

theorem written_archive (snapshot : Snapshot) :
    Written (snapshot.table.Even none) (do return .archive (← snapshot.archive)) := by
  unfold Snapshot.archive
  constructor
  · intro even
    rw [bind_of_eq_ok (Table.csv_of_even even)]
    exact ⟨_, rfl⟩
  · intro uneven
    rw [bind_of_eq_error (Table.csv_of_uneven uneven)]
    rfl

theorem get_document (located : store.snapshot reference = .ok found)
    (whole : reference.selector = none) :
    store.get reference .json = .ok (.bytes (Text.bytesOf found.document.compact)) := by
  rw [get, bind_of_eq_ok located]
  simp only [whole]
  rfl

theorem get_body (located : store.snapshot reference = .ok found)
    (body : reference.selector = some "body") :
    store.get reference .json =
      .ok (.bytes (Text.bytesOf (Value.array found.table.objects).compact)) := by
  rw [get, bind_of_eq_ok located]
  simp only [body, found.select_body]
  rfl

theorem get_csv_whole (located : store.snapshot reference = .ok found)
    (whole : reference.selector = none) :
    store.get reference .csv = (do return .bytes (← found.table.csv none)) := by
  rw [get, bind_of_eq_ok located]
  simp only [whole]

theorem get_csv (located : store.snapshot reference = .ok found)
    (tabular : reference.selector = none ∨ reference.selector = some "body") :
    Written (found.table.Even none) (store.get reference .csv) := by
  rcases tabular with whole | body
  · rw [get_csv_whole located whole]
    exact written_csv found.table none
  · rw [get, bind_of_eq_ok located]
    simp only [body]
    exact written_csv found.table none

theorem get_zip (located : store.snapshot reference = .ok found)
    (whole : reference.selector = none) :
    Written (found.table.Even none) (store.get reference .zip) := by
  rw [get, bind_of_eq_ok located]
  simp only [whole]
  exact written_archive found

/-- What a query answers, as it was read. -/
theorem exec_of_read {text : String} {query : Query} (read : Query.parse text = .ok query)
    (located : store.snapshot query.reference = .ok found) :
    store.exec text .json = .ok (.bytes (Table.arrayBytes (found.table.firstObjects query.limit))) ∧
      store.exec text .csv = (do return .bytes (← found.table.csv query.limit)) := by
  constructor
  · rw [exec, bind_of_eq_ok read, bind_of_eq_ok located]
    cases query.limit with
    | none => rfl
    | some count => rfl
  · rw [exec, bind_of_eq_ok read, bind_of_eq_ok located]

theorem exec_csv {text : String} {query : Query} (read : Query.parse text = .ok query)
    (located : store.snapshot query.reference = .ok found) :
    Written (found.table.Even query.limit) (store.exec text .csv) := by
  rw [(exec_of_read read located).2]
  exact written_csv found.table query.limit

theorem exec_json {text : String} {query : Query} (read : Query.parse text = .ok query)
    (located : store.snapshot query.reference = .ok found) :
    ∃ count, store.exec text .json =
      .ok (.bytes (Text.bytesOf (Value.array (found.table.objects.take count)).compact)) := by
  rw [(exec_of_read read located).1]
  cases query.limit with
  | none => exact ⟨found.table.objects.length, by rw [List.take_length]; rfl⟩
  | some count => exact ⟨count, rfl⟩

end readings

end Store
end DatasetService
