import DatasetService.Proofs.Csv.ReadBack
import DatasetService.Proofs.Number.ReadBack
import DatasetService.Proofs.Store.Run
import DatasetService.Proofs.Store.Tables

set_option autoImplicit false

/- What becomes of a table that is uploaded as CSV. Its cells are given types when it is saved, and
are texts again when the rows are asked for as CSV. -/
namespace DatasetService

open Text (Bytes)

/-- An upload that is taken for CSV: by its type or its name, or for want of a type because it is
not JSON. -/
def Upload.ReadAsCsv (upload : Upload) : Prop :=
  upload.isCsv = true ∨
    upload.contentType = none ∧ ∀ value, Json.parse upload.bytes ≠ .ok value

namespace Table

/-- The text of a cell and what it comes back as. Integers of 64 bits and other finite numbers come
back as JSON writes them, and everything else as it was. -/
inductive Retyped (text : String) : String → Prop
  | integer {value : Int} (typed : Literal.signed? text.toList = some value) :
      Retyped text (toString value)
  | float {number : Binary} (notInteger : Literal.signed? text.toList = none)
      (typed : Literal.finite? .double text.toList = some number) :
      Retyped text (String.ofList (number.text .double))
  | kept (notInteger : Literal.signed? text.toList = none)
      (notFinite : Literal.finite? .double text.toList = none) : Retyped text text

/-- What a cell comes back as is the text of the value that is stored for it. -/
theorem retyped_iff (text returned : String) :
    Retyped text returned ↔ returned = cellText (cellValue text) := by
  unfold cellValue
  constructor
  · intro retyped
    cases retyped with
    | integer typed =>
        rw [typed]
        exact String.ofList_toList.symm
    | float notInteger typed =>
        rw [notInteger, typed]
        rfl
    | kept notInteger notFinite =>
        rw [notInteger, notFinite]
        rfl
  · rintro rfl
    cases integer : Literal.signed? text.toList with
    | some value =>
        have written : cellText (.ofInt value) = toString value := String.ofList_toList
        rw [written]
        exact .integer integer
    | none =>
        cases float : Literal.finite? .double text.toList with
        | some number => exact .float integer float
        | none => exact .kept integer float

/-- A number that JSON spells as the text does, with a fraction or an exponent. -/
structure JsonReal (text : String) : Prop where
  marked : ∃ mark ∈ text.toList, mark = '.' ∨ mark = 'e' ∨ mark = 'E'
  read : ∃ number, Json.parse (Text.bytesOf text) = .ok (.number number)

/-- What is promised of the text that a cell comes back as. It is the text of the cell, unless that
is a number. Plain integers of 64 bits are kept too, and a number as JSON spells it comes back as
JSON writes it. Nothing is said of numbers that are spelled in other ways. -/
structure ComesBack (text returned : String) : Prop where
  kept : Literal.signed? text.toList = none → Literal.finite? .double text.toList = none →
    returned = text
  integer : ∀ value : Int, Literal.minSigned ≤ value → value ≤ Literal.maxSigned →
    text = toString value → returned = text
  real : ∀ number, JsonReal text → Literal.finite? .double text.toList = some number →
    returned = String.ofList (number.text .double)

theorem JsonReal.signed?_eq_none {text : String} (real : JsonReal text) :
    Literal.signed? text.toList = none := by
  obtain ⟨mark, member, rfl | rfl | rfl⟩ := real.marked
  all_goals exact Literal.signed?_eq_none member (by decide) (by decide)

theorem Retyped.comesBack {text returned : String} (retyped : Retyped text returned) :
    ComesBack text returned := by
  cases retyped with
  | @integer value typed =>
      refine ⟨fun notInteger => ?_, fun same low high written => ?_, fun number real => ?_⟩
      · cases notInteger.symm.trans typed
      · rw [written, Literal.signed?_toString low high] at typed
        rw [written, Option.some.inj typed]
      · cases real.signed?_eq_none.symm.trans typed
  | @float number notInteger typed =>
      refine ⟨fun _ notFinite => ?_, fun value low high written => ?_, fun other _ same => ?_⟩
      · cases notFinite.symm.trans typed
      · rw [written, Literal.signed?_toString low high] at notInteger
        cases notInteger
      · rw [Option.some.inj (typed.symm.trans same)]
  | kept notInteger notFinite =>
      refine ⟨fun _ _ => rfl, fun _ _ _ _ => rfl, fun number _ typed => ?_⟩
      cases notFinite.symm.trans typed

theorem ofUpload_csv {upload : Upload} (tabular : upload.ReadAsCsv) :
    ofUpload upload = ofCsv upload.bytes := by
  unfold ofUpload
  split
  · rfl
  · rename_i untyped
    rcases tabular with csv | ⟨bare, noJson⟩
    · exact absurd csv untyped
    · split
      · rename_i value parsed
        exact absurd parsed (noJson value)
      · rw [bare]
        rfl

theorem ofCsv_eq_ok {bytes : Bytes} {table : Table} (read : ofCsv bytes = .ok table) :
    ∃ columns rows, Csv.read bytes = .ok (columns, rows) ∧
      table = { columns, rows := rows.map (·.map cellValue) } := by
  unfold ofCsv at read
  split at read
  · cases read
  · rename_i columns rows decoded
    cases read
    exact ⟨columns, rows, decoded, rfl⟩

/-- A table that is read from CSV is written as CSV. -/
theorem csv_of_ofCsv {bytes : Bytes} {table : Table} (read : ofCsv bytes = .ok table) :
    ∃ text, Csv.write? table.columns (table.rows.map (·.map cellText)) = some text ∧
      table.csv none = .ok (Text.encode text) := by
  have same := csv_of_even (even_ofCsv read)
  unfold csv at same ⊢
  split at same
  · rename_i text given
    exact ⟨text, given, rfl⟩
  · cases same

theorem rows_comeBack (rows : List (List String)) :
    List.Forall₂ (List.Forall₂ ComesBack) rows
      ((rows.map (·.map cellValue)).map (·.map cellText)) := by
  simp only [List.map_map, List.forall₂_map_right_iff, List.forall₂_same, Function.comp_apply]
  exact fun row _ text _ => ((retyped_iff text _).mpr rfl).comesBack

end Table

namespace Store

/-- The version that was saved is the latest, and it is found by its path too. -/
theorem snapshot_of_setHistory (store : Store) (key : DatasetKey) (newest : Snapshot)
    (older : List Snapshot) {reference : Reference} (same : reference.key = key)
    (addressed : ∀ path ∈ reference.path, path = newest.version.path) :
    (store.setHistory key (newest :: older)).snapshot reference = .ok newest := by
  have versions := versions_setHistory store key reference.key (newest :: older)
  rw [if_pos same] at versions
  exact snapshot_of_versions versions addressed

/-- The table of a new version with content is read from it. -/
theorem newTable_eq_ok_iff {reference : Reference} {previous : Option Snapshot} {upload : Upload}
    {table : Table} {bodySize : Nat} :
    newTable reference previous (some upload) = .ok (table, bodySize) ↔
      Table.ofUpload upload = .ok table ∧ bodySize = upload.bytes.length := by
  rw [newTable]
  cases Table.ofUpload upload with
  | error error => simp [Except.map]
  | ok found => simp [Except.map, eq_comm]

/-- A version that was saved with content has its table, and is found by the name of the dataset and
by its own path. -/
theorem exists_snapshot_of_save {store after : Store} {reference : Reference}
    {request : SaveRequest} {upload : Upload} {time : Instant} {version : Version}
    (given : request.body = some upload)
    (saved : store.save reference request time = .ok (version, after)) :
    ∃ found, found.version = version ∧ Table.ofUpload upload = .ok found.table ∧
      ∀ path selector, path = none ∨ path = some version.path →
        after.snapshot { reference with path, selector } = .ok found := by
  obtain ⟨table, bodySize, read, rfl, rfl⟩ := (save_eq_ok_iff ..).mp saved
  rw [given, newTable_eq_ok_iff] at read
  refine ⟨_, rfl, read.1, fun path selector addressed => ?_⟩
  refine snapshot_of_setHistory store reference.key _ _ rfl ?_
  rintro given rfl
  rcases addressed with none | same
  · cases none
  · exact Option.some.inj same

theorem get_body_csv {store : Store} {reference : Reference} {found : Snapshot} {bytes : Bytes}
    (located : store.snapshot reference = .ok found) (body : reference.selector = some "body")
    (written : found.table.csv none = .ok bytes) :
    store.get reference .csv = .ok (.bytes bytes) := by
  rw [get, bind_of_eq_ok located]
  simp only [body]
  rw [bind_of_eq_ok written]
  rfl

/-- A table that is uploaded as CSV comes back with the same header, as many records, and as many
cells in each. Only numbers among the cells may be written anew. The document is read back as these
records, unless its header begins with a byte order mark of its own. -/
theorem csv_upload_comes_back {store after : Store} {reference : Reference} {request : SaveRequest}
    {upload : Upload} {time : Instant} {version : Version} (given : request.body = some upload)
    (tabular : upload.ReadAsCsv)
    (saved : store.save reference request time = .ok (version, after)) :
    ∃ columns rows, Csv.read upload.bytes = .ok (columns, rows) ∧
      (columns ≠ [] → ∃ sent text,
        List.Forall₂ (List.Forall₂ Table.ComesBack) rows sent ∧
        Csv.write? columns sent = some text ∧
        (∀ path, path = none ∨ path = some version.path →
          after.get { reference with path, selector := some "body" } .csv =
            .ok (.bytes (Text.encode text))) ∧
        ((∀ column ∈ columns.head?, column.toList.head? ≠ some Csv.byteOrderMark) →
          Csv.read (Text.encode text) = .ok (columns, sent))) := by
  obtain ⟨found, rfl, read, located⟩ := exists_snapshot_of_save given saved
  rw [Table.ofUpload_csv tabular] at read
  obtain ⟨columns, rows, decoded, typed⟩ := Table.ofCsv_eq_ok read
  obtain ⟨text, written, sent⟩ := Table.csv_of_ofCsv read
  rw [typed] at written
  refine ⟨columns, rows, decoded, fun full => ?_⟩
  exact ⟨_, text, Table.rows_comeBack rows, written,
    fun path addressed => get_body_csv (located path (some "body") addressed) rfl sent,
    Csv.read_write written full⟩

section prices

def pricesReference : Reference := { username := "peer", name := "prices" }

/-- One price, with two digits after the point. -/
def pricesUpload : Upload :=
  { filename := some "prices.csv", bytes := Text.bytesOf "item,price\ntea,1.50\n" }

def pricesRequest : SaveRequest := { body := some pricesUpload }

def pricesTable : Table :=
  { columns := ["item", "price"], rows := [["tea", "1.50"].map Table.cellValue] }

def pricesSnapshot : Snapshot :=
  new.newSnapshot pricesReference pricesRequest (secondsClock 1) pricesTable
    pricesUpload.bytes.length

def pricesStore : Store := new.setHistory pricesReference.key [pricesSnapshot]

theorem readAsCsv_prices : pricesUpload.ReadAsCsv := Or.inl (by decide)

theorem read_prices :
    Csv.read pricesUpload.bytes = .ok (["item", "price"], [["tea", "1.50"]]) := by
  decide +kernel

theorem save_prices : new.save pricesReference pricesRequest (secondsClock 1) =
    .ok (pricesSnapshot.version, pricesStore) := by
  have read : newTable pricesReference none (some pricesUpload) =
      .ok (pricesTable, pricesUpload.bytes.length) := by
    rw [newTable, Table.ofUpload_csv readAsCsv_prices, Table.ofCsv, read_prices]
    rfl
  exact (save_eq_ok_iff ..).mpr ⟨_, _, read, rfl, rfl⟩

/-- One and a half, as a double. -/
def price : Binary := { negative := false, significand := 3 * 2 ^ 51, exponent := -52 }

theorem jsonReal_price : Table.JsonReal "1.50" where
  marked := ⟨'.', by decide, Or.inl rfl⟩
  read := ⟨.float price, rfl⟩

theorem comesBack_prices {sent : List (List String)}
    (comesBack : List.Forall₂ (List.Forall₂ Table.ComesBack) [["tea", "1.50"]] sent) :
    sent = [["tea", "1.5"]] := by
  obtain ⟨row, rest, cells, none, rfl⟩ := List.forall₂_cons_left_iff.mp comesBack
  obtain ⟨item, more, keptItem, last, rfl⟩ := List.forall₂_cons_left_iff.mp cells
  obtain ⟨amount, others, written, noMore, rfl⟩ := List.forall₂_cons_left_iff.mp last
  rw [List.forall₂_nil_left_iff.mp none, List.forall₂_nil_left_iff.mp noMore,
    keptItem.kept (by decide) (by decide), written.real price jsonReal_price (by decide +kernel)]
  decide +kernel

theorem prices_come_back : ∃ text,
    pricesStore.get { pricesReference with selector := some "body" } .csv =
      .ok (.bytes (Text.encode text)) ∧
    Csv.read (Text.encode text) = .ok (["item", "price"], [["tea", "1.5"]]) := by
  obtain ⟨columns, rows, decoded, back⟩ :=
    csv_upload_comes_back rfl readAsCsv_prices save_prices
  cases read_prices.symm.trans decoded
  obtain ⟨sent, text, comesBack, -, got, readBack⟩ := back (by simp)
  obtain rfl := comesBack_prices comesBack
  exact ⟨text, got none (Or.inl rfl), readBack (by decide)⟩

/-- So a cell need not come back as the text that it was: a price loses its last digit. -/
theorem not_every_csv_upload_is_kept :
    ¬ ∀ (store after : Store) (reference : Reference) (request : SaveRequest) (upload : Upload)
      (time : Instant) (version : Version) (columns : List String) (rows : List (List String)),
      request.body = some upload → upload.ReadAsCsv →
      store.save reference request time = .ok (version, after) →
      Csv.read upload.bytes = .ok (columns, rows) → columns ≠ [] →
      ∃ bytes, after.get { reference with selector := some "body" } .csv = .ok (.bytes bytes) ∧
        Csv.read bytes = .ok (columns, rows) := by
  intro kept
  obtain ⟨bytes, got, read⟩ := kept _ _ _ _ _ _ _ _ _ rfl readAsCsv_prices save_prices read_prices
    (by simp)
  have located : pricesStore.snapshot { pricesReference with selector := some "body" } =
      .ok pricesSnapshot :=
    snapshot_of_setHistory new pricesReference.key _ _ rfl (by simp [pricesReference])
  have written : pricesSnapshot.table.csv none =
      .ok (Text.bytesOf "item,price\ntea,1.5\n") := by
    decide +kernel
  cases got.symm.trans (get_body_csv located rfl written)
  exact absurd read (by decide +kernel)

end prices

end Store
end DatasetService
