import DatasetService.Proofs.Number.ReadBack
import DatasetService.Proofs.Store.Consistency
import DatasetService.Proofs.Store.CsvUpload
import DatasetService.Proofs.Store.Rendering

set_option autoImplicit false

/- Rows that are exported and saved again. Once a cell has its type it keeps it: what is written for
it is read as the same value, and so a table of CSV is a fixed point of export and import. -/
namespace DatasetService

open Text (Bytes)

namespace Table

/-- The text that a cell comes back as has the value of the cell. -/
theorem cellValue_retyped {text returned : String} (retyped : Retyped text returned) :
    cellValue returned = cellValue text := by
  cases retyped with
  | @integer value typed =>
      obtain ⟨low, high⟩ := bounds_of_signed? typed
      simp only [cellValue, typed, Literal.signed?_toString low high]
  | @float number notInteger typed =>
      have again := Literal.finite?_text (Literal.canonical_of_finite? typed)
      simp only [cellValue, String.toList_ofList, Literal.signed?_text, again, notInteger, typed]
  | kept => rfl

theorem cellValue_cellText (text : String) :
    cellValue (cellText (cellValue text)) = cellValue text :=
  cellValue_retyped ((retyped_iff text _).mpr rfl)

/-- A table that was read from CSV, and whose header is read back when it is written. -/
structure FromCsv (table : Table) : Prop where
  uploaded : ∃ upload : Upload, upload.ReadAsCsv ∧ ofUpload upload = .ok table
  full : table.columns ≠ []
  unmarked : ∀ column ∈ table.columns.head?, column.toList.head? ≠ some Csv.byteOrderMark

/-- A table of CSV is written, and what is written is the same table again. -/
theorem FromCsv.exists_csv {table : Table} (fromCsv : table.FromCsv) :
    ∃ exported, table.csv none = .ok exported ∧
      ∀ upload : Upload, upload.bytes = exported → upload.ReadAsCsv →
        ofUpload upload = .ok table := by
  obtain ⟨⟨first, tabular, read⟩, full, unmarked⟩ := fromCsv
  rw [ofUpload_csv tabular] at read
  obtain ⟨text, written, sent⟩ := csv_of_ofCsv read
  obtain ⟨columns, rows, -, rfl⟩ := ofCsv_eq_ok read
  refine ⟨_, sent, ?_⟩
  rintro upload same again
  have typed : (((rows.map (·.map cellValue)).map (·.map cellText)).map (·.map cellValue)) =
      rows.map (·.map cellValue) := by
    simp [cellValue_cellText]
  rw [ofUpload_csv again, same, ofCsv, Csv.read_write written full unmarked]
  dsimp only
  rw [typed]

end Table

namespace Store

/-- What is done with rows that were exported: after some other calls they are saved as the next
version of a dataset. -/
structure Reimport where
  before : List Change
  target : Reference
  title : Option String
  message : Option String
  filename : Option String
  contentType : Option String
  time : Instant

namespace Reimport

variable (round : Reimport) (exported : Bytes)

def upload : Upload :=
  { filename := round.filename, contentType := round.contentType, bytes := exported }

def request : SaveRequest :=
  { title := round.title, message := round.message, body := some (round.upload exported) }

end Reimport

/-- The rows of an archive. -/
def bodyFile? (entries : List ArchiveEntry) : Option Bytes :=
  (entries.find? (·.name == "body.csv")).map ArchiveEntry.bytes

/-- The file of rows in the export of a version. -/
def exportBody (store : Store) (source : Reference) : Except StoreError (Option Bytes) := do
  match ← store.get { source with selector := none } .zip with
  | .archive entries => return bodyFile? entries
  | .bytes _ => return none

/-- Export a version and save its rows. Without rows there is nothing to save. -/
def reimport (store : Store) (source : Reference) (round : Reimport) :
    Except StoreError (Version × Store) := do
  match ← store.exportBody source with
  | some exported =>
      (store.run round.before).save round.target (round.request exported) round.time
  | none => .error (.internal "archive without rows")

/-- Export and save again and again, each time what was saved last. -/
def reimports (store : Store) (source : Reference) :
    List Reimport → Except StoreError (Store × Reference)
  | [] => .ok (store, source)
  | round :: rounds => do
      let (_, after) ← store.reimport source round
      after.reimports { round.target with path := none } rounds

/-- A version that is found is one of the dataset's. -/
theorem mem_versions_of_snapshot {store : Store} {reference : Reference} {found : Snapshot}
    (located : store.snapshot reference = .ok found) : found ∈ store.versions reference.key := by
  unfold snapshot at located
  split at located
  · cases located
  · rename_i history known
    rw [versions_of_history? known]
    split at located
    · rename_i newest first
      cases located
      obtain ⟨rest, starts, head⟩ := Option.bind_eq_some_iff.mp first
      have member := List.mem_of_mem_head? head
      unfold fromPath? at starts
      split at starts
      · cases starts
        exact member
      · split at starts
        · cases starts
        · cases starts
          exact (List.dropWhile_sublist _).subset member
    · cases located

theorem exportBody_eq {store : Store} {source : Reference} {found : Snapshot} {exported : Bytes}
    (located : store.snapshot source = .ok found) (written : found.table.csv none = .ok exported) :
    store.exportBody source = .ok (some exported) := by
  have archive : found.archive =
      .ok [{ name := "dataset.json", bytes := Text.bytesOf found.header.pretty },
        { name := "body.csv", bytes := exported }] := by
    rw [Snapshot.archive, bind_of_eq_ok written]
    rfl
  have sent : store.get { source with selector := none } .zip =
      .ok (.archive [{ name := "dataset.json", bytes := Text.bytesOf found.header.pretty },
        { name := "body.csv", bytes := exported }]) := by
    rw [get, bind_of_eq_ok (snapshot_of_selector located none)]
    dsimp only
    rw [bind_of_eq_ok archive]
    rfl
  rw [exportBody, bind_of_eq_ok sent]
  rfl

/-- A version has the given rows, and as many as it says. -/
structure HasRows (store : Store) (reference : Reference) (table : Table) (saved : Snapshot) :
    Prop where
  located : store.snapshot reference = .ok saved
  same : saved.table = table
  counted : saved.version.bodyRows = table.rows.length

section rounds

variable {store : Store} {source : Reference} {table : Table} {exported : Bytes}

/-- Rows that are exported are saved again as they are. -/
theorem reimport_keeps (written : table.csv none = .ok exported) {round : Reimport}
    (again : Table.ofUpload (round.upload exported) = .ok table) {found : Snapshot}
    (has : HasRows store source table found) :
    ∃ version after saved, store.reimport source round = .ok (version, after) ∧
      HasRows after { round.target with path := none } table saved := by
  obtain ⟨located, rfl, -⟩ := has
  have read : newTable round.target ((store.run round.before).versions round.target.key).head?
      (round.request exported).body = .ok (found.table, exported.length) :=
    newTable_eq_ok_iff.mpr ⟨again, rfl⟩
  obtain ⟨version, after, success, counted⟩ : ∃ version after,
      (store.run round.before).save round.target (round.request exported) round.time =
        .ok (version, after) ∧ version.bodyRows = found.table.rows.length :=
    ⟨_, _, (save_eq_ok_iff ..).mpr ⟨_, _, read, rfl, rfl⟩, rfl⟩
  obtain ⟨saved, rfl, stored, latest⟩ := exists_snapshot_of_save rfl success
  have same : saved.table = found.table := Except.ok.inj (stored.symm.trans again)
  refine ⟨saved.version, after, saved, ?_, latest none _ (Or.inl rfl), same, counted⟩
  rw [reimport, bind_of_eq_ok (exportBody_eq located written)]
  exact success

theorem reimports_keep (written : table.csv none = .ok exported) (rounds : List Reimport)
    (again : ∀ round ∈ rounds, Table.ofUpload (round.upload exported) = .ok table)
    {found : Snapshot} (has : HasRows store source table found) :
    ∃ last reference saved, store.reimports source rounds = .ok (last, reference) ∧
      HasRows last reference table saved := by
  -- What was saved last has the rows again, and is what the next round exports.
  induction rounds generalizing store source found with
  | nil => exact ⟨store, source, found, rfl, has⟩
  | cons round rounds ih =>
      obtain ⟨version, after, saved, once, has⟩ :=
        reimport_keeps written (again round List.mem_cons_self) has
      obtain ⟨last, reference, final, rest, has⟩ :=
        ih (fun other member => again other (List.mem_cons_of_mem _ member)) has
      refine ⟨last, reference, final, ?_, has⟩
      rw [reimports, bind_of_eq_ok once]
      exact rest

end rounds

/-- What is sent of the rows of a version: as JSON, as CSV, and in its export. -/
structure SendsRows (store : Store) (reference : Reference) (json exported : Bytes) : Prop where
  json : store.get { reference with selector := some "body" } .json = .ok (.bytes json)
  csv : store.get { reference with selector := some "body" } .csv = .ok (.bytes exported)
  archived : store.exportBody reference = .ok (some exported)

theorem sendsRows {store : Store} {reference : Reference} {found : Snapshot} {exported : Bytes}
    (located : store.snapshot reference = .ok found)
    (written : found.table.csv none = .ok exported) :
    SendsRows store reference
      (Text.bytesOf (Json.Value.array found.table.objects).compact) exported where
  json := get_body (snapshot_of_selector located (some "body")) rfl
  csv := get_body_csv (snapshot_of_selector located (some "body")) rfl written
  archived := exportBody_eq located written

/-- Export and import are stable. The rows of a version that came from CSV can be exported and saved
again as CSV any number of times, in any dataset and whatever else is done in between: the columns
and the typed rows stay the same, and so does all that is sent of them. -/
theorem reimports_keep_rows (start : Start) (changes : List Change) {source : Reference}
    {found : Snapshot} (located : (start.store.run changes).snapshot source = .ok found)
    (fromCsv : found.table.FromCsv) :
    ∃ json exported, SendsRows (start.store.run changes) source json exported ∧
      ∀ rounds : List Reimport, (∀ round ∈ rounds, (round.upload exported).ReadAsCsv) →
        ∃ last reference saved,
          (start.store.run changes).reimports source rounds = .ok (last, reference) ∧
          last.snapshot reference = .ok saved ∧ saved.table = found.table ∧
          saved.version.bodyRows = found.version.bodyRows ∧
          SendsRows last reference json exported := by
  have consistent : Consistent (start.store.run changes) :=
    run_keeps consistent_step changes (consistent_start start)
  have counted := (consistent.isLocal _ found (mem_versions_of_snapshot located)).counted
  obtain ⟨exported, written, again⟩ := fromCsv.exists_csv
  refine ⟨_, exported, sendsRows located written, fun rounds tabular => ?_⟩
  obtain ⟨last, reference, saved, success, has⟩ := reimports_keep written rounds
    (fun round member => again _ rfl (tabular round member)) ⟨located, rfl, counted⟩
  have sends := sendsRows has.located (has.same ▸ written)
  rw [has.same] at sends
  exact ⟨last, reference, saved, success, has.located, has.same, has.counted.trans counted.symm,
    sends⟩

section prices

/-- The prices are saved again in their dataset, and then in another one. -/
def pricesRounds : List Reimport :=
  [{ before := [], target := pricesReference, title := none, message := none,
     filename := some "body.csv", contentType := none, time := secondsClock 2 },
   { before := [.addRemote "archive"], target := { username := "peer", name := "copies" },
     title := none, message := none, filename := none, contentType := some "text/csv",
     time := secondsClock 3 }]

theorem fromCsv_prices : pricesTable.FromCsv where
  uploaded := by
    refine ⟨pricesUpload, readAsCsv_prices, ?_⟩
    rw [Table.ofUpload_csv readAsCsv_prices, Table.ofCsv, read_prices]
    rfl
  full := by decide
  unmarked := by decide

theorem prices_reimported : ∃ json last reference saved,
    SendsRows pricesStore pricesReference json (Text.bytesOf "item,price\ntea,1.5\n") ∧
    pricesStore.reimports pricesReference pricesRounds = .ok (last, reference) ∧
    last.snapshot reference = .ok saved ∧ saved.table = pricesTable ∧
    saved.version.bodyRows = 1 ∧
    SendsRows last reference json (Text.bytesOf "item,price\ntea,1.5\n") := by
  have reached : Start.empty.store.run [.save pricesReference pricesRequest (secondsClock 1)] =
      pricesStore := by
    change kept new (new.save pricesReference pricesRequest (secondsClock 1)) = pricesStore
    rw [save_prices]
    rfl
  have located : pricesStore.snapshot pricesReference = .ok pricesSnapshot :=
    snapshot_of_setHistory new pricesReference.key _ _ rfl (by simp [pricesReference])
  have written : pricesSnapshot.table.csv none =
      .ok (Text.bytesOf "item,price\ntea,1.5\n") := by
    decide +kernel
  obtain ⟨json, exported, sends, keeps⟩ := reimports_keep_rows .empty
    [.save pricesReference pricesRequest (secondsClock 1)] (reached.symm ▸ located) fromCsv_prices
  rw [reached] at sends keeps
  cases sends.archived.symm.trans (exportBody_eq located written)
  have tabular : ∀ round ∈ pricesRounds, (round.upload
      (Text.bytesOf "item,price\ntea,1.5\n")).ReadAsCsv := by
    intro round member
    simp only [pricesRounds, List.mem_cons, List.not_mem_nil, or_false] at member
    rcases member with rfl | rfl
    · exact Or.inl (by decide)
    · exact Or.inl (by decide)
  obtain ⟨last, reference, saved, success, latest, table, rows, sent⟩ := keeps pricesRounds tabular
  exact ⟨json, last, reference, saved, sends, success, latest, table, rows, sent⟩

end prices

end Store
end DatasetService
