import DatasetService.Proofs.Store.QueryText
import DatasetService.Proofs.Store.Rendering

set_option autoImplicit false

/- What a query of a dataset has in common with the dataset. Without a limit it is the body, however
the query is spelled; with one it is the start of the body. -/
namespace DatasetService.Store

variable {store : Store} {reference : Reference} {found : Snapshot}

/-- Rows that are written are a header and records. -/
theorem bytes_of_csv {table : Table} {limit : Option Nat} {content : Payload}
    (written : (do return Payload.bytes (← table.csv limit)) = .ok content) :
    table.Even limit ∧
      content = .bytes (Table.recordBytes table.columns (table.firstRows limit)) := by
  obtain ⟨bytes, made, same⟩ := exists_of_bind_eq_ok written
  obtain ⟨even, rfl⟩ := Table.csv_eq_ok_iff.mp made
  cases same
  exact ⟨even, rfl⟩

/-- Queries agree with the documents that they are made of, however they are spelled. A query of a
dataset has its whole body, in JSON and in CSV; a limit keeps the first rows of it. -/
theorem exec_agrees_with_get (store : Store) (reference : Reference) (found : Snapshot)
    (wellFormed : reference.WellFormed) (named : reference.hasName = true)
    (whole : reference.selector = none) (located : store.snapshot reference = .ok found) :
    store.get { reference with selector := some "body" } .json =
        .ok (.bytes (Table.arrayBytes found.table.objects)) ∧
    (∀ text, Query.Spelling { reference, limit := none } text →
      store.exec text .json = store.get { reference with selector := some "body" } .json ∧
      store.exec text .csv = store.get reference .csv) ∧
    ∀ count, count ≤ Literal.maxCount → ∀ text,
      Query.Spelling { reference, limit := some count } text →
        store.exec text .json =
          .ok (.bytes (Table.arrayBytes (found.table.objects.take count))) ∧
        ∀ content, store.get reference .csv = .ok content →
          content = .bytes (Table.recordBytes found.table.columns found.table.rows) ∧
          store.exec text .csv =
            .ok (.bytes (Table.recordBytes found.table.columns (found.table.rows.take count))) := by
  have body := get_body (snapshot_of_selector located (some "body")) rfl
  have csv := get_csv_whole located whole
  refine ⟨body, ?_, ?_⟩
  · intro text spelling
    have read := Query.parse_spelling spelling wellFormed named
    obtain ⟨rows, records⟩ := exec_of_read read located
    exact ⟨rows.trans body.symm, records.trans csv.symm⟩
  · intro count bounded text spelling
    have read := Query.parse_spelling spelling wellFormed named
    rw [if_pos (by simpa using bounded)] at read
    obtain ⟨rows, records⟩ := exec_of_read read located
    refine ⟨rows, fun content written => ?_⟩
    obtain ⟨even, same⟩ := bytes_of_csv (csv.symm.trans written)
    refine ⟨same, ?_⟩
    rw [records, bind_of_eq_ok (Table.csv_of_even (even.first count))]
    rfl

/-- All films, and the first two, by queries that are spelled unlike any text of a query. -/
theorem films_queried :
    ∃ found, demonstration.store.snapshot moviesReference = .ok found ∧
      demonstration.store.exec "\tselect * From  peer/movies" .json =
        demonstration.store.get { moviesReference with selector := some "body" } .json ∧
      demonstration.store.exec " SELECT\t* from peer/movies Limit 2 ;; " .json =
        .ok (.bytes (Table.arrayBytes (found.table.objects.take 2))) := by
  have wellFormed : moviesReference.WellFormed :=
    ((Reference.parseChars_eq_ok_iff moviesReference.text.toList _).mp (by decide)).2
  have located : demonstration.store.snapshot moviesReference =
      .ok (filmSnapshot (secondsClock 0) 0) := rfl
  obtain ⟨-, all, first⟩ := exec_agrees_with_get demonstration.store moviesReference _ wellFormed
    (by decide) rfl located
  have unlimited : Query.Spelling ⟨moviesReference, none⟩ "\tselect * From  peer/movies" :=
    .intro ['\t'] [] [] 0 (.whole (by decide) (by decide) rfl)
      (.next "select".toList [' '] (by decide) (by decide) <|
        .next ['*'] [' '] (by decide) (by decide) <|
        .next "From".toList [' ', ' '] (by decide) (by decide) <| .last _)
      (by decide) (by decide) (by decide) (by decide)
  have limited : Query.Spelling ⟨moviesReference, some 2⟩
      " SELECT\t* from peer/movies Limit 2 ;; " :=
    .intro [' '] [' '] [' '] 2 (.limited (by decide) (by decide) (by decide) rfl)
      (.next "SELECT".toList ['\t'] (by decide) (by decide) <|
        .next ['*'] [' '] (by decide) (by decide) <|
        .next "from".toList [' '] (by decide) (by decide) <|
        .next moviesReference.text.toList [' '] (by decide) (by decide) <|
        .next "Limit".toList [' '] (by decide) (by decide) <| .last _)
      (by decide) (by decide) (by decide) (by decide)
  exact ⟨_, located, (all _ unlimited).1, (first 2 (by decide) _ limited).1⟩

end DatasetService.Store
