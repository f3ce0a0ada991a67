import DatasetService.Proofs.Store.CsvUpload
import DatasetService.Proofs.Store.Rendering

set_option autoImplicit false

/- What becomes of rows that are uploaded as JSON. The fields of the first row are the columns of
the table, and each row comes back as an object of the fields that it has under these columns. -/
namespace DatasetService

open Json (Value Members)
open Text (Bytes)

namespace Table

/-- The name of the cell at an index of an array. -/
def numbered (index : Nat) : String := "field_" ++ toString (index + 1)

/-- The fields of a row: the members of an object, and the cells of an array under their numbers. -/
def fields : Value → Members
  | .object members => members
  | .array cells => (numberedColumns cells.length).zip cells
  | _ => []

def field? (row : Value) (key : String) : Option Value := Value.member? (fields row) key

/-- The columns of a table of rows: the names of the fields of the first. -/
def columnsOf (items : List Value) : List String :=
  (items.head?.map fun first => (fields first).map Prod.fst).getD []

/-- Every field of a row is in another one. -/
def Keeps (row sent : Value) : Prop :=
  ∀ key value, field? row key = some value → field? sent key = some value

/-- What stands for a field that a row does not have. -/
def filler : Value → Option Value
  | .object _ => some .null
  | _ => none

/-- A row comes back as an object, with its fields under the columns and with nothing else. An
object has null for what it lacks, and an array leaves it out. -/
structure Returned (columns : List String) (row sent : Value) : Prop where
  isObject : ∃ members, sent = .object members
  under : ∀ key ∈ columns, field? sent key = (field? row key).or (filler row)
  beside : ∀ key ∉ columns, field? sent key = none

/-- A row comes back whole exactly if all its fields are under columns. -/
theorem Returned.keeps_iff {columns : List String} {row sent : Value}
    (returned : Returned columns row sent) :
    Keeps row sent ↔ ∀ key, (field? row key).isSome → key ∈ columns := by
  constructor
  · intro keeps key has
    obtain ⟨value, held⟩ := Option.isSome_iff_exists.mp has
    by_contra outside
    have kept := keeps key value held
    rw [returned.beside key outside] at kept
    cases kept
  · intro covered key value held
    have inside := covered key (Option.isSome_iff_exists.mpr ⟨value, held⟩)
    rw [returned.under key inside, held]
    rfl

/-- Cells under columns come back as a row if each is what the row has there. -/
theorem returned_of_zip {columns : List String} {cells : List Value} {row : Value}
    (functional : Json.Functional (columns.zip cells))
    (alike : ∀ key ∈ columns, ∀ value,
      (key, value) ∈ columns.zip cells ↔ (field? row key).or (filler row) = some value) :
    Returned columns row (Value.ofMembers (columns.zip cells)) where
  isObject := ⟨_, rfl⟩
  under key inside := Option.ext fun value =>
    (Json.member?_orderMembers_iff functional).trans (alike key inside value)
  beside _ outside := Option.eq_none_iff_forall_ne_some.mpr fun _ found =>
    outside (List.of_mem_zip ((Json.member?_orderMembers_iff functional).mp found)).1

section objects

variable {columns : List String}

theorem mem_zip_map_iff (cell : String → Value) {key : String} {value : Value} :
    (key, value) ∈ columns.zip (columns.map cell) ↔ key ∈ columns ∧ cell key = value := by
  have paired :
      columns.zip (columns.map cell) = columns.map fun column => (column, cell column) := by
    rw [← List.zip_map', List.map_id']
  rw [paired, List.mem_map]
  constructor
  · rintro ⟨column, inside, same⟩
    cases same
    exact ⟨inside, rfl⟩
  · rintro ⟨inside, rfl⟩
    exact ⟨key, inside, rfl⟩

theorem returned_objectRow {row : Value} {cells : List Value}
    (read : objectRow columns row = .ok cells) :
    Returned columns row (Value.ofMembers (columns.zip cells)) := by
  unfold objectRow at read
  split at read
  · rename_i members
    cases read
    refine returned_of_zip (fun _ _ _ one other => ?_) fun key inside value => ?_
    · exact ((mem_zip_map_iff _).mp one).2.symm.trans ((mem_zip_map_iff _).mp other).2
    · rw [mem_zip_map_iff, and_iff_right inside]
      change (Value.member? members key).getD .null = value ↔
        (Value.member? members key).or (some .null) = some value
      cases Value.member? members key <;> simp
  · cases read

end objects

section arrays

variable {count : Nat} {cells : List Value}

theorem numbered_injective : Function.Injective numbered := by
  intro one other same
  have digits : toString (one + 1) = toString (other + 1) :=
    (String.append_right_inj _).mp same
  exact Nat.succ_injective (Nat.repr_inj.mp digits)

theorem mem_numberedColumns {key : String} :
    key ∈ numberedColumns count ↔ ∃ index < count, numbered index = key := by
  simp [numberedColumns, numbered]

theorem mem_zip_numbered_iff {index : Nat} {value : Value} :
    (numbered index, value) ∈ (numberedColumns count).zip cells ↔
      index < count ∧ cells[index]? = some value := by
  have column (place : Nat) : (numberedColumns count)[place]? = some (numbered index) ↔
      place < count ∧ place = index := by
    rw [numberedColumns, List.getElem?_map]
    by_cases small : place < count
    · rw [List.getElem?_range small, Option.map_some, Option.some.injEq, and_iff_right small]
      exact numbered_injective.eq_iff
    · simp [small]
  simp only [List.mem_iff_getElem?, List.getElem?_zip_eq_some, column]
  constructor
  · rintro ⟨place, ⟨small, rfl⟩, held⟩
    exact ⟨small, held⟩
  · rintro ⟨small, held⟩
    exact ⟨index, ⟨small, rfl⟩, held⟩

theorem functional_numbered : Json.Functional ((numberedColumns count).zip cells) := by
  intro key first second one other
  obtain ⟨index, -, rfl⟩ := mem_numberedColumns.mp (List.of_mem_zip one).1
  have same := (mem_zip_numbered_iff.mp one).2.symm.trans (mem_zip_numbered_iff.mp other).2
  exact Option.some.inj same

/-- The cell at an index of an array is the field of that number. -/
theorem field?_array (cells : List Value) (index : Nat) :
    field? (.array cells) (numbered index) = cells[index]? := by
  refine Option.ext fun value => ?_
  refine (Json.member?_eq_some_iff functional_numbered).trans (mem_zip_numbered_iff.trans ?_)
  refine and_iff_right_of_imp fun held => ?_
  exact (List.getElem?_eq_some_iff.mp held).1

theorem returned_arrayRow {row : Value} (read : arrayRow row = .ok cells) :
    Returned (numberedColumns count) row (Value.ofMembers ((numberedColumns count).zip cells)) := by
  unfold arrayRow at read
  split at read
  · cases read
    refine returned_of_zip functional_numbered fun key inside value => ?_
    obtain ⟨index, small, rfl⟩ := mem_numberedColumns.mp inside
    rw [mem_zip_numbered_iff, and_iff_right small, field?_array]
    change _ ↔ cells[index]?.or none = some value
    rw [Option.or_none]
  · cases read

end arrays

theorem forall₂_readRows {read : Value → Except StoreError (List Value)} {items : List Value}
    {rows : List (List Value)} (found : readRows read items = .ok rows) :
    List.Forall₂ (fun item row => read item = .ok row) items rows := by
  induction items generalizing rows with
  | nil =>
      cases found
      exact .nil
  | cons item items ih =>
      unfold readRows at found
      obtain ⟨first, one, found⟩ := exists_of_bind_eq_ok found
      obtain ⟨others, later, same⟩ := exists_of_bind_eq_ok found
      cases same
      exact .cons one (ih later)

/-- Every row of JSON comes back under the columns of the first. -/
theorem returned_ofJson {value : Value} {table : Table} (read : ofJson value = .ok table) :
    ∃ items, value = .array items ∧
      List.Forall₂ (Returned (columnsOf items)) items table.objects := by
  unfold ofJson at read
  split at read
  · cases read
    exact ⟨[], rfl, .nil⟩
  · rename_i first items
    obtain ⟨rows, found, same⟩ := exists_of_bind_eq_ok read
    cases same
    refine ⟨_, rfl, List.forall₂_map_right_iff.mpr ?_⟩
    exact (forall₂_readRows found).imp fun item row made => returned_objectRow made
  · rename_i first items
    obtain ⟨rows, found, same⟩ := exists_of_bind_eq_ok read
    cases same
    have columns : columnsOf (.array first :: items) = numberedColumns first.length :=
      List.map_fst_zip (by simp [numberedColumns])
    refine ⟨_, rfl, List.forall₂_map_right_iff.mpr ?_⟩
    rw [columns]
    exact (forall₂_readRows found).imp fun item row made => returned_arrayRow made
  · cases read
  · cases read

theorem ofUpload_json {upload : Upload} (typed : upload.isCsv = false) {value : Value}
    (parsed : Json.parse upload.bytes = .ok value) : ofUpload upload = ofJson value := by
  unfold ofUpload
  rw [typed, parsed]
  rfl

end Table

namespace Store

/-- Every row of an upload of JSON comes back in its place as an object, under the fields of the
first row. It comes back whole exactly if it has no other fields, and else it loses these. -/
theorem json_upload_comes_back {store after : Store} {reference : Reference}
    {request : SaveRequest} {upload : Upload} {time : Instant} {version : Version} {value : Value}
    (given : request.body = some upload) (typed : upload.isCsv = false)
    (parsed : Json.parse upload.bytes = .ok value)
    (saved : store.save reference request time = .ok (version, after)) :
    ∃ items sent, value = .array items ∧
      (∀ path, path = none ∨ path = some version.path →
        after.get { reference with path, selector := some "body" } .json =
          .ok (.bytes (Text.bytesOf (Value.array sent).compact))) ∧
      List.Forall₂
        (fun row object => Table.Returned (Table.columnsOf items) row object ∧
          (Table.Keeps row object ↔
            ∀ key, (Table.field? row key).isSome → key ∈ Table.columnsOf items))
        items sent := by
  obtain ⟨found, -, read, located⟩ := exists_snapshot_of_save given saved
  rw [Table.ofUpload_json typed parsed] at read
  obtain ⟨items, rfl, returned⟩ := Table.returned_ofJson read
  refine ⟨items, found.table.objects, rfl, fun path addressed => ?_, ?_⟩
  · exact get_body (located path (some "body") addressed) rfl
  · exact returned.imp fun row object back => ⟨back, back.keeps_iff⟩

section sightings

def sightingsReference : Reference := { username := "peer", name := "sightings" }

/-- Two birds, of which only the second was counted. -/
def sightingsUpload : Upload :=
  { bytes := Text.bytesOf
      "[\x7b\"bird\":\"wren\"\x7d,\x7b\"bird\":\"crow\",\"seen\":3\x7d]" }

def sightingsRequest : SaveRequest := { body := some sightingsUpload }

theorem isOk_save_sightings :
    (new.save sightingsReference sightingsRequest (secondsClock 1)).isOk = true := by
  decide +kernel

theorem isOk_parse_sightings : (Json.parse sightingsUpload.bytes).isOk = true := by decide +kernel

theorem sightings_come_back : ∃ version after items sent,
    new.save sightingsReference sightingsRequest (secondsClock 1) = .ok (version, after) ∧
    Json.parse sightingsUpload.bytes = .ok (.array items) ∧
    after.get { sightingsReference with selector := some "body" } .json =
      .ok (.bytes (Text.bytesOf (Value.array sent).compact)) ∧
    List.Forall₂ (Table.Returned (Table.columnsOf items)) items sent := by
  obtain ⟨⟨version, after⟩, saved⟩ := exists_of_isOk isOk_save_sightings
  obtain ⟨value, parsed⟩ := exists_of_isOk isOk_parse_sightings
  obtain ⟨items, sent, rfl, got, returned⟩ :=
    json_upload_comes_back rfl (by decide) parsed saved
  exact ⟨version, after, items, sent, saved, parsed, got none (Or.inl rfl),
    returned.imp fun _ _ back => back.1⟩

/-- Whether the second of the rows that bytes hold has a count. -/
def secondCounted (bytes : Bytes) : Bool :=
  match Json.parse bytes with
  | .ok (.array (_ :: row :: _)) => (Table.field? row "seen").isSome
  | _ => false

/-- Whether the second row has no count any more when it comes back. -/
def secondLost : Bool :=
  match new.save sightingsReference sightingsRequest (secondsClock 1) with
  | .ok (_, after) =>
      match after.get { sightingsReference with selector := some "body" } .json with
      | .ok (.bytes bytes) => !secondCounted bytes
      | _ => false
  | .error _ => false

theorem not_every_json_upload_is_kept :
    ¬ ∀ (store after : Store) (reference : Reference) (request : SaveRequest) (upload : Upload)
      (time : Instant) (version : Version) (items : List Value),
      request.body = some upload → upload.isCsv = false →
      Json.parse upload.bytes = .ok (.array items) →
      store.save reference request time = .ok (version, after) →
      ∃ bytes sent,
        after.get { reference with selector := some "body" } .json = .ok (.bytes bytes) ∧
        Json.parse bytes = .ok (.array sent) ∧ List.Forall₂ Table.Keeps items sent := by
  intro kept
  have counted : secondCounted sightingsUpload.bytes = true := by decide +kernel
  have lost : secondLost = true := by decide +kernel
  obtain ⟨⟨version, after⟩, saved⟩ := exists_of_isOk isOk_save_sightings
  unfold secondCounted at counted
  split at counted
  · rename_i first row others parsed
    obtain ⟨bytes, sent, got, read, all⟩ := kept _ _ _ _ _ _ _ _ rfl (by decide) parsed saved
    obtain ⟨value, held⟩ := Option.isSome_iff_exists.mp counted
    cases all with
    | cons _ all =>
        cases all with
        | cons keeps _ =>
            simp only [secondLost, saved, got, secondCounted, read, keeps _ _ held] at lost
            cases lost
  · cases counted

end sightings

end Store
end DatasetService
