import DatasetService.Proofs.Except
import DatasetService.Proofs.Json.Depth
import DatasetService.Store.Table

set_option autoImplicit false

/- The tables of uploads. Their cells are sound and not too deep. All rows of CSV and of objects
have a cell for each column; rows that are arrays are stored as they come. -/
namespace DatasetService.Table

open Text (Bytes)
open Json (Value)

/-- Every cell is sound and not too deep. -/
def Holds (limit : Nat) (table : Table) : Prop :=
  ∀ row ∈ table.rows, ∀ cell ∈ row, cell.Within limit

/-- Every one of the first rows has a cell for each column. -/
def Even (table : Table) (limit : Option Nat) : Prop :=
  ∀ row ∈ table.firstRows limit, row.length = table.columns.length

instance (table : Table) (limit : Option Nat) : Decidable (table.Even limit) :=
  inferInstanceAs (Decidable (∀ row ∈ table.firstRows limit, row.length = table.columns.length))

section writing

variable {table : Table} {limit : Option Nat}

theorem even_iff_lengths :
    table.Even limit ↔ ((table.firstRows limit).map (·.map cellText)).all
      (fun row => row.length == table.columns.length) = true := by
  simp [Even, List.all_map]

/-- A header and some rows, one to a record. -/
def recordBytes (columns : List String) (rows : List (List Value)) : Bytes :=
  Text.encode (Csv.writeRecord columns ++
    rows.flatMap fun row => Csv.writeRecord (row.map cellText))

theorem csv_of_even (even : table.Even limit) :
    table.csv limit = .ok (recordBytes table.columns (table.firstRows limit)) := by
  unfold csv Csv.write?
  rw [if_pos (even_iff_lengths.mp even), List.flatMap_map]
  rfl

/-- A row that is longer or shorter than the header cannot be written. -/
theorem csv_of_uneven (uneven : ¬ table.Even limit) :
    table.csv limit = .error (.internal "writing csv row") := by
  unfold csv Csv.write?
  rw [if_neg (mt even_iff_lengths.mpr uneven)]

/-- The header and the rows are written if all of them can be. -/
theorem csv_eq_ok_iff {bytes : Bytes} :
    table.csv limit = .ok bytes ↔
      table.Even limit ∧ bytes = recordBytes table.columns (table.firstRows limit) := by
  constructor
  · intro written
    by_cases even : table.Even limit
    · rw [csv_of_even even] at written
      exact ⟨even, (Except.ok.inj written).symm⟩
    · rw [csv_of_uneven even] at written
      cases written
  · rintro ⟨even, rfl⟩
    exact csv_of_even even

/-- The first rows can be written if all can be. -/
theorem Even.first (even : table.Even none) (count : Nat) : table.Even (some count) :=
  fun row member => even row (List.mem_of_mem_take member)

end writing

section objects

/-- Some rows as an array. -/
def arrayBytes (rows : List Value) : Bytes := Text.bytesOf (Value.array rows).compact

/-- The first rows of a table as objects, or all of them. -/
def firstObjects (table : Table) : Option Nat → List Value
  | some count => table.objects.take count
  | none => table.objects

variable {limit : Nat} {table : Table}

theorem within_objects (holds : table.Holds limit) (count : Nat) :
    (Value.array (table.objects.take count)).Within (limit + 2) := by
  refine .array fun item member => ?_
  obtain ⟨row, inside, rfl⟩ := List.mem_map.mp (List.mem_of_mem_take member)
  exact .ofMembers fun member zipped => holds row inside _ (List.of_mem_zip zipped).2

end objects

section csv

/-- An integer that is read has 64 bits. -/
theorem bounds_of_signed? {text : List Char} {value : Int}
    (read : Literal.signed? text = some value) :
    Literal.minSigned ≤ value ∧ value ≤ Literal.maxSigned := by
  unfold Literal.signed? at read
  have kept := (Option.filter_eq_some_iff.mp read).2
  simpa using kept

theorem within_cellValue (text : String) {limit : Nat} : (cellValue text).Within limit := by
  unfold cellValue
  split
  · rename_i value read
    obtain ⟨low, high⟩ := bounds_of_signed? read
    refine .number ⟨low, high.trans_lt (by decide)⟩
  · split
    · rename_i number read
      unfold Literal.finite? at read
      split at read
      · exact .number (Binary.fits_of_ofDecimal (by decide) (by decide) read)
      · cases read
    · exact .string text

theorem holds_ofCsv {bytes : Bytes} {table : Table} (read : ofCsv bytes = .ok table)
    {limit : Nat} : table.Holds limit := by
  unfold ofCsv at read
  split at read
  · cases read
  · cases read
    intro row member cell inside
    obtain ⟨texts, -, rfl⟩ := List.mem_map.mp member
    obtain ⟨text, -, rfl⟩ := List.mem_map.mp inside
    exact within_cellValue text

theorem length_fieldTexts {fields : List Bytes} {index : Nat} {texts : List String}
    (read : Csv.fieldTexts index fields = .ok texts) : texts.length = fields.length := by
  induction fields generalizing index texts with
  | nil =>
      cases read
      rfl
  | cons field fields ih =>
      unfold Csv.fieldTexts at read
      split at read
      · cases read
      · cases more : Csv.fieldTexts (index + 1) fields with
        | error place =>
            rw [more] at read
            cases read
        | ok others =>
            rw [more] at read
            cases read
            exact congrArg Nat.succ (ih more)

theorem length_decodeRecord {index expected : Nat} {record : Csv.RawRecord} {texts : List String}
    (read : Csv.decodeRecord index (some expected) record = .ok texts) :
    texts.length = expected := by
  unfold Csv.decodeRecord at read
  dsimp only at read
  split at read
  · cases read
  · rename_i same
    split at read
    · cases read
    · rename_i fields found
      cases read
      have expects : expected = record.fields.length := by simpa using same
      rw [length_fieldTexts found, expects]

theorem length_decodeRecords {records : List Csv.RawRecord} {index expected : Nat}
    {rows : List (List String)}
    (read : Csv.decodeRecords index (some expected) records = .ok rows) :
    ∀ row ∈ rows, row.length = expected := by
  induction records generalizing index rows with
  | nil =>
      cases read
      exact fun row member => absurd member List.not_mem_nil
  | cons record records ih =>
      unfold Csv.decodeRecords at read
      obtain ⟨texts, first, read⟩ := exists_of_bind_eq_ok read
      obtain ⟨others, later, same⟩ := exists_of_bind_eq_ok read
      cases same
      intro row member
      rcases List.mem_cons.mp member with rfl | behind
      · exact length_decodeRecord first
      · exact ih later row behind

/-- All rows of CSV are as long as its header. -/
theorem even_ofCsv {bytes : Bytes} {table : Table} (read : ofCsv bytes = .ok table) :
    table.Even none := by
  unfold ofCsv at read
  split at read
  · cases read
  · rename_i columns rows found
    cases read
    obtain ⟨records, decoded, same⟩ := exists_of_bind_eq_ok found
    cases raw : Csv.rawRecords bytes with
    | nil =>
        rw [raw] at decoded
        cases decoded
        cases same
        exact fun row member => absurd member List.not_mem_nil
    | cons header others =>
        rw [raw] at decoded
        unfold Csv.decodeRecords at decoded
        obtain ⟨texts, -, decoded⟩ := exists_of_bind_eq_ok decoded
        obtain ⟨rest, later, equal⟩ := exists_of_bind_eq_ok decoded
        cases equal
        cases same
        intro row member
        obtain ⟨texts, inside, rfl⟩ := List.mem_map.mp member
        rw [List.length_map]
        exact length_decodeRecords later texts inside

end csv

section json

/-- The rows that are read are those of the items. -/
theorem mem_readRows_iff {read : Value → Except StoreError (List Value)} {items : List Value}
    {rows : List (List Value)} (found : readRows read items = .ok rows) (row : List Value) :
    row ∈ rows ↔ ∃ item ∈ items, read item = .ok row := by
  induction items generalizing rows with
  | nil =>
      cases found
      simp
  | cons item items ih =>
      unfold readRows at found
      obtain ⟨first, one, found⟩ := exists_of_bind_eq_ok found
      obtain ⟨others, later, same⟩ := exists_of_bind_eq_ok found
      cases same
      rw [List.mem_cons, List.exists_mem_cons_iff, ih later, one, Except.ok.injEq, eq_comm]

theorem within_objectRow {limit : Nat} {columns : List String} {item : Value} {row : List Value}
    (within : item.Within (limit + 1)) (read : objectRow columns item = .ok row) :
    ∀ cell ∈ row, cell.Within limit := by
  unfold objectRow at read
  split at read
  · rename_i members
    cases read
    intro cell inside
    obtain ⟨column, -, rfl⟩ := List.mem_map.mp inside
    unfold Value.member?
    cases found : members.find? fun member => member.1 == column with
    | none => exact .null
    | some member => exact within.member (List.mem_of_find?_eq_some found)
  · cases read

theorem within_arrayRow {limit : Nat} {item : Value} {row : List Value}
    (within : item.Within (limit + 1)) (read : arrayRow item = .ok row) :
    ∀ cell ∈ row, cell.Within limit := by
  unfold arrayRow at read
  split at read
  · cases read
    exact fun cell inside => within.item inside
  · cases read

theorem holds_ofJson {limit : Nat} {value : Value} {table : Table}
    (within : value.Within (limit + 2)) (read : ofJson value = .ok table) : table.Holds limit := by
  unfold ofJson at read
  split at read
  · cases read
    exact fun row member => absurd member List.not_mem_nil
  · obtain ⟨rows, found, same⟩ := exists_of_bind_eq_ok read
    cases same
    intro row member
    obtain ⟨item, inside, made⟩ := (mem_readRows_iff found row).mp member
    exact within_objectRow (within.item inside) made
  · obtain ⟨rows, found, same⟩ := exists_of_bind_eq_ok read
    cases same
    intro row member
    obtain ⟨item, inside, made⟩ := (mem_readRows_iff found row).mp member
    exact within_arrayRow (within.item inside) made
  · cases read
  · cases read

/-- The cells of an upload are two levels below what is parsed. -/
theorem holds_of_parse {upload : Upload} {table : Table} (read : ofUpload upload = .ok table)
    {limit : Nat}
    (parses : ∀ value, Json.parse upload.bytes = .ok value → value.Within (limit + 2)) :
    table.Holds limit := by
  unfold ofUpload at read
  split at read
  · exact holds_ofCsv read
  · split at read
    · rename_i value parsed
      exact holds_ofJson (parses value parsed) read
    · split at read
      · exact holds_ofCsv read
      · cases read

theorem holds_ofUpload {upload : Upload} {table : Table} (read : ofUpload upload = .ok table) :
    table.Holds 125 :=
  holds_of_parse read fun _ => Json.within_parse

/-- JSON that is as deep as it can be. -/
def Deep (upload : Upload) : Prop :=
  ∃ value, Json.parse upload.bytes = .ok value ∧ value.depth + 1 = Json.depthLimit

theorem holds_of_not_deep {upload : Upload} {table : Table} (read : ofUpload upload = .ok table)
    (shallow : ¬ Deep upload) : table.Holds 124 := by
  refine holds_of_parse read fun value parsed => ?_
  obtain ⟨sound, depth⟩ := Json.within_parse parsed
  refine ⟨sound, ?_⟩
  by_contra deeper
  exact shallow ⟨value, parsed, by rw [Json.depthLimit]; omega⟩

theorem even_ofObjects {first : Json.Members} {items : List Value} {table : Table}
    (read : ofJson (.array (.object first :: items)) = .ok table) : table.Even none := by
  obtain ⟨rows, found, same⟩ := exists_of_bind_eq_ok read
  cases same
  intro row member
  obtain ⟨item, -, made⟩ := (mem_readRows_iff found row).mp member
  unfold objectRow at made
  split at made
  · cases made
    exact List.length_map _
  · cases made

/-- Rows that are arrays are as long as the header exactly if they are as long as the first. -/
theorem even_ofArrays_iff {first : List Value} {items : List Value} {table : Table}
    (read : ofJson (.array (.array first :: items)) = .ok table) :
    table.Even none ↔ ∀ cells, .array cells ∈ items → cells.length = first.length := by
  obtain ⟨rows, found, same⟩ := exists_of_bind_eq_ok read
  cases same
  have width : (numberedColumns first.length).length = first.length := by simp [numberedColumns]
  unfold readRows at found
  obtain ⟨row, one, found⟩ := exists_of_bind_eq_ok found
  obtain ⟨others, later, equal⟩ := exists_of_bind_eq_ok found
  cases one
  cases equal
  constructor
  · intro even cells member
    have inside := (mem_readRows_iff later cells).mpr ⟨_, member, rfl⟩
    exact (even cells (List.mem_cons_of_mem _ inside)).trans width
  · intro alike row member
    rcases List.mem_cons.mp member with rfl | behind
    · exact width.symm
    · obtain ⟨item, inside, made⟩ := (mem_readRows_iff later row).mp behind
      unfold arrayRow at made
      split at made
      · cases made
        exact (alike _ inside).trans width.symm
      · cases made

/-- Rows that are arrays, of which one is not as long as the first. -/
def Ragged (upload : Upload) : Prop :=
  ∃ first items cells, Json.parse upload.bytes = .ok (.array (.array first :: items)) ∧
    .array cells ∈ items ∧ cells.length ≠ first.length

/-- Only arrays make a table uneven. -/
theorem ragged_of_uneven {upload : Upload} {table : Table} (read : ofUpload upload = .ok table)
    (uneven : ¬ table.Even none) : Ragged upload := by
  have csv (found : ofCsv upload.bytes = .ok table) : False := uneven (even_ofCsv found)
  unfold ofUpload at read
  split at read
  · exact (csv read).elim
  · split at read
    · rename_i value parsed
      unfold ofJson at read
      split at read
      · cases read
        exact (uneven fun row member => absurd member List.not_mem_nil).elim
      · exact (uneven (even_ofObjects read)).elim
      · rename_i first items
        have apart := mt (even_ofArrays_iff read).mpr uneven
        push Not at apart
        obtain ⟨cells, member, other⟩ := apart
        exact ⟨first, items, cells, parsed, member, other⟩
      · cases read
      · cases read
    · split at read
      · exact (csv read).elim
      · cases read

end json

end DatasetService.Table
