import DatasetService.Csv.Reader
import DatasetService.Csv.Writer
import DatasetService.Proofs.Except
import DatasetService.Proofs.Text.Percent
import Mathlib

set_option autoImplicit false

/- Reading what the writer of comma-separated records has written. The reader is followed through
one field, one record and all records; where a record stands in the document plays no part. -/
namespace DatasetService.Csv

open Text (Bytes encode encode_append)

/-- The fields of the records, without the places at which the records stand. -/
def fieldRecords (state : State) (fragment : Fragment) : Bytes → List (List Bytes)
  | [] =>
      match state with
      | .recordStart | .afterReturn => []
      | _ => [fragment.close]
  | byte :: rest =>
      match step state byte with
      | (state, .skip) => fieldRecords state fragment rest
      | (state, .append) =>
          fieldRecords state { fragment with content := byte :: fragment.content } rest
      | (state, .endField) =>
          fieldRecords state { fields := fragment.content.reverse :: fragment.fields } rest
      | (state, .endRecord) => fragment.close :: fieldRecords state {} rest

theorem map_fields_records (state : State) (fragment : Fragment)
    (line offset seenLine seenOffset : Nat) (bytes : Bytes) :
    (records state fragment line offset seenLine seenOffset bytes).map RawRecord.fields =
      fieldRecords state fragment bytes := by
  induction bytes generalizing state fragment line offset seenLine seenOffset with
  | nil => cases state <;> rfl
  | cons byte rest ih =>
      unfold records fieldRecords
      generalize step state byte = move
      obtain ⟨next, effect⟩ := move
      cases effect with
      | skip => exact ih ..
      | append => exact ih ..
      | endField => exact ih ..
      | endRecord => exact congrArg (fragment.close :: ·) (ih ..)

section steps

variable {state next : State} {fragment : Fragment} {byte : UInt8} {rest : Bytes}

theorem fieldRecords_skip (skips : step state byte = (next, .skip)) :
    fieldRecords state fragment (byte :: rest) = fieldRecords next fragment rest := by
  rw [fieldRecords, skips]

theorem fieldRecords_append (appends : step state byte = (next, .append)) :
    fieldRecords state fragment (byte :: rest) =
      fieldRecords next { fragment with content := byte :: fragment.content } rest := by
  rw [fieldRecords, appends]

theorem fieldRecords_endField (ends : step state byte = (next, .endField)) :
    fieldRecords state fragment (byte :: rest) =
      fieldRecords next { fields := fragment.content.reverse :: fragment.fields } rest := by
  rw [fieldRecords, ends]

theorem fieldRecords_endRecord (ends : step state byte = (next, .endRecord)) :
    fieldRecords state fragment (byte :: rest) = fragment.close :: fieldRecords next {} rest := by
  rw [fieldRecords, ends]

end steps

section field

variable (fields : List Bytes) (content rest : Bytes)

/-- Bytes that stay in a field without quotes are its content. -/
theorem fieldRecords_inField (read : Bytes)
    (stays : ∀ byte ∈ content, step .inField byte = (.inField, .append)) :
    fieldRecords .inField { fields, content := read } (content ++ rest) =
      fieldRecords .inField { fields, content := content.reverse ++ read } rest := by
  induction content generalizing read with
  | nil => rfl
  | cons byte content ih =>
      have later := fun other member => stays other (List.mem_cons_of_mem byte member)
      rw [List.cons_append, fieldRecords_append (stays byte List.mem_cons_self), ih _ later,
        List.reverse_cons, List.append_assoc, List.singleton_append]

def doubled (content : Bytes) : Bytes :=
  content.flatMap fun byte => if isQuote byte then [byte, byte] else [byte]

/-- Between quotes everything is content, and a doubled quote is one. -/
theorem fieldRecords_inQuoted (read : Bytes) :
    fieldRecords .inQuoted { fields, content := read } (doubled content ++ rest) =
      fieldRecords .inQuoted { fields, content := content.reverse ++ read } rest := by
  induction content generalizing read with
  | nil => rfl
  | cons byte content ih =>
      rw [doubled, List.flatMap_cons, ← doubled, List.append_assoc]
      cases quote : isQuote byte with
      | true =>
          have opens : step .inQuoted byte = (.afterQuote, .skip) := by
            rw [step, if_pos quote]
          have closes : step .afterQuote byte = (.inQuoted, .append) := by
            rw [step, if_pos quote]
          simp only [if_true, List.cons_append, List.nil_append]
          rw [fieldRecords_skip opens, fieldRecords_append closes, ih]
          simp
      | false =>
          have stays : step .inQuoted byte = (.inQuoted, .append) := by
            rw [step, quote]
            rfl
          simp only [Bool.false_eq_true, if_false, List.cons_append, List.nil_append]
          rw [fieldRecords_append stays, ih]
          simp

end field

theorem doubled_of_free {content : Bytes} (free : (0x22 : UInt8) ∉ content) :
    doubled content = content := by
  induction content with
  | nil => rfl
  | cons byte content ih =>
      obtain ⟨other, later⟩ : 0x22 ≠ byte ∧ (0x22 : UInt8) ∉ content := by
        simpa only [List.mem_cons, not_or] using free
      have plain : isQuote byte = false := by simpa [isQuote] using other.symm
      rw [doubled, List.flatMap_cons, ← doubled, ih later, plain]
      rfl

theorem encode_eq_nil {text : List Char} (empty : encode text = []) : text = [] := by
  cases text with
  | nil => rfl
  | cons c text =>
      obtain ⟨first, more, written, -⟩ := Text.utf8Head_encode c []
      rw [encode, List.flatMap_cons, written] at empty
      cases empty

/-- Doubling the quotes of a text is doubling them in its bytes. -/
theorem encode_doubleQuotes (text : List Char) :
    encode (doubleQuotes text) = doubled (encode text) := by
  induction text with
  | nil => rfl
  | cons c text ih =>
      have cut : encode (c :: text) = encode [c] ++ encode text := encode_append [c] text
      rw [doubleQuotes, List.flatMap_cons, ← doubleQuotes, encode_append, ih, cut, doubled,
        doubled, List.flatMap_append]
      congr 1
      by_cases quote : c = '"'
      · subst quote
        rfl
      · rw [if_neg quote]
        have free : (0x22 : UInt8) ∉ encode [c] := by
          refine Text.not_mem_encode (by decide) fun member => ?_
          exact quote (List.mem_singleton.mp member).symm
        exact (doubled_of_free free).symm

/-- The bytes of a text that needs no quotes are content, wherever a field may begin. -/
theorem step_of_unquoted {text : List Char} (unquoted : text.any needsQuote = false) {state : State}
    (begins : state = .recordStart ∨ state = .fieldStart ∨ state = .inField) :
    ∀ byte ∈ encode text, step state byte = (.inField, .append) := by
  intro byte member
  have other (mark : UInt8) (ascii : mark.toNat < 128)
      (special : needsQuote (Char.ofNat mark.toNat) = true) : (byte == mark) = false := by
    rw [beq_eq_false_iff_ne]
    rintro rfl
    have inText := Text.mem_of_mem_encode ascii member
    exact absurd special (List.any_eq_false.mp unquoted _ inText)
  have comma : isDelimiter byte = false := other 0x2C (by decide) (by decide)
  have quote : isQuote byte = false := other 0x22 (by decide) (by decide)
  have back : isReturn byte = false := other 0x0D (by decide) (by decide)
  have feed : isFeed byte = false := other 0x0A (by decide) (by decide)
  rcases begins with rfl | rfl | rfl <;>
    simp [step, startRecord, startField, plain, comma, quote, back, feed]

/-- A field is read up to the mark that ends it. What is left out is the end of a record of which
nothing has been read. -/
theorem fieldRecords_writeField (text : List Char) (fields : List Bytes) {start : State}
    {mark : UInt8} (rest : Bytes) (begins : start = .recordStart ∨ start = .fieldStart)
    (ends : mark = 0x2C ∨ mark = 0x0A)
    (shown : start = .fieldStart ∨ mark = 0x2C ∨ writeField text ≠ []) :
    ∃ state, step state mark = plain mark ∧
      fieldRecords start { fields } (encode (writeField text) ++ mark :: rest) =
        fieldRecords state { fields, content := (encode text).reverse } (mark :: rest) := by
  unfold writeField at shown ⊢
  cases quoted : text.any needsQuote with
  | true =>
      have opens : step start 0x22 = (.inQuoted, .skip) := by
        rcases begins with rfl | rfl <;> decide
      have closes : step .inQuoted 0x22 = (.afterQuote, .skip) := by decide
      have written : encode ('"' :: doubleQuotes text ++ ['"']) ++ mark :: rest =
          0x22 :: (doubled (encode text) ++ 0x22 :: mark :: rest) := by
        rw [List.cons_append, Text.encode_cons_ascii (by decide), encode_append,
          encode_doubleQuotes, List.cons_append, List.append_assoc]
        rfl
      refine ⟨.afterQuote, by rcases ends with rfl | rfl <;> decide, ?_⟩
      rw [if_pos rfl, written, fieldRecords_skip opens, fieldRecords_inQuoted,
        fieldRecords_skip closes, List.append_nil]
  | false =>
      have bare :
          (if text.any needsQuote then '"' :: doubleQuotes text ++ ['"'] else text) = text :=
        if_neg (by simp [quoted])
      rw [quoted] at bare shown
      rw [bare] at shown ⊢
      cases bytes : encode text with
      | nil =>
          refine ⟨start, ?_, rfl⟩
          obtain rfl := encode_eq_nil bytes
          rcases begins with rfl | rfl
          · have comma : mark = 0x2C := by simpa using shown
            rw [comma]
            decide
          · rcases ends with rfl | rfl <;> decide
      | cons first more =>
          have appends : step start first = (.inField, .append) :=
            step_of_unquoted quoted (by tauto) first (by simp [bytes])
          have stays : ∀ byte ∈ more, step .inField byte = (.inField, .append) := by
            intro byte member
            exact step_of_unquoted quoted (by simp) byte (by simp [bytes, member])
          refine ⟨.inField, rfl, ?_⟩
          rw [List.cons_append, fieldRecords_append appends, fieldRecords_inField _ _ _ _ stays,
            List.reverse_cons]

/-- The fields of a record are read one by one up to the end of its line. -/
theorem fieldRecords_writeFields (texts : List (List Char)) (full : texts ≠ [])
    (fields : List Bytes) {start : State} (rest : Bytes)
    (begins : start = .recordStart ∨ start = .fieldStart)
    (shown : start = .fieldStart ∨ writeFields texts ≠ []) :
    fieldRecords start { fields } (encode (writeFields texts) ++ 0x0A :: rest) =
      (fields.reverse ++ texts.map encode) :: fieldRecords .recordStart {} rest := by
  induction texts generalizing fields start with
  | nil => exact absurd rfl full
  | cons text texts ih =>
      cases texts with
      | nil =>
          obtain ⟨state, closes, read⟩ := fieldRecords_writeField text fields rest begins
            (Or.inr rfl) (shown.imp_right Or.inr)
          have ends : step state 0x0A = (.recordStart, .endRecord) := closes.trans (by decide)
          rw [writeFields, read, fieldRecords_endRecord ends]
          simp [Fragment.close]
      | cons next more =>
          have split : encode (writeFields (text :: next :: more)) ++ 0x0A :: rest =
              encode (writeField text) ++
                0x2C :: (encode (writeFields (next :: more)) ++ 0x0A :: rest) := by
            rw [writeFields, encode_append, Text.encode_cons_ascii (by decide), List.append_assoc]
            rfl
          obtain ⟨state, closes, read⟩ := fieldRecords_writeField text fields
            (encode (writeFields (next :: more)) ++ 0x0A :: rest) begins (Or.inl rfl)
            (Or.inr (Or.inl rfl))
          have ends : step state 0x2C = (.fieldStart, .endField) := closes.trans (by decide)
          rw [split, read, fieldRecords_endField ends,
            ih (List.cons_ne_nil next more) _ (Or.inr rfl) (Or.inl rfl)]
          simp

theorem writeFields_eq_nil {texts : List (List Char)} (full : texts ≠ [])
    (empty : writeFields texts = []) : texts = [[]] := by
  match texts with
  | [] => exact absurd rfl full
  | [text] =>
      rw [writeFields, writeField] at empty
      split at empty
      · cases empty
      · rw [empty]
  | text :: next :: more => simp [writeFields] at empty

/-- A record is read back, one of a single empty field for its quotes. -/
theorem fieldRecords_writeRecord (row : List String) (full : row ≠ []) (rest : Bytes) :
    fieldRecords .recordStart {} (encode (writeRecord row) ++ rest) =
      row.map Text.bytesOf :: fieldRecords .recordStart {} rest := by
  have texts : row.map String.toList ≠ [] := by simpa using full
  have bytes : (row.map String.toList).map encode = row.map Text.bytesOf := by
    rw [List.map_map]
    rfl
  -- The line of a single empty field would be skipped, and so the writer puts quotes there.
  by_cases empty : writeFields (row.map String.toList) = []
  · have alone := writeFields_eq_nil texts empty
    have written : encode (writeRecord row) = [0x22, 0x22, 0x0A] := by
      rw [writeRecord, empty]
      rfl
    rw [written, ← bytes, alone]
    rfl
  · have written : encode (writeRecord row) ++ rest =
        encode (writeFields (row.map String.toList)) ++ 0x0A :: rest := by
      rw [writeRecord, if_neg (by simpa using empty), encode_append, List.append_assoc]
      rfl
    rw [written, fieldRecords_writeFields _ texts [] rest (Or.inl rfl) (Or.inr empty), bytes]
    rfl

theorem fieldRecords_writeRecords (rows : List (List String)) (full : ∀ row ∈ rows, row ≠ []) :
    fieldRecords .recordStart {} (encode (rows.flatMap writeRecord)) =
      rows.map (·.map Text.bytesOf) := by
  induction rows with
  | nil => rfl
  | cons row rows ih =>
      have later := fun other member => full other (List.mem_cons_of_mem row member)
      rw [List.flatMap_cons, encode_append,
        fieldRecords_writeRecord row (full row List.mem_cons_self), ih later, List.map_cons]

/-- The character of a byte order mark. -/
def byteOrderMark : Char := Char.ofNat 0xFEFF

/-- No mark is taken off a text that does not begin with one. -/
theorem rawRecords_encode {text : List Char} (unmarked : text.head? ≠ some byteOrderMark) :
    rawRecords (encode text) = records .recordStart {} 1 0 1 0 (encode text) := by
  unfold rawRecords
  split
  · rename_i rest marked
    cases text with
    | nil => cases marked
    | cons c text =>
        obtain ⟨first, more, written, read⟩ := Text.utf8Head_encode c (encode text)
        rw [encode, List.flatMap_cons, written, List.cons_append] at marked
        obtain ⟨rfl, tail⟩ := List.cons.inj marked
        have mark : Text.utf8Head 0xEF (0xBB :: 0xBF :: rest) = .character byteOrderMark 3 := rfl
        change more ++ encode text = _ at tail
        rw [tail, mark] at read
        obtain ⟨rfl, -⟩ := Text.Utf8Head.character.inj read
        exact absurd rfl unmarked
  · rfl

theorem fieldTexts_bytesOf (row : List String) (index : Nat) :
    fieldTexts index (row.map Text.bytesOf) = .ok row := by
  induction row generalizing index with
  | nil => rfl
  | cons text row ih =>
      rw [List.map_cons, fieldTexts, Text.stringOf?_bytesOf]
      dsimp only
      rw [ih]
      rfl

/-- Records of one length whose fields are texts are decoded. -/
theorem decodeRecords_of_fields {records : List RawRecord} {rows : List (List String)}
    (same : records.map RawRecord.fields = rows.map (·.map Text.bytesOf)) {width : Nat}
    (even : ∀ row ∈ rows, row.length = width) (index : Nat) {expected : Option Nat}
    (expects : ∀ count ∈ expected, count = width) :
    decodeRecords index expected records = .ok rows := by
  induction rows generalizing records index expected with
  | nil =>
      obtain rfl := List.map_eq_nil_iff.mp same
      rfl
  | cons row rows ih =>
      obtain ⟨record, more, rfl, fields, later⟩ := List.map_eq_cons_iff.mp same
      have long := even row List.mem_cons_self
      have decoded : decodeRecord index expected record = .ok row := by
        have fits : expected.any (· != record.fields.length) = false := by
          cases expected with
          | none => rfl
          | some count => simp [fields, expects count rfl, long]
        unfold decodeRecord
        dsimp only
        rw [fits, fields, fieldTexts_bytesOf]
        rfl
      have next : ∀ count ∈ some (expected.getD row.length), count = width := by
        intro count member
        cases expected with
        | none => simpa [long] using member.symm
        | some known => simpa [expects known rfl] using member.symm
      have others := ih later (fun other member => even other (List.mem_cons_of_mem row member))
        (index + 1) next
      rw [decodeRecords, bind_of_eq_ok decoded, bind_of_eq_ok others]
      rfl

/-- A record begins with its first field or with a mark of the writer. -/
theorem writeRecord_unmarked {row : List String}
    (unmarked : ∀ text ∈ row.head?, text.toList.head? ≠ some byteOrderMark) (rest : List Char) :
    (writeRecord row ++ rest).head? ≠ some byteOrderMark := by
  have written {text tail : List Char} {c : Char} {more : List Char}
      (line : writeField text ++ tail = c :: more) (free : text.head? ≠ some byteOrderMark)
      (ends : tail.head? ≠ some byteOrderMark) : c ≠ byteOrderMark := by
    rintro rfl
    unfold writeField at line
    split at line
    · exact absurd (List.head_eq_of_cons_eq line) (by decide)
    · cases text with
      | nil => exact ends (by rw [← List.nil_append tail, line]; rfl)
      | cons first others => exact free (congrArg some (List.head_eq_of_cons_eq line))
  unfold writeRecord
  cases line : writeFields (row.map String.toList) with
  | nil =>
      intro marked
      have quote : some '"' = some byteOrderMark := marked
      exact absurd quote (by decide)
  | cons c more =>
      have other : c ≠ byteOrderMark := by
        match row with
        | [] => cases line
        | [text] => exact written ((List.append_nil _).trans line) (unmarked text rfl) (by simp)
        | text :: next :: others =>
            refine written line (unmarked text rfl) fun marked => ?_
            have comma : some ',' = some byteOrderMark := marked
            exact absurd comma (by decide)
      simpa using other

/-- The reader reads back what the writer wrote. Only a byte order mark at the start of the first
column would be taken for that of the document. -/
theorem read_write {columns : List String} {rows : List (List String)} {text : List Char}
    (written : write? columns rows = some text) (full : columns ≠ [])
    (unmarked : ∀ column ∈ columns.head?, column.toList.head? ≠ some byteOrderMark) :
    read (encode text) = .ok (columns, rows) := by
  unfold write? at written
  split at written
  · rename_i lengths
    have even : ∀ row ∈ columns :: rows, row.length = columns.length := by simpa using lengths
    have lines : ∀ row ∈ columns :: rows, row ≠ [] := by
      intro row member empty
      have long := even row member
      rw [empty] at long
      exact full (List.length_eq_zero_iff.mp long.symm)
    cases written
    have decoded : decodeRecords 0 none (rawRecords (encode
        (writeRecord columns ++ rows.flatMap writeRecord))) = .ok (columns :: rows) := by
      apply decodeRecords_of_fields _ even 0 (by simp)
      rw [rawRecords_encode (writeRecord_unmarked unmarked _), map_fields_records,
        ← List.flatMap_cons, fieldRecords_writeRecords _ lines]
    rw [read, bind_of_eq_ok decoded]
    rfl
  · cases written

end DatasetService.Csv
