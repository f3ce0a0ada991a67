import DatasetService.Proofs.Json.Depth
import DatasetService.Proofs.Json.Quoted

set_option autoImplicit false

/- Reading values that were written. A sound value is read from its own text, whatever follows,
exactly if it is not deeper than the reader goes. What is read is the value again, with the members
of its objects in order. -/
namespace DatasetService.Json

open Text (Bytes)

mutual

/-- What a value may be read as when it was written. -/
inductive Value.ReadAs : Value → Value → Prop
  | null : Value.ReadAs .null .null
  | bool (value : Bool) : Value.ReadAs (.bool value) (.bool value)
  | number {number read : Number} (same : number.ReadAs read) :
      Value.ReadAs (.number number) (.number read)
  | string (value : String) : Value.ReadAs (.string value) (.string value)
  | array {items read : List Value} (all : List.Forall₂ Value.ReadAs items read) :
      Value.ReadAs (.array items) (.array read)
  | object {members read : Members} (all : MembersReadAs members read) :
      Value.ReadAs (.object members) (.ofMembers read)

/-- Members are read under their keys. -/
inductive MembersReadAs : Members → Members → Prop
  | nil : MembersReadAs [] []
  | cons (key : String) {value read : Value} {members others : Members}
      (same : Value.ReadAs value read) (rest : MembersReadAs members others) :
      MembersReadAs ((key, value) :: members) ((key, read) :: others)

end

/-- How a reading ends: with something good before the rest if what is written is admitted, else
with a fault. -/
structure Settles {α : Type} (reading : Except Stop (α × Bytes)) (rest : Bytes)
    (admitted : Prop) (good : α → Prop) : Prop where
  reads : admitted → ∃ found, good found ∧ reading = .ok (found, rest)
  stops : ¬ admitted → ∃ stop, reading = .error stop

namespace Settles

variable {α β : Type} {rest middle : Bytes} {admitted later : Prop} {good : α → Prop}
  {better : β → Prop}

theorem ends {found : α} (right : good found) : Settles (.ok (found, rest)) rest True good :=
  ⟨fun _ => ⟨found, right, rfl⟩, fun impossible => absurd trivial impossible⟩

theorem congr {reading : Except Stop (α × Bytes)} (settles : Settles reading rest admitted good)
    (same : admitted ↔ later) : Settles reading rest later good :=
  ⟨fun holds => settles.reads (same.mpr holds), fun fails => settles.stops (mt same.mp fails)⟩

/-- Two readings in turn. -/
theorem bind {first : Except Stop (α × Bytes)} {next : α × Bytes → Except Stop (β × Bytes)}
    (opens : Settles first middle admitted good)
    (goesOn : ∀ found, good found → Settles (next (found, middle)) rest later better) :
    Settles (first >>= next) rest (admitted ∧ later) better := by
  constructor
  · rintro ⟨left, right⟩
    obtain ⟨found, well, read⟩ := opens.reads left
    rw [bind_of_eq_ok read]
    exact (goesOn found well).reads right
  · intro fails
    by_cases left : admitted
    · obtain ⟨found, well, read⟩ := opens.reads left
      rw [bind_of_eq_ok read]
      exact (goesOn found well).stops fun right => fails ⟨left, right⟩
    · obtain ⟨stop, failed⟩ := opens.stops left
      exact ⟨stop, bind_of_eq_error failed next⟩

/-- What was read is only put into another form. -/
theorem pack {reading : Except Stop (α × Bytes)} {next : α × Bytes → Except Stop (β × Bytes)}
    (settles : Settles reading rest admitted good)
    (packed : ∀ found, good found →
      ∃ other, better other ∧ next (found, rest) = .ok (other, rest)) :
    Settles (reading >>= next) rest admitted better := by
  refine Settles.congr (settles.bind fun found well => ?_) (iff_of_eq (and_true admitted))
  obtain ⟨other, right, same⟩ := packed found well
  rw [same]
  exact ends right

end Settles

theorem encode_quote (text : String) :
    Text.encode (quote text) = 0x22 :: Text.encode (text.toList.flatMap escape) ++ [0x22] := by
  rw [quote, Text.encode_append, Text.encode_cons_ascii (by decide)]
  rfl

theorem digit_ne {byte special : UInt8} (digit : isDigitByte byte = true)
    (plain : isDigitByte special = false) : byte ≠ special := by
  rintro rfl
  exact Bool.noConfusion (plain.symm.trans digit)

theorem isSpace_digit {byte : UInt8} (digit : isDigitByte byte = true) : isSpace byte = false := by
  have space : byte ≠ 0x20 := digit_ne digit rfl
  have newline : byte ≠ 0x0A := digit_ne digit rfl
  have tab : byte ≠ 0x09 := digit_ne digit rfl
  have carriage : byte ≠ 0x0D := digit_ne digit rfl
  simp [isSpace, space, newline, tab, carriage]

theorem skipSpace_cons {byte : UInt8} (plain : isSpace byte = false) (rest : Bytes) :
    skipSpace (byte :: rest) = byte :: rest :=
  List.dropWhile_cons_of_neg (by simp [plain])

/-- The text of a value starts with neither a space nor the end of a list. -/
theorem first_write {value : Value} (sound : value.Sound) :
    ∃ byte more, Text.encode value.write = byte :: more ∧ isSpace byte = false ∧ byte ≠ 0x5D := by
  cases sound with
  | null => exact ⟨0x6E, _, rfl, rfl, by decide⟩
  | bool value =>
      cases value with
      | true => exact ⟨0x74, _, rfl, rfl, by decide⟩
      | false => exact ⟨0x66, _, rfl, rfl, by decide⟩
  | number known =>
      obtain ⟨negative, magnitude, written⟩ := Number.exists_written known
      rw [Value.write, written.text]
      cases negative with
      | false =>
          obtain ⟨c, more, shape, digit⟩ := written.first
          obtain ⟨ascii, byte, -⟩ := digit_byte digit
          refine ⟨UInt8.ofNat c.toNat, Text.encode more, ?_, isSpace_digit byte, digit_ne byte rfl⟩
          rw [if_neg Bool.false_ne_true, shape, Text.encode_cons_ascii ascii]
      | true => exact ⟨0x2D, Text.encode magnitude, Text.encode_cons_ascii (by decide) _, rfl,
          by decide⟩
  | string text => exact ⟨0x22, _, encode_quote text, rfl, by decide⟩
  | array => exact ⟨0x5B, _, Text.encode_cons_ascii (by decide) _, rfl, by decide⟩
  | object => exact ⟨0x7B, _, Text.encode_cons_ascii (by decide) _, rfl, by decide⟩

theorem write_pos {value : Value} (sound : value.Sound) :
    0 < (Text.encode value.write).length := by
  obtain ⟨byte, more, shape, -⟩ := first_write sound
  rw [shape]
  exact Nat.succ_pos _

/-- What a value is written as is read back, exactly if the reader goes as deep as the value. -/
def ReadsBack (value : Value) : Prop :=
  ∀ fuel limit rest, (Text.encode value.write).length ≤ fuel → Text.Halts isNumeral rest →
    Settles (readValue .full fuel (limit + 1) (Text.encode value.write ++ rest)) rest
      (value.depth ≤ limit) value.ReadAs

section scalars

variable {fuel depth : Nat} {rest : Bytes}

/-- A value that opens nothing only has to be read. -/
theorem readsBack_of_reads {value : Value} (sound : value.Sound) (flat : value.depth = 0)
    (reads : ∀ fuel depth rest, Text.Halts isNumeral rest → ∃ read, value.ReadAs read ∧
      readValue .full (fuel + 1) depth (Text.encode value.write ++ rest) = .ok (read, rest)) :
    ReadsBack value := by
  intro fuel limit rest enough halts
  have some := write_pos sound
  obtain ⟨fuel, rfl⟩ : ∃ less, fuel = less + 1 := ⟨fuel - 1, by omega⟩
  obtain ⟨read, right, same⟩ := reads fuel (limit + 1) rest halts
  rw [same]
  exact (Settles.ends right).congr (iff_of_true trivial (flat ▸ Nat.zero_le limit))

theorem readValue_digit {byte : UInt8} (digit : isDigitByte byte = true) :
    readValue .full (fuel + 1) depth (byte :: rest) =
      readNumberWith .full false (byte :: rest) := by
  rw [readValue, skipSpace_cons (isSpace_digit digit)]
  dsimp only
  rw [if_neg (digit_ne digit rfl), if_neg (digit_ne digit rfl), if_neg (digit_ne digit rfl),
    if_neg (digit_ne digit rfl), if_pos digit]

theorem readNumberWith_ok {negative : Bool} {bytes : Bytes} {number : Number}
    (read : readNumber negative bytes = .ok (number, rest)) :
    readNumberWith .full negative bytes = .ok (.number number, rest) := by
  unfold readNumberWith
  rw [read]

theorem readsBack_number {number : Number} (sound : number.Sound) :
    ReadsBack (.number number) := by
  refine readsBack_of_reads (.number sound) rfl fun fuel depth rest halts => ?_
  obtain ⟨negative, magnitude, written⟩ := Number.exists_written sound
  obtain ⟨found, read, same⟩ := written.read rest halts
  refine ⟨.number found, .number same, ?_⟩
  rw [Value.write, written.text]
  cases negative with
  | false =>
      obtain ⟨c, more, shape, digit⟩ := written.first
      obtain ⟨ascii, byte, -⟩ := digit_byte digit
      rw [if_neg Bool.false_ne_true]
      rw [shape, Text.encode_cons_ascii ascii, List.cons_append] at read ⊢
      rw [readValue_digit byte, readNumberWith_ok read]
  | true =>
      rw [if_pos rfl, Text.encode_cons_ascii (by decide)]
      change readNumberWith .full true (Text.encode magnitude ++ rest) = .ok (.number found, rest)
      rw [readNumberWith_ok read]

theorem readsBack_string (text : String) : ReadsBack (.string text) := by
  refine readsBack_of_reads (.string text) rfl fun fuel depth rest _ =>
    ⟨.string text, .string text, ?_⟩
  rw [Value.write, encode_quote, List.append_assoc]
  change (readString .full (Text.encode (text.toList.flatMap escape) ++ 0x22 :: rest)).map _ = _
  rw [readString_quote]
  rfl

end scalars

section lists

theorem nextItem_first {value : Value} (sound : value.Sound) (rest : Bytes) :
    nextItem true (Text.encode value.write ++ rest) =
      .ok (.element (Text.encode value.write ++ rest)) := by
  obtain ⟨byte, more, shape, space, other⟩ := first_write sound
  rw [shape, List.cons_append, nextItem, skipSpace_cons space]
  split
  · rename_i impossible
    cases impossible
  · rename_i ending _ same
    exact absurd (List.cons.inj same).1 other
  · rename_i same
    cases same
    rfl

theorem nextItem_later {value : Value} (sound : value.Sound) (rest : Bytes) :
    nextItem false (0x2C :: (Text.encode value.write ++ rest)) =
      .ok (.element (Text.encode value.write ++ rest)) := by
  obtain ⟨byte, more, shape, space, other⟩ := first_write sound
  have comma : isSpace 0x2C = false := rfl
  rw [shape, List.cons_append, nextItem, skipSpace_cons comma]
  split
  · rename_i impossible
    cases impossible
  · rename_i ending _ same
    exact absurd (List.cons.inj same).1 (by decide)
  · rename_i same
    cases same
    rw [if_neg Bool.false_ne_true, if_pos rfl, skipSpace_cons space]
    split
    · rename_i impossible
      cases impossible
    · rename_i ending _ same
      exact absurd (List.cons.inj same).1 other
    · rfl

/-- The items after the first, each behind its comma. -/
def tailItems (items : List Value) : List Char := items.flatMap fun item => ',' :: item.write

theorem writeItems_cons (item : Value) (items : List Value) :
    writeItems (item :: items) = item.write ++ tailItems items := by
  induction items generalizing item with
  | nil => exact (List.append_nil _).symm
  | cons next items ih =>
      rw [writeItems, ih]
      rfl

theorem encode_tailItems_cons (item : Value) (items : List Value) :
    Text.encode (tailItems (item :: items)) =
      0x2C :: (Text.encode item.write ++ Text.encode (tailItems items)) := by
  rw [tailItems, List.flatMap_cons, List.cons_append, Text.encode_cons_ascii (by decide),
    Text.encode_append]
  rfl

theorem halts_tailItems (items : List Value) (rest : Bytes) :
    Text.Halts isNumeral (Text.encode (tailItems items) ++ 0x5D :: rest) := by
  cases items with
  | nil => exact (Text.halts_cons _ _ _).mpr rfl
  | cons item items =>
      rw [encode_tailItems_cons]
      exact (Text.halts_cons _ _ _).mpr rfl

variable {items : List Value}

/-- One item and those after it. -/
theorem settles_item {item : Value} {fuel limit : Nat} {first : Bool} {bytes rest : Bytes}
    (one : ReadsBack item) (enough : (Text.encode item.write).length ≤ fuel)
    (turn : nextItem first bytes = .ok (.element
      (Text.encode item.write ++ (Text.encode (tailItems items) ++ 0x5D :: rest))))
    (later : Settles (readItems .full fuel (limit + 1) false
      (Text.encode (tailItems items) ++ 0x5D :: rest)) rest (depthOfItems items ≤ limit)
        (List.Forall₂ Value.ReadAs items)) :
    Settles (readItems .full (fuel + 1) (limit + 1) first bytes) rest
      (depthOfItems (item :: items) ≤ limit) (List.Forall₂ Value.ReadAs (item :: items)) := by
  rw [readItems, bind_of_eq_ok turn]
  refine Settles.congr (Settles.bind (one fuel limit _ enough (halts_tailItems items rest))
    fun found same => later.pack fun more all => ⟨found :: more, .cons same all, rfl⟩) ?_
  rw [depthOfItems, max_le_iff]

theorem settles_tailItems (sound : ∀ item ∈ items, item.Sound)
    (all : ∀ item ∈ items, ReadsBack item) :
    ∀ fuel limit rest, (Text.encode (tailItems items)).length < fuel →
      Settles (readItems .full fuel (limit + 1) false
        (Text.encode (tailItems items) ++ 0x5D :: rest)) rest (depthOfItems items ≤ limit)
          (List.Forall₂ Value.ReadAs items) := by
  induction items with
  | nil =>
      intro fuel limit rest enough
      obtain ⟨fuel, rfl⟩ : ∃ less, fuel = less + 1 := ⟨fuel - 1, by omega⟩
      exact (Settles.ends .nil).congr (iff_of_true trivial (Nat.zero_le _))
  | cons item items ih =>
      intro fuel limit rest enough
      rw [encode_tailItems_cons] at enough ⊢
      rw [List.length_cons, List.length_append] at enough
      obtain ⟨fuel, rfl⟩ : ∃ less, fuel = less + 1 := ⟨fuel - 1, by omega⟩
      have later := ih (fun other inside => sound other (List.mem_cons_of_mem _ inside))
        (fun other inside => all other (List.mem_cons_of_mem _ inside)) fuel limit rest (by omega)
      refine settles_item (all item List.mem_cons_self) (by omega) ?_ later
      rw [List.cons_append, List.append_assoc]
      exact nextItem_later (sound item List.mem_cons_self) _

theorem settles_items (sound : ∀ item ∈ items, item.Sound)
    (all : ∀ item ∈ items, ReadsBack item) {fuel : Nat} (limit : Nat) (rest : Bytes)
    (enough : (Text.encode (writeItems items)).length < fuel) :
    Settles (readItems .full fuel (limit + 1) true
      (Text.encode (writeItems items) ++ 0x5D :: rest)) rest (depthOfItems items ≤ limit)
        (List.Forall₂ Value.ReadAs items) := by
  obtain ⟨fuel, rfl⟩ : ∃ less, fuel = less + 1 := ⟨fuel - 1, by omega⟩
  cases items with
  | nil => exact (Settles.ends .nil).congr (iff_of_true trivial (Nat.zero_le _))
  | cons item items =>
      rw [writeItems_cons, Text.encode_append] at enough ⊢
      rw [List.length_append] at enough
      have some := write_pos (sound item List.mem_cons_self)
      have later := settles_tailItems
        (fun other inside => sound other (List.mem_cons_of_mem _ inside))
        (fun other inside => all other (List.mem_cons_of_mem _ inside)) fuel limit rest (by omega)
      refine settles_item (all item List.mem_cons_self) (by omega) ?_ later
      rw [List.append_assoc]
      exact nextItem_first (sound item List.mem_cons_self) _

theorem readsBack_array (sound : ∀ item ∈ items, item.Sound)
    (all : ∀ item ∈ items, ReadsBack item) : ReadsBack (.array items) := by
  intro fuel limit rest enough halts
  have text : Text.encode (Value.array items).write =
      0x5B :: (Text.encode (writeItems items) ++ [0x5D]) := by
    rw [Value.write, List.cons_append, Text.encode_cons_ascii (by decide), Text.encode_append]
    rfl
  rw [text] at enough ⊢
  rw [List.length_cons, List.length_append, List.length_singleton] at enough
  obtain ⟨fuel, rfl⟩ : ∃ less, fuel = less + 1 := ⟨fuel - 1, by omega⟩
  rw [List.cons_append, List.append_assoc]
  cases limit with
  | zero =>
      refine ⟨fun flat => absurd flat (Nat.not_succ_le_zero _), fun _ => ⟨_, rfl⟩⟩
  | succ limit =>
      refine Settles.congr (Settles.pack (settles_items sound all limit rest
        (by omega : _ < fuel)) fun found all => ⟨.array found, .array all, rfl⟩) ?_
      rw [Value.depth, Nat.add_le_add_iff_right]

end lists

section objects

/-- A member as it is written. -/
def writeMember (member : String × Value) : List Char :=
  quote member.1 ++ ':' :: member.2.write

/-- The members after the first, each behind its comma. -/
def tailMembers (members : Members) : List Char :=
  members.flatMap fun member => ',' :: writeMember member

theorem writeMembers_cons (member : String × Value) (members : Members) :
    writeMembers (member :: members) = writeMember member ++ tailMembers members := by
  induction members generalizing member with
  | nil => exact (List.append_nil _).symm
  | cons next members ih =>
      rw [writeMembers, ih]
      simp only [writeMember, tailMembers, List.flatMap_cons, List.append_assoc, List.cons_append]

theorem encode_writeMember (member : String × Value) :
    Text.encode (writeMember member) = 0x22 :: (Text.encode (member.1.toList.flatMap escape) ++
      0x22 :: 0x3A :: Text.encode member.2.write) := by
  rw [writeMember, Text.encode_append, encode_quote, Text.encode_cons_ascii (by decide),
    List.append_assoc]
  rfl

theorem encode_tailMembers_cons (member : String × Value) (members : Members) :
    Text.encode (tailMembers (member :: members)) =
      0x2C :: (Text.encode (writeMember member) ++ Text.encode (tailMembers members)) := by
  rw [tailMembers, List.flatMap_cons, List.cons_append, Text.encode_cons_ascii (by decide),
    Text.encode_append]
  rfl

theorem halts_tailMembers (members : Members) (rest : Bytes) :
    Text.Halts isNumeral (Text.encode (tailMembers members) ++ 0x7D :: rest) := by
  cases members with
  | nil => exact (Text.halts_cons _ _ _).mpr rfl
  | cons member members =>
      rw [encode_tailMembers_cons]
      exact (Text.halts_cons _ _ _).mpr rfl

variable {members : Members}

/-- One member, after the quote that opens its key, and those after it. -/
theorem settles_member {member : String × Value} {fuel limit : Nat} {first : Bool}
    {bytes rest : Bytes} (one : ReadsBack member.2)
    (enough : (Text.encode member.2.write).length ≤ fuel)
    (turn : nextKey first bytes = .ok (.element (Text.encode (member.1.toList.flatMap escape) ++
      0x22 :: 0x3A :: (Text.encode member.2.write ++
        (Text.encode (tailMembers members) ++ 0x7D :: rest)))))
    (later : Settles (readMembers .full fuel (limit + 1) false
      (Text.encode (tailMembers members) ++ 0x7D :: rest)) rest
        (depthOfMembers members ≤ limit) (MembersReadAs members)) :
    Settles (readMembers .full (fuel + 1) (limit + 1) first bytes) rest
      (depthOfMembers (member :: members) ≤ limit) (MembersReadAs (member :: members)) := by
  obtain ⟨key, value⟩ := member
  rw [readMembers, bind_of_eq_ok turn]
  dsimp only
  rw [bind_of_eq_ok (readString_quote key _)]
  have colon (after : Bytes) : readColon (0x3A :: after) = .ok ((), after) := rfl
  rw [bind_of_eq_ok (colon _)]
  refine Settles.congr (Settles.bind (one fuel limit _ enough (halts_tailMembers members rest))
    fun found same => later.pack fun more all =>
      ⟨(key, found) :: more, .cons key same all, rfl⟩) ?_
  rw [depthOfMembers, max_le_iff]

theorem settles_tailMembers (all : ∀ member ∈ members, ReadsBack member.2) :
    ∀ fuel limit rest, (Text.encode (tailMembers members)).length < fuel →
      Settles (readMembers .full fuel (limit + 1) false
        (Text.encode (tailMembers members) ++ 0x7D :: rest)) rest
          (depthOfMembers members ≤ limit) (MembersReadAs members) := by
  induction members with
  | nil =>
      intro fuel limit rest enough
      obtain ⟨fuel, rfl⟩ : ∃ less, fuel = less + 1 := ⟨fuel - 1, by omega⟩
      exact (Settles.ends .nil).congr (iff_of_true trivial (Nat.zero_le _))
  | cons member members ih =>
      intro fuel limit rest enough
      rw [encode_tailMembers_cons, encode_writeMember] at enough ⊢
      simp only [List.length_cons, List.length_append] at enough
      obtain ⟨fuel, rfl⟩ : ∃ less, fuel = less + 1 := ⟨fuel - 1, by omega⟩
      have later := ih (fun other inside => all other (List.mem_cons_of_mem _ inside))
        fuel limit rest (by omega)
      refine settles_member (all member List.mem_cons_self) (by omega) ?_ later
      simp only [List.cons_append, List.append_assoc]
      rfl

theorem settles_members (all : ∀ member ∈ members, ReadsBack member.2) {fuel : Nat}
    (limit : Nat) (rest : Bytes) (enough : (Text.encode (writeMembers members)).length < fuel) :
    Settles (readMembers .full fuel (limit + 1) true
      (Text.encode (writeMembers members) ++ 0x7D :: rest)) rest
        (depthOfMembers members ≤ limit) (MembersReadAs members) := by
  obtain ⟨fuel, rfl⟩ : ∃ less, fuel = less + 1 := ⟨fuel - 1, by omega⟩
  cases members with
  | nil => exact (Settles.ends .nil).congr (iff_of_true trivial (Nat.zero_le _))
  | cons member members =>
      rw [writeMembers_cons, Text.encode_append, encode_writeMember] at enough ⊢
      simp only [List.length_cons, List.length_append] at enough
      have later := settles_tailMembers
        (fun other inside => all other (List.mem_cons_of_mem _ inside)) fuel limit rest (by omega)
      refine settles_member (all member List.mem_cons_self) (by omega) ?_ later
      simp only [List.cons_append, List.append_assoc]
      rfl

theorem encode_object (members : Members) : Text.encode (Value.object members).write =
    0x7B :: (Text.encode (writeMembers members) ++ [0x7D]) := by
  rw [Value.write, List.cons_append, Text.encode_cons_ascii (by decide), Text.encode_append]
  rfl

theorem readsBack_object (all : ∀ member ∈ members, ReadsBack member.2) :
    ReadsBack (.object members) := by
  intro fuel limit rest enough halts
  rw [encode_object] at enough ⊢
  rw [List.length_cons, List.length_append, List.length_singleton] at enough
  obtain ⟨fuel, rfl⟩ : ∃ less, fuel = less + 1 := ⟨fuel - 1, by omega⟩
  rw [List.cons_append, List.append_assoc]
  cases limit with
  | zero =>
      refine ⟨fun flat => absurd flat (Nat.not_succ_le_zero _), fun _ => ⟨_, rfl⟩⟩
  | succ limit =>
      refine Settles.congr (Settles.pack (settles_members all limit rest
        (by omega : _ < fuel)) fun found all => ⟨.ofMembers found, .object all, rfl⟩) ?_
      rw [Value.depth, Nat.add_le_add_iff_right]

end objects

theorem readsBack {value : Value} (sound : value.Sound) : ReadsBack value := by
  induction sound with
  | null => exact readsBack_of_reads .null rfl fun _ _ _ _ => ⟨.null, .null, rfl⟩
  | bool value =>
      refine readsBack_of_reads (.bool value) rfl fun _ _ _ _ => ⟨.bool value, .bool value, ?_⟩
      cases value <;> rfl
  | number sound => exact readsBack_number sound
  | string text => exact readsBack_string text
  | array all ih => exact readsBack_array all ih
  | object all ih => exact readsBack_object ih

theorem bytesOf_compact (value : Value) :
    Text.bytesOf value.compact = Text.encode value.write := by
  rw [Text.bytesOf, Value.compact, String.toList_ofList]

section texts

variable {value : Value} (sound : value.Sound)
include sound

theorem settles_parse : Settles (readValue .full (2 * (Text.encode value.write).length + 2)
    depthLimit (Text.encode value.write)) [] (value.depth < depthLimit) value.ReadAs := by
  have settles := readsBack sound (2 * (Text.encode value.write).length + 2) 127 [] (by omega)
    (Text.halts_nil _)
  rw [List.append_nil] at settles
  exact settles.congr Nat.lt_succ_iff.symm

/-- The text of a sound value that is not too deep is read as the value. -/
theorem parse_compact (shallow : value.depth < depthLimit) :
    ∃ read, value.ReadAs read ∧ parse (Text.bytesOf value.compact) = .ok read := by
  obtain ⟨read, right, same⟩ := (settles_parse sound).reads shallow
  refine ⟨read, right, ?_⟩
  rw [parse, readAll, bytesOf_compact, same]
  rfl

/-- The text of a sound value parses exactly if the value stays below the limit of depth. -/
theorem parse_compact_iff :
    (∃ read, parse (Text.bytesOf value.compact) = .ok read) ↔ value.depth < depthLimit := by
  constructor
  · rintro ⟨read, parsed⟩
    by_contra deep
    obtain ⟨stop, same⟩ := (settles_parse sound).stops deep
    rw [parse, readAll, bytesOf_compact, same] at parsed
    cases parsed
  · intro shallow
    obtain ⟨read, -, same⟩ := parse_compact sound shallow
    exact ⟨read, same⟩

end texts

end DatasetService.Json
