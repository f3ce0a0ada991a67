import DatasetService.Text.Utf8
import Mathlib.Data.String.Basic

set_option autoImplicit false

/- Reading UTF-8 undoes writing it. A character is read back from its own bytes whatever bytes
follow, and so a text is, character by character. -/
namespace DatasetService.Text

theorem continuation_nil (low high : Nat) (rest : Bytes) : continuation 0 low high rest = 0 := by
  cases rest <;> rfl

/-- As many bytes continue a character as belong to it. -/
theorem continuation_of_tails (low high : Nat) (first : UInt8) (others rest : Bytes)
    (inRange : low ≤ first.toNat ∧ first.toNat ≤ high)
    (tails : ∀ byte ∈ others, 0x80 ≤ byte.toNat ∧ byte.toNat ≤ 0xBF) :
    continuation (others.length + 1) low high (first :: others ++ rest) = others.length + 1 := by
  have goesOn : low ≤ first.toNat && first.toNat ≤ high := by simpa using inRange
  induction others generalizing low high first with
  | nil => simp only [List.length_nil, List.cons_append, continuation, goesOn, if_true]
  | cons next more ih =>
      have nextTail := tails next List.mem_cons_self
      have later := ih 0x80 0xBF next nextTail
        (fun byte member => tails byte (List.mem_cons_of_mem _ member)) (by simpa using nextTail)
      simp only [List.length_cons, List.cons_append] at later ⊢
      rw [continuation, if_pos goesOn, later]

/-- What a leading byte and the bytes that continue it are read as. -/
theorem utf8Head_of_tails {lead : Lead} (start first : UInt8) (others rest : Bytes)
    (leads : lead? start.toNat = some lead) (count : lead.count = others.length + 1)
    (inRange : lead.low ≤ first.toNat ∧ first.toNat ≤ lead.high)
    (tails : ∀ byte ∈ others, 0x80 ≤ byte.toNat ∧ byte.toNat ≤ 0xBF) :
    utf8Head start (first :: others ++ rest) =
      .character
        (Char.ofNat (codePoint (leadBits lead.count start.toNat) (first :: others)))
        (others.length + 2) := by
  have found := continuation_of_tails lead.low lead.high first others rest inRange tails
  have taken : (first :: others ++ rest).take (others.length + 1) = first :: others := by
    rw [← List.length_cons, List.take_left]
  simp only [utf8Head, leads, count, found, if_true, taken]

/-- A byte that is written as a remainder and a mark. -/
theorem toNat_marked (value size mark : Nat) (positive : 0 < size) (fits : size + mark ≤ 256) :
    (UInt8.ofNat (value % size + mark)).toNat = value % size + mark := by
  have small := Nat.mod_lt value positive
  rw [UInt8.toNat_ofNat', Nat.mod_eq_of_lt]
  omega

/-- A byte that continues a character. -/
def tail (value : Nat) : UInt8 := UInt8.ofNat (value % 64 + 128)

theorem toNat_tail (value : Nat) : (tail value).toNat = value % 64 + 128 :=
  toNat_marked value 64 128 (by decide) (by decide)

theorem tail_bounds (value : Nat) : 0x80 ≤ (tail value).toNat ∧ (tail value).toNat ≤ 0xBF := by
  rw [toNat_tail]
  omega

theorem utf8EncodeChar_eq (c : Char) :
    String.utf8EncodeChar c =
      if c.toNat ≤ 127 then [UInt8.ofNat c.toNat]
      else if c.toNat ≤ 2047 then [UInt8.ofNat (c.toNat / 64 % 32 + 192), tail c.toNat]
      else if c.toNat ≤ 65535 then
        [UInt8.ofNat (c.toNat / 4096 % 16 + 224), tail (c.toNat / 64), tail c.toNat]
      else
        [UInt8.ofNat (c.toNat / 262144 % 8 + 240), tail (c.toNat / 4096), tail (c.toNat / 64),
          tail c.toNat] := rfl

section widths

variable (value : Nat) (rest : Bytes)

theorem utf8Head_one (small : value ≤ 127) :
    utf8Head (UInt8.ofNat value) rest = .character (Char.ofNat value) 1 := by
  have byte : (UInt8.ofNat value).toNat = value := by
    rw [UInt8.toNat_ofNat', Nat.mod_eq_of_lt]
    omega
  have leads : lead? (UInt8.ofNat value).toNat = some { count := 0 } := by
    rw [byte, lead?, if_pos (by omega)]
  rw [utf8Head, leads]
  simp only [continuation_nil, if_true, byte, leadBits, codePoint, List.take_zero, List.foldl_nil]

theorem utf8Head_two (large : 127 < value) (small : value ≤ 2047) :
    utf8Head (UInt8.ofNat (value / 64 % 32 + 192)) (tail value :: rest) =
      .character (Char.ofNat value) 2 := by
  have byte := toNat_marked (value / 64) 32 192 (by decide) (by decide)
  have leads : lead? (UInt8.ofNat (value / 64 % 32 + 192)).toNat = some { count := 1 } := by
    rw [byte, lead?, if_neg (by omega), if_neg (by omega), if_pos (by omega)]
  have read := utf8Head_of_tails _ (tail value) [] rest leads rfl (tail_bounds value) (by simp)
  have point : codePoint (leadBits 1 (UInt8.ofNat (value / 64 % 32 + 192)).toNat) [tail value] =
      value := by
    simp only [codePoint, leadBits, List.foldl_cons, List.foldl_nil, byte, toNat_tail]
    omega
  rw [point] at read
  exact read

theorem utf8Head_three (large : 2047 < value) (small : value ≤ 65535)
    (valid : value < 0xD800 ∨ 0xDFFF < value) :
    utf8Head (UInt8.ofNat (value / 4096 % 16 + 224)) (tail (value / 64) :: tail value :: rest) =
      .character (Char.ofNat value) 3 := by
  have byte := toNat_marked (value / 4096) 16 224 (by decide) (by decide)
  have second := toNat_tail (value / 64)
  have leads : ∃ lead, lead? (UInt8.ofNat (value / 4096 % 16 + 224)).toNat = some lead ∧
      lead.count = 2 ∧ lead.low ≤ (tail (value / 64)).toNat ∧
      (tail (value / 64)).toNat ≤ lead.high := by
    rw [byte, second, lead?, if_neg (by omega), if_neg (by omega), if_neg (by omega)]
    split
    · exact ⟨_, rfl, rfl, by dsimp only; omega, by dsimp only; omega⟩
    · split
      · exact ⟨_, rfl, rfl, by dsimp only; omega, by dsimp only; omega⟩
      · rw [if_pos (by omega)]
        exact ⟨_, rfl, rfl, by dsimp only; omega, by dsimp only; omega⟩
  obtain ⟨lead, leads, count, inRange⟩ := leads
  have read := utf8Head_of_tails _ (tail (value / 64)) [tail value] rest leads count inRange
    (by simpa using tail_bounds value)
  have point : codePoint (leadBits 2 (UInt8.ofNat (value / 4096 % 16 + 224)).toNat)
      [tail (value / 64), tail value] = value := by
    simp only [codePoint, leadBits, List.foldl_cons, List.foldl_nil, byte, toNat_tail]
    omega
  rw [count, point] at read
  exact read

theorem utf8Head_four (large : 65535 < value) (small : value < 0x110000) :
    utf8Head (UInt8.ofNat (value / 262144 % 8 + 240))
        (tail (value / 4096) :: tail (value / 64) :: tail value :: rest) =
      .character (Char.ofNat value) 4 := by
  have byte := toNat_marked (value / 262144) 8 240 (by decide) (by decide)
  have second := toNat_tail (value / 4096)
  have leads : ∃ lead, lead? (UInt8.ofNat (value / 262144 % 8 + 240)).toNat = some lead ∧
      lead.count = 3 ∧ lead.low ≤ (tail (value / 4096)).toNat ∧
      (tail (value / 4096)).toNat ≤ lead.high := by
    rw [byte, second, lead?, if_neg (by omega), if_neg (by omega), if_neg (by omega),
      if_neg (by omega), if_neg (by omega), if_neg (by omega)]
    split
    · exact ⟨_, rfl, rfl, by dsimp only; omega, by dsimp only; omega⟩
    · split
      · exact ⟨_, rfl, rfl, by dsimp only; omega, by dsimp only; omega⟩
      · rw [if_pos (by omega)]
        exact ⟨_, rfl, rfl, by dsimp only; omega, by dsimp only; omega⟩
  obtain ⟨lead, leads, count, inRange⟩ := leads
  have read := utf8Head_of_tails _ (tail (value / 4096)) [tail (value / 64), tail value] rest leads
    count inRange (by simpa using ⟨tail_bounds (value / 64), tail_bounds value⟩)
  have point : codePoint (leadBits 3 (UInt8.ofNat (value / 262144 % 8 + 240)).toNat)
      [tail (value / 4096), tail (value / 64), tail value] = value := by
    simp only [codePoint, leadBits, List.foldl_cons, List.foldl_nil, byte, toNat_tail]
    omega
  rw [count, point] at read
  exact read

end widths

/-- A character is read from the bytes it is written as. -/
theorem utf8Head_encode (c : Char) (rest : Bytes) :
    ∃ first more, String.utf8EncodeChar c = first :: more ∧
      utf8Head first (more ++ rest) = .character c (more.length + 1) := by
  have valid : c.toNat < 0xD800 ∨ 0xDFFF < c.toNat ∧ c.toNat < 0x110000 := c.valid
  have same : Char.ofNat c.toNat = c := Char.ofNat_toNat c
  rw [utf8EncodeChar_eq]
  split
  · rename_i one
    have read := utf8Head_one c.toNat rest one
    rw [same] at read
    exact ⟨_, _, rfl, read⟩
  · rename_i one
    split
    · rename_i two
      have read := utf8Head_two c.toNat rest (by omega) two
      rw [same] at read
      exact ⟨_, _, rfl, read⟩
    · rename_i two
      split
      · rename_i three
        have read := utf8Head_three c.toNat rest (by omega) three (by omega)
        rw [same] at read
        exact ⟨_, _, rfl, read⟩
      · have read := utf8Head_four c.toNat rest (by omega) (by omega)
        rw [same] at read
        exact ⟨_, _, rfl, read⟩

theorem readUtf8_encode (onBad : Char) (text : List Char) (fuel : Nat)
    (enough : (encode text).length ≤ fuel) : readUtf8 onBad fuel (encode text) = text := by
  induction text generalizing fuel with
  | nil => cases fuel <;> rfl
  | cons c text ih =>
      obtain ⟨first, more, written, read⟩ := utf8Head_encode c (encode text)
      have bytes : encode (c :: text) = first :: (more ++ encode text) := by
        rw [encode, List.flatMap_cons, written, List.cons_append]
        rfl
      rw [bytes, List.length_cons, List.length_append] at enough
      obtain ⟨fuel, rfl⟩ := Nat.exists_eq_add_one_of_ne_zero (Nat.ne_of_gt (by omega : 0 < fuel))
      rw [bytes, readUtf8, read]
      simp only [Nat.add_sub_cancel, List.drop_left, ih fuel (by omega)]

theorem validUpToWithin_encode (text : List Char) (fuel : Nat)
    (enough : (encode text).length ≤ fuel) :
    validUpToWithin fuel (encode text) = (encode text).length := by
  induction text generalizing fuel with
  | nil => cases fuel <;> rfl
  | cons c text ih =>
      obtain ⟨first, more, written, read⟩ := utf8Head_encode c (encode text)
      have bytes : encode (c :: text) = first :: (more ++ encode text) := by
        rw [encode, List.flatMap_cons, written, List.cons_append]
        rfl
      rw [bytes, List.length_cons, List.length_append] at enough
      obtain ⟨fuel, rfl⟩ := Nat.exists_eq_add_one_of_ne_zero (Nat.ne_of_gt (by omega : 0 < fuel))
      rw [bytes, validUpToWithin, read]
      simp only [Nat.add_sub_cancel, List.drop_left, ih fuel (by omega), List.length_cons,
        List.length_append]
      omega

theorem decodeLossy_encode (text : List Char) : decodeLossy (encode text) = text :=
  readUtf8_encode _ text _ (Nat.le_refl _)

/-- Reading undoes writing. -/
theorem decode?_encode (text : List Char) : decode? (encode text) = some text := by
  rw [decode?, validUpTo, validUpToWithin_encode text _ (Nat.le_refl _), if_pos rfl,
    decodeLossy_encode]

theorem stringOf?_bytesOf (text : String) : stringOf? (bytesOf text) = some text := by
  rw [stringOf?, bytesOf, decode?_encode, Option.map_some, String.ofList_toList]

/-- The length in bytes is that of the encoded text. -/
theorem byteLength_toList (text : String) : byteLength text.toList = text.utf8ByteSize := by
  have sizes (chars : List Char) : byteLength chars = String.utf8Len chars := by
    induction chars with
    | nil => rfl
    | cons c rest ih =>
        rw [String.utf8Len_cons, ← ih, Nat.add_comm]
        rfl
  rw [sizes, ← String.utf8ByteSize_ofList, String.ofList_toList]

theorem byteLength_append (first second : List Char) :
    byteLength (first ++ second) = byteLength first + byteLength second := by
  rw [← String.toList_ofList (l := first), ← String.toList_ofList (l := second),
    ← String.toList_append, byteLength_toList, byteLength_toList, byteLength_toList,
    String.utf8ByteSize_append]

end DatasetService.Text
