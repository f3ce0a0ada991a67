import DatasetService.Proofs.Text.Runs
import DatasetService.Proofs.Text.Utf8
import DatasetService.Text.Percent

set_option autoImplicit false

/- Reading percent-encoded text and the pairs of a form. A text that is written into a form is
read back from it, and pieces that are written one after the other are read one by one. -/
namespace DatasetService.Text

/-- A character beyond ASCII is written with bytes beyond ASCII. -/
theorem mem_utf8EncodeChar_ascii {byte : UInt8} {c : Char} (ascii : byte.toNat < 128)
    (member : byte ∈ String.utf8EncodeChar c) : Char.ofNat byte.toNat = c := by
  have marked (value size mark : Nat) (positive : 0 < size) (fits : size + mark ≤ 256)
      (large : 128 ≤ mark) : byte ≠ UInt8.ofNat (value % size + mark) := by
    rintro rfl
    rw [toNat_marked value size mark positive fits] at ascii
    omega
  have tails (value : Nat) : byte ≠ tail value :=
    marked value 64 128 (by decide) (by decide) (by decide)
  rw [utf8EncodeChar_eq] at member
  split at member
  · rename_i small
    have spelled : byte = UInt8.ofNat c.toNat := by simpa using member
    rw [spelled, UInt8.toNat_ofNat', Nat.mod_eq_of_lt (by omega), Char.ofNat_toNat]
  · have two := fun value => marked value 32 192 (by decide) (by decide) (by decide)
    have three := fun value => marked value 16 224 (by decide) (by decide) (by decide)
    have four := fun value => marked value 8 240 (by decide) (by decide) (by decide)
    split at member
    · simp only [List.mem_cons, two, tails, List.not_mem_nil, or_self] at member
    · split at member
      · simp only [List.mem_cons, three, tails, List.not_mem_nil, or_self] at member
      · simp only [List.mem_cons, four, tails, List.not_mem_nil, or_self] at member

/-- A byte of ASCII stands for its own character alone. -/
theorem mem_of_mem_encode {byte : UInt8} {text : List Char} (ascii : byte.toNat < 128)
    (member : byte ∈ encode text) : Char.ofNat byte.toNat ∈ text := by
  obtain ⟨c, inText, written⟩ := List.mem_flatMap.mp member
  rw [mem_utf8EncodeChar_ascii ascii written]
  exact inText

theorem encode_cons_ascii {c : Char} (ascii : c.toNat ≤ 127) (text : List Char) :
    encode (c :: text) = UInt8.ofNat c.toNat :: encode text := by
  rw [encode, List.flatMap_cons, utf8EncodeChar_eq, if_pos ascii]
  rfl

theorem not_mem_encode {byte : UInt8} {text : List Char} (ascii : byte.toNat < 128)
    (free : Char.ofNat byte.toNat ∉ text) : byte ∉ encode text :=
  fun member => free (mem_of_mem_encode ascii member)

/-- Cutting bytes at a character of ASCII is cutting the text at it. -/
theorem splitWhere_encode {byte : UInt8} {separator : Char} (ascii : separator.toNat ≤ 127)
    (spelled : byte = UInt8.ofNat separator.toNat) (pieces : List (List Char))
    (nonempty : pieces ≠ []) (free : ∀ piece ∈ pieces, separator ∉ piece) :
    splitWhere (· == byte) (encode (joinWith separator pieces)) = pieces.map encode := by
  have code : byte.toNat = separator.toNat := by
    rw [spelled, UInt8.toNat_ofNat', Nat.mod_eq_of_lt (by omega)]
  have absent : ∀ piece ∈ pieces, ∀ other ∈ encode piece, (other == byte) = false := by
    intro piece isPiece other member
    have without : byte ∉ encode piece := by
      refine not_mem_encode (by omega) ?_
      rw [code, Char.ofNat_toNat]
      exact free piece isPiece
    simp only [beq_eq_false_iff_ne, ne_eq]
    rintro rfl
    exact without member
  induction pieces with
  | nil => exact absurd rfl nonempty
  | cons piece rest ih =>
      have plain := absent piece List.mem_cons_self
      cases rest with
      | nil => exact splitWhere_of_none _ _ plain
      | cons next more =>
          have tail := ih (List.cons_ne_nil _ _)
            (fun other member => free other (List.mem_cons_of_mem _ member))
            (fun other member => absent other (List.mem_cons_of_mem _ member))
          rw [joinWith_cons_cons, encode_append, encode_cons_ascii ascii, ← spelled,
            splitWhere_piece _ _ _ _ plain (beq_self_eq_true byte), tail]
          rfl

theorem percentDecode_cons {byte : UInt8} (plain : byte ≠ 0x25) (rest : Bytes) :
    percentDecode (byte :: rest) = byte :: percentDecode rest := by
  rw [percentDecode]
  rintro high low rest rfl
  exact absurd rfl plain

theorem percentDecode_of_plain {bytes : Bytes} (plain : 0x25 ∉ bytes) :
    percentDecode bytes = bytes := by
  induction bytes with
  | nil => rfl
  | cons byte bytes ih =>
      have first : byte ≠ 0x25 := fun same => plain (same ▸ List.mem_cons_self)
      rw [percentDecode_cons first, ih fun member => plain (List.mem_cons_of_mem _ member)]

/-- The byte of a digit, and what it is read as. -/
theorem hexByte?_upperHexDigit {value : Nat} (digit : value < 16) :
    (upperHexDigit value).toNat ≤ 127 ∧
      hexByte? (UInt8.ofNat (upperHexDigit value).toNat) = some value := by
  have all : ∀ digit : Fin 16, (upperHexDigit digit).toNat ≤ 127 ∧
      hexByte? (UInt8.ofNat (upperHexDigit digit).toNat) = some digit.val := by decide
  exact all ⟨value, digit⟩

theorem percentDecode_escape (byte : UInt8) (rest : Bytes) :
    percentDecode (encode ['%', upperHexDigit (byte.toNat / 16), upperHexDigit (byte.toNat % 16)] ++
        rest) = byte :: percentDecode rest := by
  have small := byte.toNat_lt
  obtain ⟨highAscii, high⟩ := hexByte?_upperHexDigit (by omega : byte.toNat / 16 < 16)
  obtain ⟨lowAscii, low⟩ := hexByte?_upperHexDigit (by omega : byte.toNat % 16 < 16)
  have value : UInt8.ofNat (byte.toNat / 16 * 16 + byte.toNat % 16) = byte := by
    rw [show byte.toNat / 16 * 16 + byte.toNat % 16 = byte.toNat by omega, UInt8.ofNat_toNat]
  have mark : UInt8.ofNat '%'.toNat = 0x25 := rfl
  rw [encode_cons_ascii (by decide), encode_cons_ascii highAscii, encode_cons_ascii lowAscii, mark]
  simp only [encode_nil, List.cons_append, List.nil_append, percentDecode, high, low, value]

theorem alphanum_bounds {c : Char} (alphanum : c.isAlphanum = true) :
    48 ≤ c.toNat ∧ c.toNat ≤ 122 := by
  have classes : ((decide (c.val ≥ 'A'.val ∧ c.val ≤ 'Z'.val) ||
      decide (c.val ≥ 'a'.val) && decide (c.val ≤ 'z'.val)) ||
      decide (c.val ≥ '0'.val) && decide (c.val ≤ '9'.val)) = true := alphanum
  simp only [Bool.or_eq_true, Bool.and_eq_true, decide_eq_true_eq, UInt32.le_iff_toNat_le,
    ge_iff_le] at classes
  have code : c.toNat = c.val.toNat := rfl
  have marks : ('A'.val.toNat = 65 ∧ 'Z'.val.toNat = 90) ∧ ('a'.val.toNat = 97 ∧
      'z'.val.toNat = 122) ∧ '0'.val.toNat = 48 ∧ '9'.val.toNat = 57 := by decide
  omega

theorem toNat_ofNat_byte (byte : UInt8) : (Char.ofNat byte.toNat).toNat = byte.toNat := by
  have small := byte.toNat_lt
  have valid : byte.toNat.isValidChar := Or.inl (by omega)
  have made : Char.ofNat byte.toNat = Char.ofNatAux byte.toNat valid := dif_pos valid
  rw [made]
  rfl

/-- Decoding undoes encoding. -/
theorem percentDecode_percentEncode (text : List Char) :
    percentDecode (encode (percentEncode text)) = encode text := by
  unfold percentEncode
  induction encode text with
  | nil => rfl
  | cons byte bytes ih =>
      rw [List.flatMap_cons, encode_append]
      dsimp only
      split
      · rename_i plain
        have bounds := alphanum_bounds plain
        have spelled : UInt8.ofNat (Char.ofNat byte.toNat).toNat = byte := by
          rw [toNat_ofNat_byte, UInt8.ofNat_toNat]
        have other : byte ≠ 0x25 := by
          rintro rfl
          exact absurd plain (by decide)
        rw [encode_cons_ascii (by omega), encode_nil, spelled, List.singleton_append,
          percentDecode_cons other, ih]
      · rw [percentDecode_escape, ih]

/-- What is percent-encoded has letters, digits and the percent sign. -/
theorem mem_percentEncode {text : List Char} {c : Char} (member : c ∈ percentEncode text) :
    c.isAlphanum = true ∨ c = '%' := by
  have digits : ∀ digit : Fin 16, (upperHexDigit digit).isAlphanum = true := by decide
  obtain ⟨byte, -, spelled⟩ := List.mem_flatMap.mp member
  have small := byte.toNat_lt
  dsimp only at spelled
  split at spelled
  · rename_i plain
    rw [List.mem_singleton.mp spelled]
    exact Or.inl plain
  · simp only [List.mem_cons, List.not_mem_nil, or_false] at spelled
    rcases spelled with mark | high | low
    · exact Or.inr mark
    · rw [high]
      exact Or.inl (digits ⟨byte.toNat / 16, by omega⟩)
    · rw [low]
      exact Or.inl (digits ⟨byte.toNat % 16, by omega⟩)

theorem not_mem_percentEncode {c : Char} (text : List Char) (mark : c.isAlphanum = false)
    (other : c ≠ '%') : c ∉ percentEncode text := by
  intro member
  rcases mem_percentEncode member with alphanum | percent
  · rw [mark] at alphanum
    cases alphanum
  · exact other percent

theorem formText_of_decode {text : List Char} {value : String} (unspaced : '+' ∉ text)
    (decodes : percentDecode (encode text) = bytesOf value) : formText (encode text) = value := by
  have plus : (0x2B : UInt8) ∉ encode text := not_mem_encode (by decide) unspaced
  have same : (encode text).map (fun byte => if byte = 0x2B then 0x20 else byte) = encode text := by
    refine (List.map_congr_left fun byte member => ?_).trans (List.map_id _)
    split
    · rename_i isPlus
      exact absurd (isPlus ▸ member) plus
    · rfl
  rw [formText, same, decodes, bytesOf, decodeLossy_encode, String.ofList_toList]

/-- Text without the marks of a form is read as it is. -/
theorem formText_plain {text : String} (unspaced : '+' ∉ text.toList)
    (unmarked : '%' ∉ text.toList) : formText (encode text.toList) = text :=
  formText_of_decode unspaced (percentDecode_of_plain (not_mem_encode (by decide) unmarked))

theorem formText_percentEncode (text : String) :
    formText (encode (percentEncode text.toList)) = text :=
  formText_of_decode (not_mem_percentEncode _ (by decide) (by decide))
    (percentDecode_percentEncode text.toList)

/-- A name and a value as they stand in a form. -/
def formPiece (pair : List Char × List Char) : List Char := pair.1 ++ '=' :: pair.2

/-- The pairs of a form are read one by one. -/
theorem formPairs_joined (pairs : List (List Char × List Char)) (nonempty : pairs ≠ [])
    (names : ∀ pair ∈ pairs, '&' ∉ pair.1 ∧ '=' ∉ pair.1)
    (values : ∀ pair ∈ pairs, '&' ∉ pair.2) :
    formPairs (encode (joinWith '&' (pairs.map formPiece))) =
      pairs.map fun pair => (formText (encode pair.1), formText (encode pair.2)) := by
  have pieces : splitWhere (· == 0x26) (encode (joinWith '&' (pairs.map formPiece))) =
      (pairs.map formPiece).map encode := by
    have ampersand : '&'.toNat ≤ 127 := by decide
    refine splitWhere_encode ampersand rfl _ (by simpa using nonempty) ?_
    intro piece member
    obtain ⟨pair, isPair, rfl⟩ := List.mem_map.mp member
    have name := (names pair isPair).1
    have value := values pair isPair
    simpa [formPiece] using ⟨name, value⟩
  have spelled (pair : List Char × List Char) :
      encode (formPiece pair) = encode pair.1 ++ 0x3D :: encode pair.2 := by
    rw [formPiece, encode_append, encode_cons_ascii (by decide)]
    rfl
  have full : ((pairs.map formPiece).map encode).filter (! ·.isEmpty) =
      (pairs.map formPiece).map encode := by
    rw [List.filter_eq_self]
    intro bytes member
    obtain ⟨piece, isPiece, rfl⟩ := List.mem_map.mp member
    obtain ⟨pair, -, rfl⟩ := List.mem_map.mp isPiece
    simp [spelled]
  rw [formPairs, pieces, full, List.map_map, List.map_map]
  refine List.map_congr_left fun pair isPair => ?_
  have unmarked : ∀ byte ∈ encode pair.1, (byte == 0x3D) = false := by
    intro byte member
    have other : byte ≠ 0x3D := by
      rintro rfl
      exact not_mem_encode (by decide) (names pair isPair).2 member
    simpa using other
  have cut := splitFirst_piece _ _ 0x3D (encode pair.2) unmarked (beq_self_eq_true _)
  simp only [Function.comp_apply, spelled, cut]

end DatasetService.Text
