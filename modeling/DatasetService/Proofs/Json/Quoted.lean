import DatasetService.Json.Parser
import DatasetService.Json.Printer
import DatasetService.Proofs.Text.Percent

set_option autoImplicit false

/- Reading strings that were quoted. Each character is read back from its escape, or from its own
bytes, whatever follows. -/
namespace DatasetService.Json

open Text (Bytes)

/-- Bytes that are read as the content of a string, as far as they go. -/
def Spells (written content : Bytes) : Prop :=
  ∀ more others rest,
    (∀ fuel, more.length < fuel → stringBytes .full fuel more = .ok (others, rest)) →
    ∀ fuel, (written ++ more).length < fuel →
      stringBytes .full fuel (written ++ more) = .ok (content ++ others, rest)

theorem spells_nil : Spells [] [] := fun _ _ _ reads fuel enough => reads fuel enough

theorem Spells.append {first second written content : Bytes} (left : Spells first written)
    (right : Spells second content) : Spells (first ++ second) (written ++ content) := by
  intro more others rest reads fuel enough
  rw [List.append_assoc] at enough ⊢
  rw [List.append_assoc]
  exact left _ _ _ (right more others rest reads) fuel enough

/-- A byte that stands for itself in a string. -/
def isOrdinary (byte : UInt8) : Bool := byte != 0x22 && byte != 0x5C && !decide (byte < 0x20)

theorem spells_byte {byte : UInt8} (ordinary : isOrdinary byte = true) : Spells [byte] [byte] := by
  intro more others rest reads fuel enough
  simp only [isOrdinary, Bool.and_eq_true, bne_iff_ne, Bool.not_eq_true', decide_eq_false_iff_not]
    at ordinary
  simp only [List.singleton_append, List.length_cons] at enough ⊢
  obtain ⟨fuel, rfl⟩ : ∃ less, fuel = less + 1 := ⟨fuel - 1, by omega⟩
  rw [stringBytes, if_neg ordinary.1.1, if_neg ordinary.1.2, if_neg ordinary.2,
    reads fuel (by omega)]
  rfl

theorem spells_ordinary {bytes : Bytes} (ordinary : ∀ byte ∈ bytes, isOrdinary byte = true) :
    Spells bytes bytes := by
  induction bytes with
  | nil => exact spells_nil
  | cons byte bytes ih =>
      exact (spells_byte (ordinary byte List.mem_cons_self)).append
        (ih fun other member => ordinary other (List.mem_cons_of_mem _ member))

/-- An escape is read as what it stands for, whatever follows. -/
theorem spells_escape {written content : Bytes}
    (reads : ∀ more, readEscape .full (written ++ more) = .ok (content, more)) :
    Spells (0x5C :: written) content := by
  intro more others rest later fuel enough
  simp only [List.cons_append, List.length_cons, List.length_append] at enough ⊢
  obtain ⟨fuel, rfl⟩ : ∃ less, fuel = less + 1 := ⟨fuel - 1, by omega⟩
  rw [stringBytes, if_neg (by decide), if_pos rfl, reads more]
  change (stringBytes .full fuel more >>= fun _ => _) = _
  rw [later fuel (by omega)]
  rfl

/-- A control character is read from four digits. -/
theorem readUnicode_control {code : Nat} (control : code < 0x20) (more : Bytes) :
    readUnicode (0x30 :: 0x30 :: UInt8.ofNat (Text.hexDigit (code / 16)).toNat ::
      UInt8.ofNat (Text.hexDigit (code % 16)).toNat :: more) = .ok (Char.ofNat code, more) := by
  have units : ∀ code < 0x20, hexUnit? [0x30, 0x30, UInt8.ofNat (Text.hexDigit (code / 16)).toNat,
      UInt8.ofNat (Text.hexDigit (code % 16)).toNat] = some code ∧
      isLowSurrogate code = false ∧ isHighSurrogate code = false := by decide
  obtain ⟨unit, low, high⟩ := units code control
  have read : readUnit (0x30 :: 0x30 :: UInt8.ofNat (Text.hexDigit (code / 16)).toNat ::
      UInt8.ofNat (Text.hexDigit (code % 16)).toNat :: more) = .ok (code, more) := by
    simp only [readUnit, unit]
  unfold readUnicode
  rw [read]
  change (if isLowSurrogate code = true then _
    else if isHighSurrogate code = true then _ else _) = _
  simp only [low, high, Bool.false_eq_true, if_false]

theorem spells_control {c : Char} (control : c.toNat < 0x20) :
    Spells (Text.encode ['\\', 'u', '0', '0', Text.hexDigit (c.toNat / 16),
      Text.hexDigit (c.toNat % 16)]) (Text.encode [c]) := by
  have ascii : ∀ digit < 16, (Text.hexDigit digit).toNat ≤ 127 := by decide
  have high := ascii (c.toNat / 16) (by omega)
  have low := ascii (c.toNat % 16) (by omega)
  have written : Text.encode ['\\', 'u', '0', '0', Text.hexDigit (c.toNat / 16),
      Text.hexDigit (c.toNat % 16)] =
      0x5C :: 0x75 :: 0x30 :: 0x30 :: UInt8.ofNat (Text.hexDigit (c.toNat / 16)).toNat ::
        UInt8.ofNat (Text.hexDigit (c.toNat % 16)).toNat :: [] := by
    rw [Text.encode_cons_ascii (by decide), Text.encode_cons_ascii (by decide),
      Text.encode_cons_ascii (by decide), Text.encode_cons_ascii (by decide),
      Text.encode_cons_ascii high, Text.encode_cons_ascii low, Text.encode_nil]
    rfl
  rw [written]
  refine spells_escape fun more => ?_
  change (readUnicode (0x30 :: 0x30 :: _ :: _ :: more)).map _ = _
  rw [readUnicode_control control, Except.map, Char.ofNat_toNat]

/-- Bytes of a character that is neither special nor a control character. -/
theorem isOrdinary_of_mem {byte : UInt8} {c : Char} (quote : c ≠ '"') (backslash : c ≠ '\\')
    (control : ¬ c.toNat < 0x20) (member : byte ∈ Text.encode [c]) : isOrdinary byte = true := by
  have bytes : byte ∈ String.utf8EncodeChar c := by simpa [Text.encode] using member
  have other (special : UInt8) (ascii : special.toNat < 128)
      (free : c ≠ Char.ofNat special.toNat) : byte ≠ special := by
    rintro rfl
    exact free (Text.mem_utf8EncodeChar_ascii ascii bytes).symm
  have printable : ¬ byte < 0x20 := by
    intro low
    have small : byte.toNat < 32 := low
    have same := Text.mem_utf8EncodeChar_ascii (by omega) bytes
    rw [← same, Text.toNat_ofNat_byte] at control
    exact control small
  simp [isOrdinary, other 0x22 (by decide) quote, other 0x5C (by decide) backslash, printable]

/-- A character is spelled by its escape. -/
theorem spells_char (c : Char) : Spells (Text.encode (escape c)) (Text.encode [c]) := by
  by_cases quote : c = '"'
  · subst quote
    exact @spells_escape [0x22] _ fun more => rfl
  by_cases backslash : c = '\\'
  · subst backslash
    exact @spells_escape [0x5C] _ fun more => rfl
  unfold escape
  rw [if_neg quote, if_neg backslash]
  -- The five control characters with an escape of one letter.
  repeat
    split
    · rename_i special
      subst special
      exact spells_escape fun more => rfl
  split
  · rename_i control
    exact spells_control control
  · rename_i control
    exact spells_ordinary fun byte member => isOrdinary_of_mem quote backslash control member

theorem spells_text (text : List Char) :
    Spells (Text.encode (text.flatMap escape)) (Text.encode text) := by
  induction text with
  | nil => exact spells_nil
  | cons c text ih =>
      rw [List.flatMap_cons, Text.encode_append, ← List.singleton_append,
        Text.encode_append]
      exact (spells_char c).append ih

/-- A string is read as it was quoted. -/
theorem readString_quote (text : String) (rest : Bytes) :
    readString .full (Text.encode (text.toList.flatMap escape) ++ 0x22 :: rest) =
      .ok (text, rest) := by
  have ends (fuel : Nat) (enough : (0x22 :: rest : Bytes).length < fuel) :
      stringBytes .full fuel (0x22 :: rest) = .ok ([], 0x22 :: rest) := by
    obtain ⟨fuel, rfl⟩ : ∃ less, fuel = less + 1 := ⟨fuel - 1, by omega⟩
    rfl
  have content := spells_text text.toList _ _ _ ends _ (Nat.lt_succ_self _)
  rw [List.append_nil] at content
  have decoded : Text.stringOf? (Text.encode text.toList) = some text :=
    Text.stringOf?_bytesOf text
  unfold readString
  rw [content]
  simp only [bind, Except.bind, decoded]
  rfl

end DatasetService.Json
