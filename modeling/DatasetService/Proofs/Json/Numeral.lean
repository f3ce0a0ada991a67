import DatasetService.Json.Printer
import DatasetService.Proofs.Json.Scale
import DatasetService.Proofs.Number.DecimalText
import DatasetService.Proofs.Text.Percent

set_option autoImplicit false

/- Reading numbers that were written. The digits are read one run after the other, and what a
number is read as is within range again. -/
namespace DatasetService.Json

open Decimal (IsWhole Significant isWhole_zero digits_zero significant_toDigits positional_eq)
open Text (Bytes)

/-- A number of 64 bits, signed or unsigned, or a double. -/
def Number.Sound : Number → Prop
  | .integer value => -(2 ^ 63) ≤ value ∧ value < 2 ^ 64
  | .float value => value.Fits .double

/-- A byte that a number may go on with. -/
def isNumeral (byte : UInt8) : Bool :=
  isDigitByte byte || byte == 0x2E || byte == 0x65 || byte == 0x45

theorem halts_digits {rest : Bytes} (halts : Text.Halts isNumeral rest) :
    Text.Halts isDigitByte rest := by
  intro byte member
  have other := halts byte member
  simp only [isNumeral, Bool.or_eq_false_iff] at other
  exact other.1.1.1

theorem startsWithDigit_of_halts {rest : Bytes} (halts : Text.Halts isDigitByte rest) :
    startsWithDigit rest = false := by
  cases rest with
  | nil => rfl
  | cons byte rest => exact (Text.halts_cons isDigitByte byte rest).mp halts

theorem skipDigits_of_halts {rest : Bytes} (halts : Text.Halts isDigitByte rest) :
    skipDigits rest = rest :=
  Text.dropWhile_of_halts _ _ halts

section digits

/-- A digit as a byte. -/
theorem digit_byte {c : Char} (digit : c.isDigit = true) :
    c.toNat ≤ 127 ∧ isDigitByte (UInt8.ofNat c.toNat) = true ∧
      digitOf (UInt8.ofNat c.toNat) = c.toNat - '0'.toNat := by
  have bounds := Char.isDigit_iff_toNat.mp digit
  change 48 ≤ c.toNat ∧ c.toNat ≤ 57 at bounds
  have byte : (UInt8.ofNat c.toNat).toNat = c.toNat := by
    rw [UInt8.toNat_ofNat', Nat.mod_eq_of_lt]
    omega
  refine ⟨by omega, ?_, by rw [digitOf, byte]; rfl⟩
  have low : (0x30 : UInt8) ≤ UInt8.ofNat c.toNat := by
    rw [UInt8.le_iff_toNat_le, byte]
    exact bounds.1
  have high : UInt8.ofNat c.toNat ≤ (0x39 : UInt8) := by
    rw [UInt8.le_iff_toNat_le, byte]
    exact bounds.2
  simp [isDigitByte, low, high]

theorem le_ofDigitChars (digits : List Char) (value : Nat) :
    value ≤ Nat.ofDigitChars 10 digits value := by
  rw [Nat.ofDigitChars_eq_ofDigitChars_zero]
  have power : 1 ≤ 10 ^ digits.length := Nat.one_le_pow _ _ (by decide)
  nlinarith

variable {digits : List Char} {rest : Bytes}

/-- A run of digits is taken as a whole, if its value fits. -/
theorem takeDigits_encode (all : ∀ c ∈ digits, c.isDigit = true)
    (halts : Text.Halts isDigitByte rest) {significand : Nat} (count : Nat)
    (small : Nat.ofDigitChars 10 digits significand < 2 ^ 64) :
    takeDigits significand count (Text.encode digits ++ rest) =
      { significand := Nat.ofDigitChars 10 digits significand
        count := count + digits.length, rest } := by
  induction digits generalizing significand count with
  | nil =>
      cases rest with
      | nil => rfl
      | cons byte rest =>
          have stop : isDigitByte byte = false := (Text.halts_cons _ _ _).mp halts
          simp [Text.encode_nil, takeDigits, stop]
  | cons c digits ih =>
      obtain ⟨ascii, isDigit, value⟩ := digit_byte (all c List.mem_cons_self)
      rw [Nat.ofDigitChars_cons, Nat.mul_comm 10] at small ⊢
      have fits : significand * 10 + (c.toNat - '0'.toNat) < Nat.pow 2 64 :=
        (le_ofDigitChars digits _).trans_lt small
      rw [Text.encode_cons_ascii ascii, List.cons_append, takeDigits, isDigit, value]
      simp only [Bool.true_and, decide_eq_true fits, if_true]
      rw [ih (fun c member => all c (List.mem_cons_of_mem _ member)) (count + 1) small]
      simp only [List.length_cons, Taken.mk.injEq, true_and, and_true]
      omega

theorem exponentDigits_encode (all : ∀ c ∈ digits, c.isDigit = true)
    (halts : Text.Halts isDigitByte rest) {value : Nat}
    (small : Nat.ofDigitChars 10 digits value ≤ maxExponent) :
    exponentDigits value (Text.encode digits ++ rest) =
      (some (Nat.ofDigitChars 10 digits value), rest) := by
  induction digits generalizing value with
  | nil =>
      cases rest with
      | nil => rfl
      | cons byte rest =>
          have stop : isDigitByte byte = false := (Text.halts_cons _ _ _).mp halts
          simp [Text.encode_nil, exponentDigits, stop]
  | cons c digits ih =>
      obtain ⟨ascii, isDigit, digit⟩ := digit_byte (all c List.mem_cons_self)
      rw [Nat.ofDigitChars_cons, Nat.mul_comm 10] at small ⊢
      have fits : ¬ maxExponent < value * 10 + (c.toNat - '0'.toNat) :=
        not_lt.mpr ((le_ofDigitChars digits _).trans small)
      rw [Text.encode_cons_ascii ascii, List.cons_append, exponentDigits, isDigit, digit]
      simp only [if_true, fits, if_false]
      exact ih (fun c member => all c (List.mem_cons_of_mem _ member)) small

/-- The whole part of a number is read up to what follows it. -/
theorem readNumber_whole (negative : Bool) (whole : IsWhole digits)
    (halts : Text.Halts isDigitByte rest) (small : Nat.ofDigitChars 10 digits 0 < 2 ^ 64) :
    readNumber negative (Text.encode digits ++ rest) =
      finishNumber negative (Nat.ofDigitChars 10 digits 0) rest := by
  obtain ⟨c, more, rfl⟩ := List.exists_cons_of_ne_nil whole.nonempty
  obtain ⟨ascii, isDigit, value⟩ := digit_byte (whole.all c List.mem_cons_self)
  rw [Nat.ofDigitChars_cons, Nat.mul_zero, Nat.zero_add] at small ⊢
  rw [Text.encode_cons_ascii ascii, List.cons_append, readNumber]
  rcases whole.first with zero | nonzero
  · obtain ⟨rfl, rfl⟩ := List.cons.inj zero
    have zeroByte : UInt8.ofNat '0'.toNat = 0x30 := by decide
    rw [if_pos zeroByte, Text.encode_nil, List.nil_append, startsWithDigit_of_halts halts,
      if_neg Bool.false_ne_true]
    rfl
  · have other : UInt8.ofNat c.toNat ≠ 0x30 := by
      intro same
      have code : c.toNat = 48 := by
        have := congrArg UInt8.toNat same
        rw [UInt8.toNat_ofNat', Nat.mod_eq_of_lt (by omega)] at this
        exact this
      rw [Text.halts_cons] at nonzero
      exact absurd (Char.toNat_inj.mp code : c = '0') (by simpa using nonzero)
    have taken := takeDigits_encode
      (fun c member => whole.all c (List.mem_cons_of_mem _ member)) halts 1 small
    rw [if_neg other, if_pos isDigit, value]
    dsimp only
    rw [taken, startsWithDigit_of_halts halts, if_neg Bool.false_ne_true]

/-- A fraction moves the decimal point by as many digits as it has. -/
theorem readFraction_encode (negative : Bool) {significand : Nat} (exponent : Int)
    (all : ∀ c ∈ digits, c.isDigit = true) (nonempty : digits ≠ [])
    (halts : Text.Halts isDigitByte rest)
    (small : Nat.ofDigitChars 10 digits significand < 2 ^ 64) :
    readFraction negative significand exponent (Text.encode digits ++ rest) =
      finishReal negative (Nat.ofDigitChars 10 digits significand)
        (exponent - (digits.length : Int)) rest := by
  have some : ¬ (decide (0 + digits.length = 0) &&
      !startsWithDigit (Text.encode digits ++ rest)) = true := by
    simp [nonempty]
  unfold readFraction
  rw [takeDigits_encode all halts 0 small]
  dsimp only
  rw [if_neg some, skipDigits_of_halts halts, Nat.zero_add]

theorem readNumber_real (negative : Bool) {whole : List Char} (isWhole : IsWhole whole)
    (all : ∀ c ∈ digits, c.isDigit = true) (nonempty : digits ≠ [])
    (halts : Text.Halts isDigitByte rest)
    (small : Nat.ofDigitChars 10 (whole ++ digits) 0 < 2 ^ 64) :
    readNumber negative (Text.encode (whole ++ '.' :: digits) ++ rest) =
      finishReal negative (Nat.ofDigitChars 10 (whole ++ digits) 0)
        (-(digits.length : Int)) rest := by
  have point : Text.encode (whole ++ '.' :: digits) ++ rest =
      Text.encode whole ++ 0x2E :: (Text.encode digits ++ rest) := by
    rw [Text.encode_append, Text.encode_cons_ascii (by decide), List.append_assoc]
    rfl
  rw [Nat.ofDigitChars_append] at small ⊢
  have stops : Text.Halts isDigitByte (0x2E :: (Text.encode digits ++ rest)) := by
    rw [Text.halts_cons]
    decide
  rw [point, readNumber_whole negative isWhole stops ((le_ofDigitChars _ _).trans_lt small)]
  change readFraction negative _ 0 _ = _
  rw [readFraction_encode negative 0 all nonempty halts small, zero_sub]

theorem readExponent_encode (negative : Bool) (significand : Nat) (start : Int) {exponent : Int}
    (halts : Text.Halts isDigitByte rest) (small : exponent.natAbs ≤ maxExponent) :
    readExponent negative significand start
        (UInt8.ofNat (if exponent < 0 then '-' else '+').toNat ::
          (Text.encode (Nat.toDigits 10 exponent.natAbs) ++ rest)) =
      fromParts negative significand (start + exponent) rest := by
  obtain ⟨c, more, digits⟩ := List.exists_cons_of_ne_nil
    (Nat.toDigits_ne_nil (n := exponent.natAbs) (b := 10))
  have all : ∀ other ∈ c :: more, other.isDigit = true := fun other member =>
    Literal.isDigit_of_mem_toDigits (digits ▸ member)
  have value : Nat.ofDigitChars 10 (c :: more) 0 = exponent.natAbs := by
    rw [← digits, Nat.ofDigitChars_ten_toDigits]
  obtain ⟨ascii, isDigit, digit⟩ := digit_byte (all c List.mem_cons_self)
  rw [Nat.ofDigitChars_cons, Nat.mul_zero, Nat.zero_add] at value
  have taken := exponentDigits_encode
    (fun other member => all other (List.mem_cons_of_mem _ member)) halts (value.trans_le small)
  rw [value, ← digit] at taken
  rw [digits, Text.encode_cons_ascii ascii, List.cons_append]
  rcases lt_or_ge exponent 0 with down | up
  · have moved : start - (exponent.natAbs : Int) = start + exponent := by omega
    have mark : UInt8.ofNat '-'.toNat = 0x2D := by decide
    rw [if_pos down, mark]
    simp only [readExponent, isDigit, taken, if_true, moved]
  · have moved : start + (exponent.natAbs : Int) = start + exponent := by omega
    have mark : UInt8.ofNat '+'.toNat = 0x2B := by decide
    rw [if_neg (not_lt.mpr up), mark]
    simp only [readExponent, isDigit, taken, if_true, Bool.false_eq_true, if_false, moved]

/-- Without a fraction and an exponent the significand is the whole number. -/
theorem finishReal_of_halts (negative : Bool) (significand : Nat) (exponent : Int)
    (halts : Text.Halts isNumeral rest) :
    finishReal negative significand exponent rest =
      fromParts negative significand exponent rest := by
  cases rest with
  | nil => rfl
  | cons byte rest =>
      rw [Text.halts_cons] at halts
      simp only [isNumeral, Bool.or_eq_false_iff, beq_eq_false_iff_ne] at halts
      simp [finishReal, halts.1.2, halts.2]

end digits

theorem fromParts_of_scale {significand : Nat} {exponent : Int} {result : Binary}
    (negative : Bool) (rest : Bytes) (scaled : scale 4 (ofSignificand significand) exponent =
      some result) :
    fromParts negative significand exponent rest =
      .ok (.float { result with negative }, rest) := by
  rw [fromParts, scaled]

section texts

variable {rest : Bytes} (negative : Bool)

/-- A text with an exponent is read as its digits and the exponent of their last. -/
theorem readNumber_scientific {digits : List Char} {leading : Int}
    (significant : Significant digits) (small : Nat.ofDigitChars 10 digits 0 < 2 ^ 64)
    (near : leading.natAbs ≤ maxExponent) (halts : Text.Halts isNumeral rest) :
    readNumber negative (Text.encode (Decimal.scientific digits leading) ++ rest) =
      fromParts negative (Nat.ofDigitChars 10 digits 0) (leading + 1 - (digits.length : Int))
        rest := by
  obtain ⟨c, more, rfl⟩ := List.exists_cons_of_ne_nil significant.nonempty
  have one : IsWhole [c] := (significant.take Nat.one_pos).isWhole
  have signAscii : (if leading < 0 then '-' else '+').toNat ≤ 127 := by split <;> decide
  have marked (text : List Char) :
      Text.encode (text ++ 'e' :: (if leading < 0 then '-' else '+') ::
        Nat.toDigits 10 leading.natAbs) ++ rest =
      Text.encode text ++ (0x65 :: UInt8.ofNat (if leading < 0 then '-' else '+').toNat ::
        (Text.encode (Nat.toDigits 10 leading.natAbs) ++ rest)) := by
    rw [Text.encode_append, Text.encode_cons_ascii (by decide), Text.encode_cons_ascii signAscii,
      List.append_assoc]
    rfl
  have stops (others : Bytes) : Text.Halts isDigitByte (0x65 :: others) := by
    rw [Text.halts_cons]
    decide
  cases more with
  | nil =>
      have text : Decimal.scientific [c] leading = [c] ++ 'e' ::
          (if leading < 0 then '-' else '+') :: Nat.toDigits 10 leading.natAbs := rfl
      rw [text, marked, readNumber_whole negative one (stops _) small]
      change readExponent negative _ 0 _ = _
      rw [readExponent_encode negative _ 0 (halts_digits halts) near]
      congr 1
      simp
  | cons next more =>
      have text : Decimal.scientific (c :: next :: more) leading =
          ([c] ++ '.' :: next :: more) ++ 'e' ::
            (if leading < 0 then '-' else '+') :: Nat.toDigits 10 leading.natAbs := by
        simp [Decimal.scientific]
      rw [text, marked, readNumber_real negative one
        (fun other member => significant.all other (List.mem_cons_of_mem _ member))
        (List.cons_ne_nil _ _) (stops _) small]
      change readExponent negative _ _ _ = _
      rw [readExponent_encode negative _ _ (halts_digits halts) near]
      congr 1
      simp only [List.length_cons]
      push_cast
      ring

/-- The text of a decimal is read as the decimal itself, or with a point further to the left. -/
theorem readNumber_decimal {decimal : Decimal} (positive : 0 < decimal.digits)
    (short : decimal.digits ≤ 10 ^ 18) (low : -1100 ≤ decimal.exponent)
    (high : decimal.exponent ≤ 308) (halts : Text.Halts isNumeral rest) :
    ∃ significand exponent,
      readNumber negative (Text.encode (decimal.text Binary.style) ++ rest) =
        fromParts negative significand exponent rest ∧
      (exponent < 0 ∨ significand = decimal.digits ∧ exponent = decimal.exponent) := by
  have significant := significant_toDigits positive
  have value : Nat.ofDigitChars 10 (Nat.toDigits 10 decimal.digits) 0 = decimal.digits :=
    Nat.ofDigitChars_ten_toDigits
  have shorter : decimal.digits < 10 ^ (Nat.toDigits 10 decimal.digits).length :=
    (Binary.digitCount_bounds positive).2
  unfold Decimal.text
  dsimp only
  split
  · rename_i style
    simp only [Binary.style, Bool.and_eq_true] at style
    obtain ⟨whole, fraction, text, isWhole, all, nonempty, small, -⟩ :=
      positional_eq significant value short shorter (of_decide_eq_true style.2)
    have length := List.length_pos_of_ne_nil nonempty
    refine ⟨Nat.ofDigitChars 10 (whole ++ fraction) 0, -(fraction.length : Int), ?_,
      Or.inl (by omega)⟩
    rw [text, readNumber_real negative isWhole all nonempty (halts_digits halts) small,
      finishReal_of_halts negative _ _ halts]
  · have count : (Nat.toDigits 10 decimal.digits).length ≤ 19 :=
      (Nat.length_toDigits_le_iff (by decide) (by decide)).mpr (short.trans_lt (by decide))
    have near : (decimal.exponent + ((Nat.toDigits 10 decimal.digits).length : Int) - 1).natAbs ≤
        maxExponent := by
      unfold maxExponent
      omega
    refine ⟨_, _, readNumber_scientific negative significant ?_ near halts, Or.inr ⟨value, ?_⟩⟩
    · rw [value]
      exact short.trans_lt (by decide)
    · omega

/-- The text of a double is read as a double. -/
theorem readNumber_float {number : Binary} (fits : number.Fits .double)
    (nonzero : 0 < number.significand) (halts : Text.Halts isNumeral rest) :
    ∃ value, readNumber negative
        (Text.encode ((Decimal.shortest .double number).text Binary.style) ++ rest) =
      .ok (.float value, rest) := by
  have near := Decimal.near_shortest fits nonzero
  obtain ⟨significand, exponent, read, parts⟩ :=
    readNumber_decimal negative near.positive near.short near.low near.high halts
  have scales : ∃ result, scale 4 (ofSignificand significand) exponent = some result := by
    rcases parts with down | ⟨rfl, rfl⟩
    · exact exists_scale_of_neg 4 (fits_ofSignificand _) down
    · exact exists_scale_shortest fits nonzero
  obtain ⟨result, scaled⟩ := scales
  exact ⟨_, read.trans (fromParts_of_scale negative rest scaled)⟩

theorem readNumber_zero (halts : Text.Halts isNumeral rest) :
    ∃ value, readNumber negative (Text.encode ['0', '.', '0'] ++ rest) =
      .ok (.float value, rest) := by
  have read := readNumber_real negative isWhole_zero digits_zero (by decide) (halts_digits halts)
    (by decide : Nat.ofDigitChars 10 (['0'] ++ ['0']) 0 < 2 ^ 64)
  rw [finishReal_of_halts negative _ _ halts] at read
  obtain ⟨result, scaled⟩ := exists_scale_of_neg 4
    (fits_ofSignificand (Nat.ofDigitChars 10 (['0'] ++ ['0']) 0))
    (by decide : -((['0'].length : Nat) : Int) < 0)
  exact ⟨_, read.trans (fromParts_of_scale negative rest scaled)⟩

/-- A number that ends with its integer part is an integer, if 64 bits hold it. -/
theorem finishNumber_of_halts (significand : Nat) (halts : Text.Halts isNumeral rest) :
    finishNumber negative significand rest =
      if negative then
        if significand = 0 || Nat.pow 2 63 < significand then
          .ok (.float { ofSignificand significand with negative := true }, rest)
        else .ok (.integer (-(significand : Int)), rest)
      else .ok (.integer significand, rest) := by
  cases rest with
  | nil => rfl
  | cons byte rest =>
      rw [Text.halts_cons] at halts
      simp only [isNumeral, Bool.or_eq_false_iff, beq_eq_false_iff_ne] at halts
      unfold finishNumber
      split
      · rename_i same
        exact absurd (List.cons.inj same).1 halts.1.1.2
      · rename_i same
        exact absurd (List.cons.inj same).1 halts.1.2
      · rename_i same
        exact absurd (List.cons.inj same).1 halts.2
      · rfl

theorem readNumber_toDigits {value : Nat} (small : value < 2 ^ 64)
    (halts : Text.Halts isNumeral rest) :
    readNumber negative (Text.encode (Nat.toDigits 10 value) ++ rest) =
      finishNumber negative value rest := by
  have whole : IsWhole (Nat.toDigits 10 value) := by
    rcases Nat.eq_zero_or_pos value with rfl | positive
    · exact isWhole_zero
    · exact (significant_toDigits positive).isWhole
  have same : Nat.ofDigitChars 10 (Nat.toDigits 10 value) 0 = value :=
    Nat.ofDigitChars_ten_toDigits
  rw [readNumber_whole negative whole (halts_digits halts) (same.trans_lt small), same]

end texts

/-- What a number may be read as. An integer is read as it is, and a double as one that need not be
the same. -/
def Number.ReadAs (number read : Number) : Prop := ∀ value, number = .integer value → read = number

/-- A number is written as digits behind its sign, and is read from them whatever follows. -/
structure Number.Written (number : Number) (negative : Bool) (magnitude : List Char) : Prop where
  text : number.text = if negative then '-' :: magnitude else magnitude
  first : ∃ c more, magnitude = c :: more ∧ c.isDigit = true
  read : ∀ rest, Text.Halts isNumeral rest →
    ∃ found, readNumber negative (Text.encode magnitude ++ rest) = .ok (found, rest) ∧
      number.ReadAs found

theorem toDigits_first (value : Nat) :
    ∃ c more, Nat.toDigits 10 value = c :: more ∧ c.isDigit = true := by
  obtain ⟨c, more, same⟩ :=
    List.exists_cons_of_ne_nil (Nat.toDigits_ne_nil (n := value) (b := 10))
  exact ⟨c, more, same, Literal.isDigit_of_mem_toDigits (by rw [same]; exact List.mem_cons_self)⟩

theorem written_natural {value : Nat} (small : value < 2 ^ 64) :
    (Number.integer value).Written false (Nat.toDigits 10 value) where
  text := Nat.toList_repr
  first := toDigits_first value
  read rest halts := by
    refine ⟨.integer value, ?_, fun _ _ => rfl⟩
    rw [readNumber_toDigits false small halts, finishNumber_of_halts false value halts]
    rfl

theorem written_negSucc {value : Nat} (small : value + 1 ≤ 2 ^ 63) :
    (Number.integer (.negSucc value)).Written true (Nat.toDigits 10 (value + 1)) where
  text := by
    change ("-" ++ Nat.repr (value + 1)).toList = _
    rw [String.toList_append, Nat.toList_repr]
    rfl
  first := toDigits_first (value + 1)
  read rest halts := by
    refine ⟨.integer (.negSucc value), ?_, fun _ _ => rfl⟩
    have fits : ¬ (decide (value + 1 = 0) || decide (Nat.pow 2 63 < value + 1)) = true := by
      have bound : ¬ Nat.pow 2 63 < value + 1 := Nat.not_lt.mpr small
      simp [bound]
    rw [readNumber_toDigits true (by omega) halts, finishNumber_of_halts true _ halts, if_pos rfl,
      if_neg fits]
    rfl

theorem written_double {number : Binary} (fits : number.Fits .double) :
    (Number.float number).Written number.negative
      (if number.isZero then ['0', '.', '0']
        else (Decimal.shortest .double number).text Binary.style) where
  text := rfl
  first := by
    split
    · exact ⟨'0', _, rfl, rfl⟩
    · exact Decimal.text_first _ _
  read rest halts := by
    have approximate (found : Number) : (Number.float number).ReadAs found := by
      rintro value ⟨⟩
    split
    · obtain ⟨value, read⟩ := readNumber_zero number.negative halts
      exact ⟨_, read, approximate _⟩
    · rename_i nonzero
      have positive : 0 < number.significand := by
        simp only [Binary.isZero, beq_iff_eq] at nonzero
        omega
      obtain ⟨value, read⟩ := readNumber_float number.negative fits positive halts
      exact ⟨_, read, approximate _⟩

theorem Number.exists_written {number : Number} (sound : number.Sound) :
    ∃ negative magnitude, number.Written negative magnitude := by
  cases number with
  | integer value =>
      obtain ⟨low, high⟩ := sound
      cases value with
      | ofNat value => exact ⟨_, _, written_natural (Int.ofNat_lt.mp high : value < 2 ^ 64)⟩
      | negSucc value => exact ⟨_, _, written_negSucc (by omega)⟩
  | float value => exact ⟨_, _, written_double sound⟩

section sound

/-- A number that is read is sound. -/
def Sounds (read : Except Stop (Number × Bytes)) : Prop :=
  ∀ number rest, read = .ok (number, rest) → number.Sound

theorem sounds_error (stop : Stop) : Sounds (.error stop) := fun _ _ read => by cases read

theorem sounds_float {number : Binary} (fits : number.Fits .double) (negative : Bool)
    (rest : Bytes) : Sounds (.ok (.float { number with negative }, rest)) := by
  intro read others same
  cases same
  exact ⟨fits.significand, fits.low, fits.high⟩

theorem takeDigits_lt {significand : Nat} (small : significand < 2 ^ 64) (count : Nat)
    (bytes : Bytes) : (takeDigits significand count bytes).significand < 2 ^ 64 := by
  induction bytes generalizing significand count with
  | nil => exact small
  | cons byte rest ih =>
      unfold takeDigits
      dsimp only
      split
      · rename_i fits
        simp only [Bool.and_eq_true, decide_eq_true_eq] at fits
        exact ih fits.2 (count + 1)
      · exact small

variable (negative : Bool) (significand : Nat) (exponent : Int) (bytes : Bytes)

theorem sounds_fromParts : Sounds (fromParts negative significand exponent bytes) := by
  unfold fromParts
  split
  · exact sounds_error _
  · rename_i result scaled
    exact sounds_float (fits_scale (fits_ofSignificand _) scaled) negative bytes

theorem sounds_readExponent : Sounds (readExponent negative significand exponent bytes) := by
  unfold readExponent
  split
  dsimp only
  split
  · exact sounds_error _
  · split
    · split
      · split
        · exact sounds_error _
        · exact sounds_float (Binary.fits_zero (by decide) negative) negative _
      · exact sounds_fromParts _ _ _ _
    · exact sounds_error _

theorem sounds_finishReal : Sounds (finishReal negative significand exponent bytes) := by
  unfold finishReal
  split
  · exact sounds_fromParts _ _ _ _
  · split
    · exact sounds_readExponent _ _ _ _
    · exact sounds_fromParts _ _ _ _

theorem sounds_readFraction : Sounds (readFraction negative significand exponent bytes) := by
  unfold readFraction
  dsimp only
  split
  · split <;> exact sounds_error _
  · exact sounds_finishReal _ _ _ _

theorem sounds_finishNumber {significand : Nat} (small : significand < 2 ^ 64) :
    Sounds (finishNumber negative significand bytes) := by
  unfold finishNumber
  split
  · exact sounds_readFraction _ _ _ _
  · exact sounds_readExponent _ _ _ _
  · exact sounds_readExponent _ _ _ _
  · split
    · split
      · exact sounds_float (fits_ofSignificand _) true _
      · rename_i least
        intro number rest same
        cases same
        simp only [Bool.or_eq_true, decide_eq_true_eq, not_or, not_lt] at least
        have bound : significand ≤ 2 ^ 63 := least.2
        constructor <;> omega
    · intro number rest same
      cases same
      constructor <;> omega

theorem sounds_finishLong : Sounds (finishLong negative significand bytes) := by
  unfold finishLong
  dsimp only
  split
  · exact sounds_readFraction _ _ _ _
  · exact sounds_finishReal _ _ _ _

theorem sounds_readNumber : Sounds (readNumber negative bytes) := by
  unfold readNumber
  split
  · exact sounds_error _
  · rename_i byte rest
    split
    · split
      · exact sounds_error _
      · exact sounds_finishNumber _ _ (by decide)
    · split
      · have start : digitOf byte < 2 ^ 64 := by
          have := byte.toNat_lt
          unfold digitOf
          omega
        dsimp only
        split
        · exact sounds_finishLong _ _ _
        · exact sounds_finishNumber _ _ (takeDigits_lt start 1 rest)
      · exact sounds_error _

end sound

end DatasetService.Json
