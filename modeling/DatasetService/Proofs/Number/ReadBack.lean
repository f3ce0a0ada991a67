import DatasetService.Proofs.Number.DecimalText
import DatasetService.Proofs.Number.Nearest

set_option autoImplicit false

/- Numbers are read back from their texts: what is written for an integer or a double denotes it,
and the text of a double does not denote an integer. -/
namespace DatasetService.Literal

open Decimal (pointed)

theorem toList_toString_natCast (value : Nat) :
    (toString (value : Int)).toList = Nat.toDigits 10 value := by
  have same : toString (value : Int) = toString value := rfl
  rw [same, Nat.toString_eq_repr, Nat.toList_repr]

theorem toList_toString_negSucc (value : Nat) :
    (toString (Int.negSucc value)).toList = '-' :: Nat.toDigits 10 (value + 1) := by
  have same : toString (Int.negSucc value) = "-" ++ toString (value + 1) := rfl
  rw [same, Nat.toString_eq_repr, String.toList_append, Nat.toList_repr]
  rfl

/-- An integer is written with digits, and perhaps a sign before them. -/
theorem isDigit_of_mem_toString {value : Int} {c : Char} (member : c ∈ (toString value).toList) :
    c.isDigit = true ∨ c = '-' := by
  cases value with
  | ofNat value =>
      have text : (toString (Int.ofNat value)).toList = Nat.toDigits 10 value :=
        toList_toString_natCast value
      rw [text] at member
      exact Or.inl (isDigit_of_mem_toDigits member)
  | negSucc value =>
      rw [toList_toString_negSucc] at member
      rcases List.mem_cons.mp member with sign | digit
      · exact Or.inr sign
      · exact Or.inl (isDigit_of_mem_toDigits digit)

/-- An integer of 64 bits is read from its text. -/
theorem signed?_toString {value : Int} (low : minSigned ≤ value) (high : value ≤ maxSigned) :
    signed? (toString value).toList = some value := by
  have kept : (some value).filter (fun value => minSigned ≤ value && value ≤ maxSigned) =
      some value := by
    simp [low, high]
  cases value with
  | ofNat value =>
      have unsigned (mark : Char) (other : mark.isDigit = false) (rest : List Char)
          (equal : Nat.toDigits 10 value = mark :: rest) : False := by
        have digit := isDigit_of_mem_toDigits (equal ▸ List.mem_cons_self : mark ∈ _)
        rw [other] at digit
        cases digit
      have text : (toString (Int.ofNat value)).toList = Nat.toDigits 10 value :=
        toList_toString_natCast value
      rw [text, signed?]
      · rw [digits?_toDigits]
        exact kept
      · exact unsigned '+' (by decide)
      · exact unsigned '-' (by decide)
  | negSucc value =>
      rw [toList_toString_negSucc, signed?, digits?_toDigits]
      exact kept

theorem digits?_eq_none {text : List Char} {mark : Char} (member : mark ∈ text)
    (other : mark.isDigit = false) : digits? text = none := by
  have some : text.isEmpty = false := by
    cases text with
    | nil => cases member
    | cons c rest => rfl
  have mixed : ¬ text.all Char.isDigit = true := by
    intro all
    rw [List.all_eq_true.mp all mark member] at other
    cases other
  rw [digits?, some, if_neg mixed]
  rfl

/-- A text with anything but digits behind its sign is no integer. -/
theorem signed?_eq_none {text : List Char} {mark : Char} (member : mark ∈ text)
    (other : mark.isDigit = false) (unsigned : mark ≠ '+' ∧ mark ≠ '-') : signed? text = none := by
  unfold signed?
  split
  · have rest := List.mem_of_ne_of_mem unsigned.1 member
    rw [digits?_eq_none rest other]
    rfl
  · have rest := List.mem_of_ne_of_mem unsigned.2 member
    rw [digits?_eq_none rest other]
    rfl
  · rw [digits?_eq_none member other]
    rfl

section reals

variable {whole fraction tail : List Char}

theorem toLower_of_isDigit {c : Char} (digit : c.isDigit = true) : c.toLower = c := by
  have most : c.toNat ≤ 57 := (Char.isDigit_iff_toNat.mp digit).2
  have notUpper : ¬ (c.val ≥ 'A'.val ∧ c.val ≤ 'Z'.val) := by
    rintro ⟨least, -⟩
    have : 65 ≤ c.toNat := UInt32.le_iff_toNat_le.mp least
    omega
  exact dif_neg notUpper

/-- A text that begins with a digit is no word. -/
theorem lower_ne_word {c : Char} {rest word : List Char} (digit : c.isDigit = true)
    (letter : word.head?.all Char.isDigit = false) : Text.lower (c :: rest) ≠ word := by
  rintro rfl
  have head : (Text.lower (c :: rest)).head? = some c.toLower := rfl
  rw [head, toLower_of_isDigit digit, Option.all_some, digit] at letter
  cases letter

variable (negative : Bool)

/-- The whole part, the fraction and the exponent are read one after the other. -/
theorem unsignedReal?_eq (nonempty : whole ≠ []) (digits : ∀ c ∈ whole, c.isDigit = true)
    (fractionDigits : ∀ c ∈ fraction, c.isDigit = true) (halts : Text.Halts Char.isDigit tail)
    (noPoint : Text.Halts (· == '.') tail) :
    unsignedReal? negative (whole ++ (pointed fraction ++ tail)) =
      (exponent? tail).map fun exponent =>
        .decimal negative (natOfDigits (whole ++ fraction))
          (exponent - (fraction.length : Int)) := by
  obtain ⟨c, more, rfl⟩ := List.exists_cons_of_ne_nil nonempty
  have words {word : List Char} (letter : word.head?.all Char.isDigit = false) :
      Text.lower (c :: more ++ (pointed fraction ++ tail)) ≠ word :=
    lower_ne_word (digits c List.mem_cons_self) letter
  have noWord :
      ¬ (decide (Text.lower (c :: more ++ (pointed fraction ++ tail)) = "inf".toList) ||
        decide (Text.lower (c :: more ++ (pointed fraction ++ tail)) =
          "infinity".toList)) = true := by
    rw [decide_eq_false (words (by decide)), decide_eq_false (words (by decide))]
    decide
  -- The whole part ends at the point, or without a fraction at the exponent.
  have stops : Text.Halts Char.isDigit (pointed fraction ++ tail) := by
    cases fraction with
    | nil => exact halts
    | cons first others => exact (Text.halts_cons _ _ _).mpr (by decide)
  have wholeRun := (Text.run_eq_iff Char.isDigit _ (c :: more) _).mpr ⟨rfl, digits, stops⟩
  unfold unsignedReal?
  dsimp only
  rw [if_neg (words (by decide)), if_neg noWord, wholeRun.1, wholeRun.2]
  cases fraction with
  | nil =>
      rw [pointed, List.nil_append]
      split
      · rw [Text.halts_cons] at noPoint
        cases noPoint
      · simp
  | cons first others =>
      have fractionRun := (Text.run_eq_iff Char.isDigit _ (first :: others) tail).mpr
        ⟨rfl, fractionDigits, halts⟩
      have point : pointed (first :: others) ++ tail = '.' :: (first :: others ++ tail) := rfl
      rw [point]
      split
      · rename_i rest same
        obtain rfl := (List.cons.inj same).2
        rw [fractionRun.1, fractionRun.2]
        rfl
      · rename_i other
        exact absurd rfl (other _)

/-- An exponent is read back with its sign. -/
theorem exponent?_eq (exponent : Int) :
    exponent? ('e' :: (if exponent < 0 then '-' else '+') ::
      Nat.toDigits 10 exponent.natAbs) = some exponent := by
  rcases lt_or_ge exponent 0 with down | up
  · have value : -Int.ofNat exponent.natAbs = exponent := by
      rw [Int.ofNat_eq_natCast]
      omega
    rw [if_pos down, exponent?, if_pos (by decide)]
    simp only [digits?_toDigits, Option.map_some, value]
  · have value : Int.ofNat exponent.natAbs = exponent := by
      rw [Int.ofNat_eq_natCast]
      omega
    rw [if_neg (not_lt.mpr up), exponent?, if_pos (by decide)]
    simp only [digits?_toDigits, Option.map_some, value]

/-- The text of a decimal is read as a decimal of the same magnitude. -/
theorem exists_unsignedReal?_text {decimal : Decimal} (positive : 0 < decimal.digits)
    (short : decimal.digits ≤ 10 ^ 18) :
    ∃ read : Decimal, read.magnitude = decimal.magnitude ∧
      unsignedReal? negative (decimal.text Binary.style) =
        some (.decimal negative read.digits read.exponent) := by
  have significant := Decimal.significant_toDigits positive
  have valued : Nat.ofDigitChars 10 (Nat.toDigits 10 decimal.digits) 0 = decimal.digits :=
    Nat.ofDigitChars_ten_toDigits
  have shorter : decimal.digits < 10 ^ (Nat.toDigits 10 decimal.digits).length :=
    (Binary.digitCount_bounds positive).2
  -- A text with a point may have other digits, with zeros at its ends, and so another exponent.
  unfold Decimal.text
  dsimp only
  generalize Nat.toDigits 10 decimal.digits = digits at *
  split
  · rename_i style
    simp only [Binary.style, Bool.and_eq_true] at style
    obtain ⟨whole, fraction, text, isWhole, all, nonempty, -, value⟩ :=
      Decimal.positional_eq significant valued short shorter (of_decide_eq_true style.2)
    refine ⟨⟨Nat.ofDigitChars 10 (whole ++ fraction) 0, -(fraction.length : Int)⟩, ?_, ?_⟩
    · have place : decimal.exponent + (digits.length : Int) - 1 + 1 - (digits.length : Int) =
          decimal.exponent := by omega
      rw [place] at value
      exact value
    · have marked : whole ++ '.' :: fraction = whole ++ (pointed fraction ++ []) := by
        rw [Decimal.pointed_of_ne_nil nonempty, List.append_nil]
      rw [text, marked, unsignedReal?_eq negative isWhole.nonempty isWhole.all all
        (Text.halts_nil _) (Text.halts_nil _), natOfDigits_eq]
      simp [exponent?]
  · obtain ⟨c, more, rfl⟩ := List.exists_cons_of_ne_nil significant.nonempty
    refine ⟨decimal, rfl, ?_⟩
    rw [Decimal.scientific_eq, unsignedReal?_eq negative (List.cons_ne_nil _ _)
      (List.forall_mem_singleton.mpr (significant.all c List.mem_cons_self))
      (fun other member => significant.all other (List.mem_cons_of_mem _ member))
      ((Text.halts_cons _ 'e' _).mpr (by decide)) ((Text.halts_cons _ 'e' _).mpr (by decide)),
      exponent?_eq, natOfDigits_eq, List.singleton_append, valued]
    simp only [Option.map_some, List.length_cons, Nat.cast_add, Nat.cast_one, Option.some.injEq,
      Real.decimal.injEq, true_and]
    omega

/-- A sign before a number is read as its sign. -/
theorem real?_signed {magnitude : List Char} (first : ∃ c more, magnitude = c :: more ∧
    c.isDigit = true) :
    real? (if negative then '-' :: magnitude else magnitude) =
      unsignedReal? negative magnitude := by
  obtain ⟨c, more, rfl, digit⟩ := first
  cases negative with
  | true => rfl
  | false =>
      rw [if_neg Bool.false_ne_true, real?]
      · rintro rest same
        rw [(List.cons.inj same).1] at digit
        cases digit
      · rintro rest same
        rw [(List.cons.inj same).1] at digit
        cases digit

end reals

section doubles

variable {number : Binary}

theorem canonical_of_finite? {text : List Char} (read : finite? .double text = some number) :
    number.Canonical .double := by
  unfold finite? at read
  split at read
  · exact Binary.canonical_of_ofDecimal (by decide) (by decide) read
  · cases read

/-- A double is read back from its text. -/
theorem finite?_text (canonical : number.Canonical .double) :
    finite? .double (number.text .double) = some number := by
  unfold Binary.text
  dsimp only
  rcases Nat.eq_zero_or_pos number.significand with none | positive
  · have isZero : number.isZero = true := by rw [Binary.isZero, none]; rfl
    have zero : unsignedReal? number.negative ['0', '.', '0'] =
        some (.decimal number.negative 0 (-1)) := by
      cases number.negative <;> decide
    rw [if_pos isZero, finite?, real?_signed number.negative ⟨'0', _, rfl, rfl⟩, zero]
    dsimp only
    rw [canonical.eq_zero none]
    rfl
  · have nonzero : ¬ number.isZero = true := by
      rw [Binary.isZero, beq_iff_eq]
      exact positive.ne'
    -- The decimal that is read is the same point of the interval as the one that was written.
    have near := Decimal.near_shortest canonical.toFits positive
    obtain ⟨read, same, reads⟩ :=
      exists_unsignedReal?_text number.negative near.positive near.short
    have holds := Decimal.holds_shortest canonical.toFits positive
    rw [← same] at holds
    rw [if_neg nonzero, finite?, real?_signed number.negative (Decimal.text_first _ _), reads]
    exact Binary.ofDecimal_of_holds canonical positive holds number.negative

/-- The text of a double is not that of an integer. -/
theorem signed?_text (number : Binary) : signed? (number.text .double) = none := by
  obtain ⟨mark, member, kind⟩ : ∃ mark ∈ number.text .double, mark = '.' ∨ mark = 'e' := by
    have magnitude : ∃ mark ∈ (if number.isZero then ['0', '.', '0']
        else (Decimal.shortest .double number).text Binary.style), mark = '.' ∨ mark = 'e' := by
      split
      · exact ⟨'.', by simp, Or.inl rfl⟩
      · exact Decimal.exists_mark_text _ _
    obtain ⟨mark, member, kind⟩ := magnitude
    unfold Binary.text
    dsimp only
    split
    · exact ⟨mark, List.mem_cons_of_mem _ member, kind⟩
    · exact ⟨mark, member, kind⟩
  rcases kind with rfl | rfl
  · exact signed?_eq_none member (by decide) (by decide)
  · exact signed?_eq_none member (by decide) (by decide)

end doubles

end DatasetService.Literal
