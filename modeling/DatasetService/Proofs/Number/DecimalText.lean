import DatasetService.Number.Literal
import DatasetService.Proofs.Number.Shortest
import DatasetService.Proofs.Text.Runs

set_option autoImplicit false

/- The texts of decimals. They begin with a digit, and those without an exponent are a whole part, a
point and a fraction. -/
namespace DatasetService.Decimal

/-- Digits with no zero in front of others. -/
structure IsWhole (digits : List Char) : Prop where
  all : ∀ c ∈ digits, c.isDigit = true
  nonempty : digits ≠ []
  first : digits = ['0'] ∨ Text.Halts (· == '0') digits

theorem halts_toDigits {value : Nat} (positive : 0 < value) :
    Text.Halts (· == '0') (Nat.toDigits 10 value) := by
  induction value using Nat.strong_induction_on with
  | _ value ih =>
      rcases lt_or_ge value 10 with small | large
      · rw [Nat.toDigits_of_lt_base small, Text.halts_cons]
        simpa using positive.ne'
      · rw [Nat.toDigits_of_base_le (by decide) large]
        exact Text.halts_append Nat.toDigits_ne_nil
          (ih (value / 10) (Nat.div_lt_self positive (by decide))
            (Nat.div_pos large (by decide)))

/-- The digits of a number other than zero, and what may follow them in its whole part. -/
structure Significant (digits : List Char) : Prop where
  all : ∀ c ∈ digits, c.isDigit = true
  nonempty : digits ≠ []
  first : Text.Halts (· == '0') digits

theorem significant_toDigits {value : Nat} (positive : 0 < value) :
    Significant (Nat.toDigits 10 value) :=
  ⟨fun _ member => Literal.isDigit_of_mem_toDigits member, Nat.toDigits_ne_nil,
    halts_toDigits positive⟩

namespace Significant

variable {digits : List Char} (significant : Significant digits)
include significant

theorem isWhole : IsWhole digits :=
  ⟨significant.all, significant.nonempty, Or.inr significant.first⟩

theorem append {more : List Char} (all : ∀ c ∈ more, c.isDigit = true) :
    Significant (digits ++ more) where
  all := fun c member => (List.mem_append.mp member).elim (significant.all c) (all c)
  nonempty := List.append_ne_nil_of_left_ne_nil significant.nonempty _
  first := Text.halts_append significant.nonempty significant.first

theorem take {count : Nat} (some : 0 < count) : Significant (digits.take count) where
  all := fun c member => significant.all c (List.mem_of_mem_take member)
  nonempty := by
    have nonempty := significant.nonempty
    simp [nonempty, Nat.ne_of_gt some]
  first := by
    have first := significant.first
    rwa [Text.Halts, List.head?_take, if_neg (Nat.ne_of_gt some)]

end Significant

theorem digits_zero : ∀ c ∈ ['0'], c.isDigit = true := List.forall_mem_singleton.mpr rfl

theorem isWhole_zero : IsWhole ['0'] := ⟨digits_zero, by decide, Or.inl rfl⟩

theorem all_zeros (count : Nat) : ∀ c ∈ zeros count, c.isDigit = true := by
  intro c member
  rw [List.eq_of_mem_replicate member]
  rfl

/-- A text without an exponent is a whole part, a point and a fraction, whose digits have a small
value. Together they denote the digits with the first one in its place. -/
theorem positional_eq {digits : List Char} {value : Nat} {leading : Int}
    (significant : Significant digits) (valued : Nat.ofDigitChars 10 digits 0 = value)
    (short : value ≤ 10 ^ 18) (shorter : value < 10 ^ digits.length) (style : leading ≤ 15) :
    ∃ whole fraction, positional digits leading = whole ++ '.' :: fraction ∧
      IsWhole whole ∧ (∀ c ∈ fraction, c.isDigit = true) ∧ fraction ≠ [] ∧
      Nat.ofDigitChars 10 (whole ++ fraction) 0 < 2 ^ 64 ∧
      (Nat.ofDigitChars 10 (whole ++ fraction) 0 : ℚ) * 10 ^ (-(fraction.length : Int)) =
        value * 10 ^ (leading + 1 - (digits.length : Int)) := by
  have fits : value < 2 ^ 64 := short.trans_lt (by decide)
  unfold positional
  split
  · rename_i negative
    have same : Nat.ofDigitChars 10
        (['0'] ++ (zeros ((-leading).toNat - 1) ++ digits)) 0 = value := by
      rw [Nat.ofDigitChars_append, Nat.ofDigitChars_append, zeros,
        Nat.ofDigitChars_replicate_zero]
      change Nat.ofDigitChars 10 digits (_ * 0) = _
      rw [Nat.mul_zero, valued]
    refine ⟨['0'], zeros ((-leading).toNat - 1) ++ digits, by simp, isWhole_zero, ?_, ?_,
      same.trans_lt fits, ?_⟩
    · exact fun c member => (List.mem_append.mp member).elim (all_zeros _ c) (significant.all c)
    · exact List.append_ne_nil_of_right_ne_nil _ significant.nonempty
    · rw [same]
      congr 2
      simp only [List.length_append, zeros, List.length_replicate]
      omega
  · dsimp only
    split
    · rename_i nonneg fills
      have same : Nat.ofDigitChars 10
          (digits ++ zeros (leading.toNat + 1 - digits.length) ++ ['0']) 0 =
          10 * (10 ^ (leading.toNat + 1 - digits.length) * value) := by
        rw [Nat.ofDigitChars_append, Nat.ofDigitChars_append, valued, zeros,
          Nat.ofDigitChars_replicate_zero]
        rfl
      refine ⟨digits ++ zeros (leading.toNat + 1 - digits.length), ['0'], by simp,
        (significant.append (all_zeros _)).isWhole, digits_zero, by decide, ?_, ?_⟩
      · have grown : 10 ^ (leading.toNat + 1 - digits.length) * value <
            10 ^ (leading.toNat + 1) := by
          calc 10 ^ (leading.toNat + 1 - digits.length) * value
              < 10 ^ (leading.toNat + 1 - digits.length) * 10 ^ digits.length :=
                Nat.mul_lt_mul_of_pos_left shorter (Nat.pow_pos (by decide))
            _ = 10 ^ (leading.toNat + 1) := by rw [← Nat.pow_add, Nat.sub_add_cancel fills]
        have most : 10 ^ (leading.toNat + 1) ≤ 10 ^ 16 :=
          Nat.pow_le_pow_right (by decide) (by omega)
        omega
      · have exponent : leading + 1 - (digits.length : Int) =
            (leading.toNat + 1 - digits.length : Nat) := by omega
        rw [same, exponent, zpow_natCast]
        push_cast
        simp only [List.length_singleton, Nat.cast_one, zpow_neg_one]
        field_simp
    · rename_i nonneg exceeds
      refine ⟨digits.take (leading.toNat + 1), digits.drop (leading.toNat + 1), rfl,
        (significant.take (Nat.succ_pos _)).isWhole,
        fun c member => significant.all c (List.mem_of_mem_drop member), ?_, ?_, ?_⟩
      · simpa using exceeds
      · rwa [List.take_append_drop, valued]
      · rw [List.take_append_drop, valued]
        congr 2
        rw [List.length_drop]
        omega

/-- A fraction, with a point before it if it has any digits. -/
def pointed : List Char → List Char
  | [] => []
  | fraction => '.' :: fraction

theorem pointed_of_ne_nil {fraction : List Char} (nonempty : fraction ≠ []) :
    pointed fraction = '.' :: fraction := by
  obtain ⟨c, more, rfl⟩ := List.exists_cons_of_ne_nil nonempty
  rfl

theorem scientific_eq (c : Char) (more : List Char) (leading : Int) :
    scientific (c :: more) leading = [c] ++ (pointed more ++
      'e' :: (if leading < 0 then '-' else '+') :: Nat.toDigits 10 leading.natAbs) := by
  cases more with
  | nil => rfl
  | cons next more => simp [scientific, pointed]

theorem text_first (style : Style) (decimal : Decimal) :
    ∃ c more, decimal.text style = c :: more ∧ c.isDigit = true := by
  obtain ⟨c, more, same⟩ :=
    List.exists_cons_of_ne_nil (Nat.toDigits_ne_nil (n := decimal.digits) (b := 10))
  have digit : c.isDigit = true :=
    Literal.isDigit_of_mem_toDigits (by rw [same]; exact List.mem_cons_self)
  unfold text positional scientific
  rw [same]
  dsimp only
  split
  · split
    · exact ⟨'0', _, rfl, rfl⟩
    · split
      · exact ⟨c, _, rfl, digit⟩
      · exact ⟨c, _, rfl, digit⟩
  · exact ⟨c, _, rfl, digit⟩

/-- The text of a decimal has a point or an exponent. -/
theorem exists_mark_text (style : Style) (decimal : Decimal) :
    ∃ mark ∈ decimal.text style, mark = '.' ∨ mark = 'e' := by
  unfold text positional scientific
  dsimp only
  split
  · refine ⟨'.', ?_, Or.inl rfl⟩
    split
    · simp
    · split
      · simp
      · simp
  · exact ⟨'e', by simp, Or.inr rfl⟩

end DatasetService.Decimal
