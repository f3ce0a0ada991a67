import DatasetService.Proofs.Text.Runs
import DatasetService.Text.Ascii
import Mathlib.Data.List.DropRight

set_option autoImplicit false

/- Trimming, and letters in lower case. Both are done once and for all, and it does not matter which
of them is done first. -/
namespace DatasetService.Text

section trim

variable {text : List Char}

theorem trim_trim (text : List Char) : trim (trim text) = trim text := by
  obtain ⟨ending, whole⟩ := List.rdropWhile_prefix isBlank (trimStart text)
  have start : Halts isBlank (trim text) := by
    intro c first
    refine halts_dropWhile isBlank text c ?_
    have head : (List.rdropWhile isBlank (trimStart text)).head? = some c := first
    rw [← trimStart, ← whole, List.head?_append, head]
    rfl
  rw [trim, trimStart, dropWhile_of_halts _ _ start]
  exact List.rdropWhile_idempotent isBlank (trimStart text)

theorem mem_of_mem_trim {c : Char} (member : c ∈ trim text) : c ∈ text := by
  have inStart := (List.dropWhile_sublist isBlank).subset (List.mem_reverse.mp member)
  exact (List.dropWhile_sublist isBlank).subset (List.mem_reverse.mp inStart)

/-- Nothing is left of a blank text, and of no other. -/
theorem trim_eq_nil_iff : trim text = [] ↔ isBlankText text = true := by
  refine ⟨fun empty => ?_, trim_eq_nil_of_blank text⟩
  refine List.all_eq_true.mpr fun c member => ?_
  by_contra graphic
  have left := mem_trim member (by simpa using graphic)
  rw [empty] at left
  cases left

end trim

section lower

theorem toNat_toLower (c : Char) :
    c.toLower.toNat = if 65 ≤ c.toNat ∧ c.toNat ≤ 90 then c.toNat + 32 else c.toNat := by
  unfold Char.toLower
  split
  · rename_i upper
    have low : 65 ≤ c.toNat := UInt32.le_iff_toNat_le.mp upper.1
    have high : c.toNat ≤ 90 := UInt32.le_iff_toNat_le.mp upper.2
    have sum : (c.val + 32).toNat = (c.toNat + 32) % 2 ^ 32 := UInt32.toNat_add c.val 32
    rw [if_pos ⟨low, high⟩]
    exact sum.trans (Nat.mod_eq_of_lt (by omega))
  · rename_i other
    rw [if_neg]
    rintro ⟨low, high⟩
    exact other ⟨UInt32.le_iff_toNat_le.mpr low, UInt32.le_iff_toNat_le.mpr high⟩

/-- No letter becomes another mark. -/
theorem toLower_eq_iff {c mark : Char} (unlettered : mark.toNat < 65) :
    c.toLower = mark ↔ c = mark := by
  have small := toNat_toLower c
  rw [← Char.toNat_inj, ← Char.toNat_inj, small]
  split <;> omega

theorem isBlank_toLower (c : Char) : isBlank c.toLower = isBlank c := by
  have small := toNat_toLower c
  split at small
  · have graphic (letter : Char) (low : 65 ≤ letter.toNat) (high : letter.toNat ≤ 122) :
        isBlank letter = false := by
      simp only [isBlank, blankRanges, List.any_cons, List.any_nil, Bool.or_false,
        Bool.or_eq_false_iff, Bool.and_eq_false_imp, decide_eq_true_eq, decide_eq_false_iff_not]
      omega
    rw [graphic c (by omega) (by omega), graphic c.toLower (by omega) (by omega)]
  · simp only [isBlank, small]

theorem lower_lower (text : List Char) : lower (lower text) = lower text := by
  have again (c : Char) : c.toLower.toLower = c.toLower := by
    rw [← Char.toNat_inj, toNat_toLower c.toLower, toNat_toLower c]
    grind
  simp [lower, again]

theorem dropWhile_isBlank_lower (text : List Char) :
    (lower text).dropWhile isBlank = lower (text.dropWhile isBlank) := by
  have same : isBlank ∘ Char.toLower = isBlank := funext isBlank_toLower
  rw [lower, List.dropWhile_map, same, lower]

theorem trim_lower (text : List Char) : trim (lower text) = lower (trim text) := by
  have reversed (part : List Char) : (lower part).reverse = lower part.reverse := by simp [lower]
  simp only [trim, trimStart, trimEnd, dropEndWhile, dropWhile_isBlank_lower, reversed]

theorem mem_lower_iff {mark : Char} (unlettered : mark.toNat < 65) {text : List Char} :
    mark ∈ lower text ↔ mark ∈ text := by
  simp only [lower, List.mem_map, toLower_eq_iff unlettered, exists_eq_right]

end lower

end DatasetService.Text
