set_option autoImplicit false

/- Blank characters: the Unicode property White_Space. Trimming removes them at both
ends, and words are the longest runs without one. -/
namespace DatasetService.Text

/-- The code points with the property White_Space, as closed ranges. -/
def blankRanges : List (Nat × Nat) :=
  [(0x09, 0x0D), (0x20, 0x20), (0x85, 0x85), (0xA0, 0xA0), (0x1680, 0x1680),
   (0x2000, 0x200A), (0x2028, 0x2029), (0x202F, 0x202F), (0x205F, 0x205F), (0x3000, 0x3000)]

def isBlank (c : Char) : Bool :=
  blankRanges.any fun range => range.1 ≤ c.toNat && c.toNat ≤ range.2

/-- Drop the longest final run of elements that satisfy the test. -/
def dropEndWhile {α : Type} (test : α → Bool) (items : List α) : List α :=
  (items.reverse.dropWhile test).reverse

def trimStart (text : List Char) : List Char := text.dropWhile isBlank

def trimEnd (text : List Char) : List Char := dropEndWhile isBlank text

def trim (text : List Char) : List Char := trimEnd (trimStart text)

/-- Whether a text holds nothing but blank characters. -/
def isBlankText (text : List Char) : Bool := text.all isBlank

theorem dropWhile_eq_nil_of_all {α : Type} (test : α → Bool) (items : List α)
    (h : items.all test = true) : items.dropWhile test = [] := by
  induction items with
  | nil => rfl
  | cons item rest ih =>
      simp only [List.all_cons, Bool.and_eq_true] at h
      simp [h.1, ih h.2]

/-- A blank text is trimmed to nothing. -/
theorem trim_eq_nil_of_blank (text : List Char) (h : isBlankText text = true) :
    trim text = [] := by
  simp [trim, trimEnd, trimStart, dropEndWhile, dropWhile_eq_nil_of_all isBlank text h]

end DatasetService.Text
