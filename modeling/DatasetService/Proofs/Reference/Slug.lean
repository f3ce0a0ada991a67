import DatasetService.Proofs.Reference.Grammar

set_option autoImplicit false

/- The text of a dataset: two words with a slash between them, and no other mark. -/
namespace DatasetService.Reference

/-- The dataset that a reference is to, without version and selector. -/
def dataset (reference : Reference) : Reference :=
  { username := reference.username, name := reference.name }

theorem text_dataset (reference : Reference) : reference.dataset.text = reference.slug := by
  simp [text, dataset, slug, hasName]

theorem WellFormed.dataset {reference : Reference} (wellFormed : reference.WellFormed) :
    reference.dataset.WellFormed where
  user := wellFormed.user
  notOwner := wellFormed.notOwner
  parts := by
    rcases wellFormed.parts with ⟨unnamed, -, -⟩ | ⟨named, -, -⟩
    · exact Or.inl ⟨unnamed, rfl, rfl⟩
    · exact Or.inr ⟨named, by simp [Reference.dataset], by simp [Reference.dataset]⟩

section slug

variable {reference : Reference} (wellFormed : reference.WellFormed)
  (named : reference.hasName = true)
include wellFormed named

theorem WellFormed.name_word : Word IdentifierChar reference.name.toList := by
  rcases wellFormed.parts with ⟨unnamed, -, -⟩ | ⟨word, -, -⟩
  · simp [hasName, unnamed] at named
  · exact word

omit wellFormed in
theorem slug_toList : reference.slug.toList =
    Text.joinWith '/' [reference.username.toList, reference.name.toList] := by
  simp [slug, named, Text.joinWith]

theorem WellFormed.slug_words :
    ∀ piece ∈ [reference.username.toList, reference.name.toList], Word IdentifierChar piece := by
  simpa using ⟨wellFormed.user, wellFormed.name_word named⟩

theorem WellFormed.slug_chars {c : Char} (member : c ∈ reference.slug.toList) :
    isIdentifierChar c = true ∨ c = '/' := by
  rw [slug_toList named] at member
  rcases Text.mem_of_mem_joinWith '/' _ c member with slash | ⟨piece, isPiece, inside⟩
  · exact Or.inr slash
  · have identifier := (wellFormed.slug_words named piece isPiece).2 c inside
    exact Or.inl ((isIdentifierChar_iff c).mpr identifier)

/-- No other mark stands in the text of a dataset. -/
theorem WellFormed.not_mem_slug {mark : Char} (other : isIdentifierChar mark = false)
    (noSlash : mark ≠ '/') : mark ∉ reference.slug.toList := by
  intro member
  rcases wellFormed.slug_chars named member with identifier | slash
  · rw [other] at identifier
    cases identifier
  · exact noSlash slash

/-- The text of a dataset begins and ends with a character of a name. -/
theorem WellFormed.slug_halts : Text.Halts (· == '/') reference.slug.toList ∧
    Text.Halts (· == '/') reference.slug.toList.reverse := by
  have words := wellFormed.slug_words named
  rw [slug_toList named]
  exact Text.halts_joinWith (· == '/') '/' _ (fun piece member => (words piece member).1)
    fun piece member => (words piece member).inPath.free

theorem WellFormed.slug_ne_nil : reference.slug.toList ≠ [] := by
  have user := wellFormed.user.1
  rw [slug_toList named]
  exact Text.joinWith_ne_nil '/' _ _ user

end slug

end DatasetService.Reference
