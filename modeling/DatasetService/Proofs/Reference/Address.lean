import DatasetService.Proofs.Reference.Owner

set_option autoImplicit false

/- References as addresses: the text of a reference, asked for as it stands. It is read as the
reference whoever asks for it, unless it has a segment `at` of its own. That is put as one more `@`
than a reference can have. -/
namespace DatasetService.Reference

/-- A reference with a segment `at` where the path of a request would have one for `@`. -/
def Marked (reference : Reference) : Prop :=
  versionMarker ∈ (Text.splitAt '/' reference.text.toList).drop 2

instance (reference : Reference) : Decidable reference.Marked :=
  inferInstanceAs (Decidable (versionMarker ∈ (Text.splitAt '/' reference.text.toList).drop 2))

section count

variable {mark : Char}

theorem count_joinWith {separator : Char} (other : mark ≠ separator)
    (segments : List (List Char)) :
    (Text.joinWith separator segments).count mark = (segments.map (List.count mark)).sum := by
  induction segments with
  | nil => rfl
  | cons segment rest ih =>
      cases rest with
      | nil => simp [Text.joinWith]
      | cons next more =>
          rw [Text.joinWith_cons_cons, List.count_append, List.count_cons_of_ne other.symm, ih]
          rfl

theorem count_versionText (other : mark ≠ '/') (segments : List (List Char)) :
    (versionText segments).count mark = (segments.map (List.count mark)).sum := by
  rw [← count_joinWith other]
  unfold versionText
  split
  · rename_i none
    rw [none]
  · rw [List.count_cons_of_ne other.symm]

/-- A segment `at` is put as one `@`, and no other one is taken away. -/
theorem count_markedText {segments : List (List Char)}
    (marks : versionMarker ∈ segments.drop 2) :
    (markedText segments).count '@' = (Text.joinWith '/' segments).count '@' + 1 := by
  have other : '@' ≠ '/' := by decide
  have unversioned : versionMarker.count '@' = 0 := by decide
  rw [count_joinWith other]
  unfold markedText
  split
  · rename_i cut
    exact absurd marks ((cutAtMarker_eq_none_iff _).mp cut)
  · rename_i before after cut
    have rest : (segments.map (List.count '@')).sum =
        ((segments.take 2 ++ before).map (List.count '@')).sum +
          (after.map (List.count '@')).sum := by
      conv => lhs; rw [segments_of_cut cut]
      rw [List.map_append, List.sum_append, List.map_cons, List.sum_cons, unversioned,
        Nat.zero_add]
    rw [rest, List.count_append, List.count_cons_self, count_joinWith other,
      count_versionText other, Nat.add_assoc]

theorem count_dropTrailingSlash (other : mark ≠ '/') (text : List Char) :
    (dropTrailingSlash text).count mark = text.count mark := by
  unfold dropTrailingSlash
  split
  · rename_i slash
    have whole := List.dropLast_append_getLast? '/' slash
    conv => rhs; rw [← whole]
    rw [List.count_append, List.count_singleton, if_neg (by simpa using other.symm), Nat.add_zero]
  · rfl

/-- The alias has no `@`, so that none is lost with it. -/
theorem count_le_substituteOwner (owner text : List Char) :
    text.count '@' ≤ (substituteOwner owner text).count '@' := by
  have unversioned : ownerAlias.toList.count '@' = 0 := by decide
  rw [substituteOwner_eq]
  split
  · rename_i first
    conv => lhs; rw [← List.takeWhile_append_dropWhile (p := (· != '/')) (l := text)]
    rw [first, List.count_append, List.count_append, unversioned]
    omega
  · exact Nat.le_refl _

theorem count_of_chars {text : List Char} (chars : ∀ c ∈ text, PathChar c ∨ c = '/') :
    text.count '@' = 0 := by
  rw [List.count_eq_zero]
  intro member
  rcases chars '@' member with inPath | slash
  · exact absurd ((isPathChar_iff '@').mpr inPath) (by decide)
  · cases slash

end count

section text

variable {reference : Reference} (wellFormed : reference.WellFormed)
include wellFormed

theorem WellFormed.count_text_le : reference.text.toList.count '@' ≤ 1 := by
  have user : reference.username.toList.count '@' = 0 :=
    count_of_chars fun c member => Or.inl (wellFormed.user.inPath.2 c member)
  have selector : (optionalPart "/" reference.selector).toList.count '@' = 0 := by
    cases selected : reference.selector with
    | none => rfl
    | some selector =>
        have path := wellFormed.selectorPath selector selected
        rw [optionalPart_selector, List.count_cons_of_ne (by decide), count_of_chars path.chars]
  rw [text_toList, List.count_append, List.count_append, List.count_append, user, selector]
  rcases wellFormed.parts with ⟨unnamed, path, -⟩ | ⟨word, versions, -⟩
  · simp [unnamed, path]
  · have named : reference.name ≠ "" := fun empty => word.1 (by simp [empty])
    have name : reference.name.toList.count '@' = 0 :=
      count_of_chars fun c member => Or.inl (word.inPath.2 c member)
    rw [if_neg named, List.count_cons_of_ne (by decide), name]
    cases versioned : reference.path with
    | none => simp
    | some path =>
        rw [optionalPart_version, List.count_cons_self,
          count_of_chars (versions path versioned).chars]

theorem WellFormed.normalizeChars_text :
    normalizeChars reference.text.toList =
      dropTrailingSlash (markedText (Text.splitAt '/' reference.text.toList)) := by
  have plain : spelled false false none reference.text = reference.text := by
    simp [spelled, optionalPart]
  have read := normalizeChars_spelled (splitAt_ne_nil reference.text.toList) (splitAt_free _)
    (Text.joinWith_splitAt '/' _).symm wellFormed.text_halts.1 wellFormed.text_ne_nil
    wellFormed.not_asked false false none
  rwa [plain, trailingSegments, if_neg Bool.false_ne_true, List.append_nil] at read

/-- No owner is put in place of the user of a reference. -/
theorem WellFormed.substituteOwner_text (owner : List Char) :
    substituteOwner owner reference.text.toList = reference.text.toList := by
  have whole : reference.text.toList = reference.username.toList ++ reference.remainder :=
    text_toList reference
  have user := cut_at_slash wellFormed.user.inPath.unslashed wellFormed.halts_remainder
  rw [substituteOwner_eq, whole, user.1]
  exact if_neg fun same => wellFormed.notOwner (String.toList_inj.mp same)

/-- A text without a segment `at` is read as its reference, whoever asks for it. -/
theorem WellFormed.resolve_text (unmarked : ¬ reference.Marked)
    (owner : Option String) : resolve reference.text owner = .ok reference := by
  have normalized : normalizeChars reference.text.toList = reference.text.toList := by
    have unchanged := (dropTrailingSlash_markedText_iff (splitAt_ne_nil reference.text.toList)
      (Text.joinWith_splitAt '/' _).symm wellFormed.text_halts.2 false).mpr unmarked
    rw [trailingSegments, if_neg Bool.false_ne_true, List.append_nil] at unchanged
    rw [wellFormed.normalizeChars_text, unchanged]
  have read := parseChars_text reference wellFormed
  simp only [resolve, normalized]
  cases owner.filter (· != "") with
  | none => exact read
  | some owner =>
      dsimp only
      rw [wellFormed.substituteOwner_text, read]

/-- Without a selector a segment `at` from the third on is one of the version. -/
theorem WellFormed.versioned_of_marked (named : reference.hasName = true)
    (whole : reference.selector = none) (marked : reference.Marked) :
    reference.path.isSome = true := by
  cases unversioned : reference.path with
  | some path => rfl
  | none =>
      have text : reference.text = reference.slug := by
        simp [Reference.text, unversioned, whole]
      have words := wellFormed.slug_words named
      rw [Marked, text, slug_toList named, Text.splitAt_joinWith '/' _ (List.cons_ne_nil _ _)
        fun word member => (words word member).inPath.unslashed] at marked
      cases marked

/-- A version with a segment `at` is no address. It would be read with two `@`. -/
theorem WellFormed.resolve_text_refused (versioned : reference.path.isSome = true)
    (marked : reference.Marked) (owner : Option String) :
    ∃ error, resolve reference.text owner = .error error := by
  have one : 0 < reference.text.toList.count '@' := by
    obtain ⟨path, given⟩ := Option.isSome_iff_exists.mp versioned
    rw [List.count_pos_iff, text_toList, given, optionalPart_version]
    simp
  have two : 2 ≤ (normalizeChars reference.text.toList).count '@' := by
    rw [wellFormed.normalizeChars_text, count_dropTrailingSlash (by decide),
      count_markedText marked, Text.joinWith_splitAt]
    omega
  have refused {text : List Char} (many : 2 ≤ text.count '@') :
      ∃ error, parseChars text = .error error := by
    cases read : parseChars text with
    | error error => exact ⟨error, rfl⟩
    | ok other =>
        obtain ⟨rfl, otherWell⟩ := (parseChars_eq_ok_iff text other).mp read
        have atMost := otherWell.count_text_le
        omega
  unfold resolve
  dsimp only
  cases owner.filter (· != "") with
  | none => exact refused two
  | some owner => exact refused (two.trans (count_le_substituteOwner owner.toList _))

end text

end DatasetService.Reference
