import DatasetService.Format.Negotiation
import DatasetService.Proofs.Except
import DatasetService.Proofs.Reference.Spelling

set_option autoImplicit false

/- Suffixes of selectors. What is left of a selector without its suffix is a selector again,
unless the suffix was a whole segment of it. -/
namespace DatasetService.Negotiation

open Reference

/-- The characters name a format. -/
def NamesFormat (ending : List Char) : Prop := (Format.ofNameChars? ending).isSome = true

/-- After `stem` and a slash, the last segment is a point and the name of a format alone. -/
def BareSuffix (selector stem : String) : Prop :=
  ∃ ending : String, selector = stem ++ "/." ++ ending ∧ NamesFormat ending.toList

/-- The names of formats are words of three or four letters. -/
theorem NamesFormat.word {ending : List Char} (names : NamesFormat ending) :
    ∃ format : Format, Text.lower (Text.trim ending) = format.name.toList := by
  have word {found : List Char} {name : String} (same : String.ofList found = name) :
      found = name.toList := by rw [← same, String.toList_ofList]
  unfold NamesFormat Format.ofNameChars? Format.ofExactName? at names
  split at names
  · rename_i json
    exact ⟨.json, word json⟩
  · split at names
    · rename_i csv
      exact ⟨.csv, word csv⟩
    · split at names
      · rename_i zip
        exact ⟨.zip, word zip⟩
      · cases names

/-- A mark that is no letter does not stand in the name of a format. -/
theorem NamesFormat.not_mem {ending : List Char} (names : NamesFormat ending) {mark : Char}
    (graphic : Text.isBlank mark = false)
    (foreign : ∀ format : Format, mark.toLower ∉ format.name.toList) : mark ∉ ending := by
  intro member
  obtain ⟨format, word⟩ := names.word
  apply foreign format
  rw [← word]
  exact List.mem_map_of_mem (Text.mem_trim member graphic)

theorem NamesFormat.unslashed {ending : List Char} (names : NamesFormat ending) : '/' ∉ ending :=
  names.not_mem (by decide) fun format => by cases format <;> decide

theorem NamesFormat.undotted {ending : List Char} (names : NamesFormat ending) : '.' ∉ ending :=
  names.not_mem (by decide) fun format => by cases format <;> decide

theorem splitSuffix_of_suffix {selector : String} {base ending : List Char}
    (given : selector.toList = base ++ '.' :: ending) (nonempty : base ≠ [])
    (names : NamesFormat ending) :
    splitSuffix selector = (String.ofList base, some (String.ofList ending)) := by
  have last : Text.splitLast (· == '.') selector.toList = some (base, ending) := by
    rw [Text.splitLast_eq_some_iff]
    exact ⟨'.', given, by decide, Text.free_of_not_mem names.undotted⟩
  have conditions : (!base.isEmpty && !ending.contains '/' &&
      (Format.ofNameChars? ending).isSome) = true := by
    simp only [Bool.and_eq_true, Bool.not_eq_true']
    exact ⟨⟨by simpa using nonempty, by simpa using names.unslashed⟩, names⟩
  unfold splitSuffix
  rw [last]
  exact if_pos conditions

/-- A selector is left alone, or it is cut at its last point. -/
theorem splitSuffix_cases (selector : String) :
    (splitSuffix selector).1 = selector ∨
      ∃ base ending, selector.toList = base ++ '.' :: ending ∧ base ≠ [] ∧ NamesFormat ending ∧
        (splitSuffix selector).1 = String.ofList base := by
  unfold splitSuffix
  split
  · rename_i base ending last
    obtain ⟨mark, given, point, -⟩ := (Text.splitLast_eq_some_iff _ _ _ _).mp last
    obtain rfl : mark = '.' := by simpa using point
    split
    · rename_i conditions
      simp only [Bool.and_eq_true, Bool.not_eq_true'] at conditions
      exact Or.inr ⟨base, ending, given, by simpa using conditions.1.1, conditions.2, rfl⟩
    · exact Or.inl rfl
  · exact Or.inl rfl

/-- Cutting the end off the last segment leaves a selector where some of the segment is left. -/
theorem selectorPath_cut {base ending : List Char} (path : SelectorPath (base ++ '.' :: ending))
    (unslashed : '/' ∉ ending) (nonempty : base ≠ []) :
    SelectorPath base ↔ Text.Halts (· == '/') base.reverse := by
  constructor
  · intro left
    exact left.ended.2
  · intro ended
    obtain ⟨chars, pieces⟩ := (selectorPath_iff _).mp path
    rw [selectorPath_iff]
    refine ⟨fun c member => chars c (List.mem_append_left _ member), fun piece member => ?_⟩
    by_cases slashed : '/' ∈ base
    · -- The last slash parts the segments that stay as they are from the one that is cut.
      obtain ⟨word, front, reversed, plain⟩ :=
        List.eq_append_cons_of_mem (List.mem_reverse.mpr slashed)
      have parts : base = front.reverse ++ '/' :: word.reverse := by
        rw [← List.reverse_reverse base, reversed]
        simp
      have whole : base ++ '.' :: ending =
          front.reverse ++ '/' :: (word.reverse ++ '.' :: ending) := by
        rw [parts, List.append_assoc, List.cons_append]
      rw [parts, Text.splitAt_append _ (by simpa using plain)] at member
      rw [whole, Text.splitAt_append _ (by simp [plain, unslashed])] at pieces
      rcases List.mem_append.mp member with before | last
      · exact pieces piece (List.mem_append_left _ before)
      · rw [List.mem_singleton.mp last]
        intro empty
        rw [parts, empty, List.reverse_append] at ended
        simp at ended
    · rw [Text.splitAt, Text.splitWhere_of_none _ _ (Text.free_of_not_mem slashed)] at member
      rwa [List.mem_singleton.mp member]

/-- A suffix that is a whole segment leaves the slash before it. -/
theorem splitSuffix_bare {selector stem : String} (bare : BareSuffix selector stem) :
    (splitSuffix selector).1 = stem ++ "/" := by
  obtain ⟨ending, rfl, names⟩ := bare
  have given : (stem ++ "/." ++ ending).toList =
      (stem.toList ++ ['/']) ++ '.' :: ending.toList := by
    simp
  rw [splitSuffix_of_suffix given (by simp) names, String.ofList_append, String.ofList_toList]

/-- A selector without its suffix is one, but for a suffix that is a whole segment. -/
theorem selectorPath_splitSuffix {selector : String} (path : SelectorPath selector.toList)
    (full : ∀ stem, ¬ BareSuffix selector stem) : SelectorPath (splitSuffix selector).1.toList := by
  rcases splitSuffix_cases selector with same | ⟨base, ending, given, nonempty, names, cut⟩
  · rwa [same]
  · rw [given] at path
    rw [cut, String.toList_ofList, selectorPath_cut path names.unslashed nonempty]
    rw [← List.reverse_reverse base] at given
    cases reversed : base.reverse with
    | nil => exact Text.halts_nil _
    | cons c rest =>
        rw [Text.halts_cons]
        by_contra slash
        obtain rfl : c = '/' := by simpa using slash
        refine full (String.ofList rest.reverse) ⟨String.ofList ending, ?_, by simpa using names⟩
        rw [← String.toList_inj, given, reversed]
        simp

theorem selectorPath_body : SelectorPath bodySelector.toList :=
  ⟨["body".toList], by simp, by simp [Word, ← isPathChar_iff]; decide, rfl⟩

/-- The selector of a negotiated result is the given one without its suffix, and of none that of
the rows or none again. -/
theorem selector_of_negotiate {explicit selector accept : Option String} {result : Result}
    (negotiated : negotiate explicit selector accept = .ok result) :
    (∀ given ∈ selector, result.selector = some (splitSuffix given).1) ∧
      (selector = none → result.selector = none ∨ result.selector = some bodySelector) := by
  cases selector with
  | some given =>
      obtain ⟨⟨format, source⟩, -, negotiated⟩ := exists_of_bind_eq_ok negotiated
      cases negotiated
      simp
  | none =>
      obtain ⟨⟨format, source⟩, -, negotiated⟩ := exists_of_bind_eq_ok negotiated
      cases negotiated
      refine ⟨by simp, fun _ => ?_⟩
      dsimp only
      split
      · exact Or.inr rfl
      · exact Or.inl rfl

end DatasetService.Negotiation
