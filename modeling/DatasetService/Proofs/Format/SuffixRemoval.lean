import DatasetService.Proofs.Format.Resolution
import DatasetService.Proofs.Format.Suffix

set_option autoImplicit false

/- What becomes of the selector when the format is chosen. It loses a suffix only if that names the
format of the answer, and one that has no such suffix stays as it is. -/
namespace DatasetService.Negotiation

variable {explicit selector accept : Option String} {format : Format} {source : Source}
  {result : Result}

/-- After `base`, which is not empty, a point and a name of the format. -/
structure Suffixed (text base : String) (format : Format) : Prop where
  spelled : ∃ ending, text = base ++ "." ++ ending ∧ Format.ofName? ending = some format
  nonempty : base ≠ ""

section split

theorem splitSuffix_of_suffixed {text base : String} (suffixed : Suffixed text base format) :
    ∃ ending, splitSuffix text = (base, some ending) ∧ Format.ofName? ending = some format := by
  obtain ⟨ending, rfl, named⟩ := suffixed.spelled
  have given : (base ++ "." ++ ending).toList = base.toList ++ '.' :: ending.toList := by simp
  have nonempty : base.toList ≠ [] := by simpa using suffixed.nonempty
  have names : NamesFormat ending.toList := Option.isSome_iff_exists.mpr ⟨format, named⟩
  refine ⟨ending, ?_, named⟩
  rw [splitSuffix_of_suffix given nonempty names, String.ofList_toList, String.ofList_toList]

theorem splitSuffix_of_whole {text : String} (whole : ∀ base format, ¬ Suffixed text base format) :
    splitSuffix text = (text, none) := by
  unfold splitSuffix
  split
  · rename_i base ending last
    obtain ⟨mark, given, point, -⟩ := (Text.splitLast_eq_some_iff _ _ _ _).mp last
    obtain rfl : mark = '.' := by simpa using point
    split
    · rename_i conditions
      simp only [Bool.and_eq_true, Bool.not_eq_true', Option.isSome_iff_exists] at conditions
      obtain ⟨⟨nonempty, -⟩, known, named⟩ := conditions
      have spelled : text = String.ofList base ++ "." ++ String.ofList ending := by
        rw [← String.toList_inj, given]
        simp
      refine absurd ⟨⟨String.ofList ending, spelled, ?_⟩, ?_⟩ (whole (String.ofList base) known)
      · rwa [Format.ofName?, String.toList_ofList]
      · simpa using nonempty
    · rfl
  · rfl

end split

section source

theorem unnamed_of_explicitFormat (given : explicitFormat explicit = .ok none) :
    Unnamed explicit := by
  intro name member
  obtain rfl := member
  by_contra graphic
  rw [Bool.not_eq_true] at graphic
  cases named : Format.ofName? name with
  | none =>
      rw [explicitFormat_of_unknown graphic named] at given
      cases given
  | some format =>
      rw [explicitFormat_of_named named] at given
      cases given

/-- The header decides where no format is given by name and it prefers one. -/
theorem source_eq_header_iff (success : resolve explicit none accept = .ok (format, source)) :
    source = .header ↔ Unnamed explicit ∧ accept.bind Accept.preferred? = some format := by
  obtain ⟨asked, given, -⟩ := exists_of_bind_eq_ok success
  cases asked with
  | none =>
      have unnamed := unnamed_of_explicitFormat given
      rw [resolve_of_requested given rfl] at success
      rcases headerFormat_cases accept with ⟨raw, first, rfl, preferred, -⟩ | ⟨silent, unset, -⟩
      · rw [headerFormat_some preferred] at success
        cases success
        simp [unnamed, preferred]
      · rw [silent] at success
        cases success
        simp [unset]
  | some named =>
      have other : ¬ Unnamed explicit := by
        intro unnamed
        rw [explicitFormat_of_unnamed unnamed] at given
        cases given
      rw [resolve_of_requested given rfl] at success
      obtain ⟨-, rfl⟩ := eq_of_settle success
      simp [other]

end source

/-- A request that is answered gives no name that is unknown. -/
theorem known_of_resolve {suffix : Option String} {answer : Format × Source}
    (success : resolve explicit suffix accept = .ok answer) :
    ∀ name ∈ explicit, Text.isBlankText name.toList = false →
      ∃ format, Format.ofName? name = some format := by
  intro name member graphic
  obtain rfl := member
  rw [← Option.isSome_iff_exists, ← Option.ne_none_iff_isSome]
  intro unknown
  rw [resolve, bind_of_eq_error (explicitFormat_of_unknown graphic unknown)] at success
  cases success

theorem compatible_of_resolve {suffix : Option String}
    (success : resolve explicit suffix accept = .ok (format, source)) :
    Compatible explicit suffix accept format := by
  rcases resolve_cases suffix accept (known_of_resolve success) with
    ⟨found, chosen, answered, compatible, -⟩ | ⟨⟨asked, other, conflict⟩, -⟩
  · rw [answered] at success
    cases success
    exact compatible
  · rw [conflict] at success
    cases success

/-- A selector stays as it is unless it ends with a suffix, which is the name of a format after a
point and something before that. A suffix is removed, and it names the format of the answer. Without
a selector that of the rows is taken for CSV if the header decides on it, and none otherwise. -/
theorem negotiate_removes_suffix (negotiated : negotiate explicit selector accept = .ok result) :
    (∃ given ∈ selector, result.selector = some given ∧
      ∀ base format, ¬ Suffixed given base format) ∨
    (∃ given ∈ selector, ∃ base, result.selector = some base ∧
      Suffixed given base result.format) ∨
    (selector = none ∧
      (result.source = .header ↔
        Unnamed explicit ∧ accept.bind Accept.preferred? = some result.format) ∧
      result.selector =
        if result.source = .header ∧ result.format = .csv then some "body" else none) := by
  cases selector with
  | none =>
      obtain ⟨⟨format, source⟩, success, negotiated⟩ := exists_of_bind_eq_ok negotiated
      cases negotiated
      exact Or.inr (Or.inr ⟨rfl, source_eq_header_iff success, by simp [bodySelector]⟩)
  | some given =>
      obtain ⟨⟨format, source⟩, success, negotiated⟩ := exists_of_bind_eq_ok negotiated
      cases negotiated
      by_cases whole : ∀ base format, ¬ Suffixed given base format
      · refine Or.inl ⟨given, rfl, ?_, whole⟩
        rw [splitSuffix_of_whole whole]
      · push Not at whole
        obtain ⟨base, known, suffixed⟩ := whole
        obtain ⟨ending, split, named⟩ := splitSuffix_of_suffixed suffixed
        rw [split] at success ⊢
        obtain rfl := (compatible_of_resolve success).ending ending rfl known named
        exact Or.inr (Or.inl ⟨given, rfl, base, rfl, suffixed⟩)

/-- A point within the selector is left alone, and the last one starts a suffix in capitals. -/
theorem versioned_suffix_removed :
    negotiate (some "csv") (some "stats.v1. CSV") (some "text/*") =
        .ok { format := .csv, source := .explicit, selector := some "stats.v1" } ∧
      Suffixed "stats.v1. CSV" "stats.v1" .csv := by
  have negotiated : negotiate (some "csv") (some "stats.v1. CSV") (some "text/*") =
      .ok { format := .csv, source := .explicit, selector := some "stats.v1" } := by decide
  refine ⟨negotiated, ?_⟩
  rcases negotiate_removes_suffix negotiated with
    ⟨given, isGiven, kept, -⟩ | ⟨given, isGiven, base, cut, suffixed⟩ | ⟨absent, -⟩
  · cases isGiven
    exact absurd kept (by decide)
  · cases isGiven
    cases cut
    exact suffixed
  · cases absent

end DatasetService.Negotiation
