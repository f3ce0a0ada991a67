import DatasetService.Format.Accept
import DatasetService.Proofs.Text.Folding

set_option autoImplicit false

/- What the header `Accept` says of a format. It lists a format by an entry that names it and is no
refusal. It admits a format that it lists, and one that an open range covers; and the format that it
prefers is one that it lists. -/
namespace DatasetService

namespace Format

/-- A media type without parameters, as formats are told by it. -/
theorem essence_of_plain {range : List Char} (plain : ';' ∉ range) :
    range.takeWhile (· != ';') = range := by
  rw [List.takeWhile_eq_self_iff]
  intro c member
  have other : c ≠ ';' := fun mark => plain (mark ▸ member)
  simpa using other

theorem ofMediaTypeChars?_lower (range : List Char) :
    ofMediaTypeChars? (Text.lower range) = ofMediaTypeChars? range := by
  have same : (fun c => c != ';') ∘ Char.toLower = fun c => c != ';' := by
    funext c
    rw [Function.comp_apply, Bool.eq_iff_iff, bne_iff_ne, bne_iff_ne, ne_eq, ne_eq,
      Text.toLower_eq_iff (by decide)]
  have essence : (Text.lower range).takeWhile (· != ';') =
      Text.lower (range.takeWhile (· != ';')) := by
    rw [Text.lower, List.takeWhile_map, same, Text.lower]
  unfold ofMediaTypeChars?
  rw [essence, Text.trim_lower, Text.lower_lower]

/-- No range that is left open names a format. -/
theorem not_mem_of_mediaType {range : List Char} {format : Format} (plain : ';' ∉ range)
    (named : ofMediaTypeChars? range = some format) : '*' ∉ range := by
  intro star
  have inside : '*' ∈ Text.lower (Text.trim range) :=
    (Text.mem_lower_iff (by decide)).mpr (Text.mem_trim star (by decide))
  rw [← String.toList_ofList (l := Text.lower (Text.trim range))] at inside
  unfold ofMediaTypeChars? at named
  rw [essence_of_plain plain] at named
  dsimp only at named
  generalize String.ofList (Text.lower (Text.trim range)) = essence at named inside
  have other (known : String) (absent : '*' ∉ known.toList) : essence ≠ known :=
    fun same => absent (same ▸ inside)
  simp [other "application/json" (by decide), other "text/json" (by decide),
    other "text/csv" (by decide), other "application/csv" (by decide),
    other "application/zip" (by decide), other "application/x-zip-compressed" (by decide)] at named

end Format

namespace Accept

variable {accept : String} {format : Format}

/-- The entry is no refusal. -/
def Entry.Positive (entry : Entry) : Prop := (weight? entry.weight).isSome = true

/-- The range of the entry is a media type of the format. -/
def Entry.Names (entry : Entry) (format : Format) : Prop :=
  Format.ofMediaTypeChars? entry.range = some format

/-- The range of the entry leaves the subtype open, and its type is any or that of the format. -/
def Entry.Covers (entry : Entry) (format : Format) : Prop :=
  Text.lower entry.range = "*/*".toList ∨ Text.lower entry.range = format.topLevel ++ "/*".toList

instance (entry : Entry) : Decidable entry.Positive :=
  inferInstanceAs (Decidable ((weight? entry.weight).isSome = true))

instance (entry : Entry) (format : Format) : Decidable (entry.Names format) :=
  inferInstanceAs (Decidable (Format.ofMediaTypeChars? entry.range = some format))

instance (entry : Entry) (format : Format) : Decidable (entry.Covers format) :=
  inferInstanceAs (Decidable (_ ∨ _))

/-- Some entry names the format and is no refusal. -/
def Lists (accept : String) (format : Format) : Prop :=
  ∃ entry ∈ entries accept.toList, entry.Positive ∧ entry.Names format

/-- Some open range covers the format and is no refusal. -/
def Opens (accept : String) (format : Format) : Prop :=
  ∃ entry ∈ entries accept.toList, entry.Positive ∧ entry.Covers format

instance (accept : String) (format : Format) : Decidable (Lists accept format) :=
  inferInstanceAs (Decidable (∃ entry ∈ entries accept.toList, _))

instance (accept : String) (format : Format) : Decidable (Opens accept format) :=
  inferInstanceAs (Decidable (∃ entry ∈ entries accept.toList, _))

theorem mem_ranges_iff {text range : List Char} {weight : Weight} :
    (range, weight) ∈ ranges text ↔
      ∃ entry ∈ entries text, weight? entry.weight = some weight ∧ entry.range = range := by
  simp only [ranges, List.mem_filterMap, Option.map_eq_some_iff, Prod.mk.injEq]
  constructor
  · rintro ⟨entry, member, found, positive, rfl, rfl⟩
    exact ⟨entry, member, positive, rfl⟩
  · rintro ⟨entry, member, positive, rfl⟩
    exact ⟨entry, member, weight, positive, rfl, rfl⟩

/-- The ranges that count are those of the entries that are no refusals. -/
theorem exists_range_iff (text : List Char) (holds : List Char → Prop) :
    (∃ range ∈ ranges text, holds range.1) ↔
      ∃ entry ∈ entries text, entry.Positive ∧ holds entry.range := by
  constructor
  · rintro ⟨⟨range, weight⟩, member, held⟩
    obtain ⟨entry, isEntry, positive, rfl⟩ := mem_ranges_iff.mp member
    exact ⟨entry, isEntry, Option.isSome_iff_exists.mpr ⟨weight, positive⟩, held⟩
  · rintro ⟨entry, member, positive, held⟩
    obtain ⟨weight, positive⟩ := Option.isSome_iff_exists.mp positive
    exact ⟨(entry.range, weight), mem_ranges_iff.mpr ⟨entry, member, positive, rfl⟩, held⟩

/-- The range of an entry has no parameters left. -/
theorem plain_of_read {part : List Char} {entry : Entry} (found : entry? part = some entry) :
    ';' ∉ entry.range := by
  intro mark
  unfold entry? at found
  split at found
  · cases found
  · rename_i range parameters pieces
    dsimp only at found
    split at found
    · cases found
    · cases found
      have piece : range ∈ Text.splitAt ';' part := by
        rw [pieces]
        exact List.mem_cons_self
      obtain ⟨-, other⟩ :=
        Text.mem_of_mem_splitWhere _ part range ';' piece (Text.mem_of_mem_trim mark)
      simp at other

theorem plain_of_mem_entries {text : List Char} {entry : Entry} (member : entry ∈ entries text) :
    ';' ∉ entry.range := by
  obtain ⟨part, -, found⟩ := List.mem_filterMap.mp member
  exact plain_of_read found

theorem Entry.covers_iff {entry : Entry} :
    entry.Covers format ↔ ∃ topLevel, Text.dropEnding? ['/', '*'] (Text.lower entry.range) =
      some topLevel ∧ (topLevel = ['*'] ∨ topLevel = format.topLevel) := by
  simp only [Text.dropEnding?_eq_some_iff]
  constructor
  · rintro (any | own)
    · exact ⟨['*'], any, Or.inl rfl⟩
    · exact ⟨format.topLevel, own, Or.inr rfl⟩
  · rintro ⟨topLevel, whole, rfl | rfl⟩
    · exact Or.inl whole
    · exact Or.inr whole

/-- A range admits the format that it names, and the formats that it covers. -/
theorem rangeAdmits_iff {entry : Entry} (plain : ';' ∉ entry.range) (format : Format) :
    rangeAdmits format entry.range = true ↔ entry.Names format ∨ entry.Covers format := by
  rw [Entry.covers_iff]
  unfold Entry.Names rangeAdmits
  dsimp only
  cases opened : Text.dropEnding? ['/', '*'] (Text.lower entry.range) with
  | none => simp [Format.ofMediaTypeChars?_lower]
  | some topLevel =>
      have unnamed : Format.ofMediaTypeChars? entry.range ≠ some format := by
        intro named
        refine Format.not_mem_of_mediaType plain named ?_
        rw [← Text.mem_lower_iff (by decide), (Text.dropEnding?_eq_some_iff _ _ _).mp opened]
        simp
      by_cases any : topLevel = ['*']
      · simp [any]
      · simp [any, unnamed]

/-- A header admits the formats that it lists, and those that its open ranges cover. -/
theorem admits_iff : admits accept format = true ↔ Lists accept format ∨ Opens accept format := by
  have admitted : admits accept format = true ↔
      ∃ range ∈ ranges accept.toList, rangeAdmits format range.1 = true := List.any_eq_true
  rw [admitted, exists_range_iff _ (fun range => rangeAdmits format range = true)]
  constructor
  · rintro ⟨entry, member, positive, admits⟩
    rcases (rangeAdmits_iff (plain_of_mem_entries member) format).mp admits with named | covered
    · exact Or.inl ⟨entry, member, positive, named⟩
    · exact Or.inr ⟨entry, member, positive, covered⟩
  · rintro (⟨entry, member, positive, named⟩ | ⟨entry, member, positive, covered⟩)
    · exact ⟨entry, member, positive,
        (rangeAdmits_iff (plain_of_mem_entries member) format).mpr (Or.inl named)⟩
    · exact ⟨entry, member, positive,
        (rangeAdmits_iff (plain_of_mem_entries member) format).mpr (Or.inr covered)⟩

/-- The better of several is one of them. -/
theorem mem_of_foldl_better {kept : Format × Weight} (named : List (Format × Weight))
    (best : Option (Format × Weight)) (found : named.foldl better best = some kept) :
    best = some kept ∨ kept ∈ named := by
  induction named generalizing best with
  | nil => exact Or.inl found
  | cons next rest ih =>
      rcases ih _ found with first | later
      · unfold better at first
        split at first
        · split at first
          · exact Or.inl first
          · cases first
            exact Or.inr List.mem_cons_self
        · cases first
          exact Or.inr List.mem_cons_self
      · exact Or.inr (List.mem_cons_of_mem next later)

theorem foldl_better_ne_none (named : List (Format × Weight)) {best : Option (Format × Weight)}
    (some : best ≠ none) : named.foldl better best ≠ none := by
  induction named generalizing best with
  | nil => exact some
  | cons next rest ih =>
      refine ih ?_
      unfold better
      split
      · split <;> simp
      · simp

theorem mem_namedFormats_iff {text : List Char} {weight : Weight} :
    (format, weight) ∈ namedFormats text ↔
      ∃ entry ∈ entries text, weight? entry.weight = some weight ∧ entry.Names format := by
  simp only [namedFormats, List.mem_filterMap, Option.map_eq_some_iff, Prod.mk.injEq]
  constructor
  · rintro ⟨⟨range, weight⟩, member, found, named, rfl, rfl⟩
    obtain ⟨entry, isEntry, positive, rfl⟩ := mem_ranges_iff.mp member
    exact ⟨entry, isEntry, positive, named⟩
  · rintro ⟨entry, member, positive, named⟩
    exact ⟨(entry.range, weight), mem_ranges_iff.mpr ⟨entry, member, positive, rfl⟩,
      format, named, rfl, rfl⟩

/-- The preferred format is one that the header lists. -/
theorem lists_of_preferred (preferred : preferred? accept = some format) : Lists accept format := by
  obtain ⟨⟨format, weight⟩, kept, rfl⟩ := Option.map_eq_some_iff.mp preferred
  rcases mem_of_foldl_better _ _ kept with initial | member
  · cases initial
  · obtain ⟨entry, isEntry, positive, named⟩ := mem_namedFormats_iff.mp member
    exact ⟨entry, isEntry, Option.isSome_iff_exists.mpr ⟨weight, positive⟩, named⟩

/-- A header that lists a format prefers one. -/
theorem exists_preferred (lists : Lists accept format) :
    ∃ first, preferred? accept = some first := by
  obtain ⟨entry, isEntry, positive, named⟩ := lists
  obtain ⟨weight, positive⟩ := Option.isSome_iff_exists.mp positive
  have member : (format, weight) ∈ namedFormats accept.toList :=
    mem_namedFormats_iff.mpr ⟨entry, isEntry, positive, named⟩
  cases whole : namedFormats accept.toList with
  | nil =>
      rw [whole] at member
      cases member
  | cons first rest =>
      have kept : (first :: rest).foldl better none ≠ none :=
        foldl_better_ne_none rest (Option.some_ne_none first)
      obtain ⟨best, found⟩ := Option.ne_none_iff_exists'.mp kept
      exact ⟨best.1, by rw [preferred?, whole, found, Option.map_some]⟩

/-- Entries of the header name the format, and each of them is a refusal. -/
structure Refuses (accept : String) (format : Format) : Prop where
  named : ∃ entry ∈ entries accept.toList, entry.Names format
  only : ∀ entry ∈ entries accept.toList, entry.Names format → ¬ entry.Positive

instance (accept : String) (format : Format) : Decidable (Refuses accept format) :=
  decidable_of_iff ((∃ entry ∈ entries accept.toList, entry.Names format) ∧
      ∀ entry ∈ entries accept.toList, entry.Names format → ¬ entry.Positive)
    ⟨fun ⟨named, only⟩ => ⟨named, only⟩, fun ⟨named, only⟩ => ⟨named, only⟩⟩

theorem Refuses.not_lists (refused : Refuses accept format) : ¬ Lists accept format := by
  rintro ⟨entry, member, positive, named⟩
  exact refused.only entry member named positive

end Accept
end DatasetService
