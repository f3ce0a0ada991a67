import DatasetService.Proofs.Format.Accept
import DatasetService.Proofs.Number.Rounding
import Mathlib.Order.WithBot

set_option autoImplicit false

/- The format that the header `Accept` prefers: the first of those with the greatest weight. Weights
are compared as the numbers that they stand for. What gives no positive weight to a known format
does not count, wherever it stands. -/
namespace DatasetService.Accept

variable {accept : String} {format : Format}

section weights

/-- A number, or one of the infinities. -/
abbrev Quality : Type := WithBot (WithTop ℚ)

/-- A magnitude with its sign. One without bound is infinite. -/
def signed (negative : Bool) : WithTop ℚ → Quality
  | ⊤ => if negative then ⊥ else (⊤ : WithTop ℚ)
  | (magnitude : ℚ) => ((if negative then -magnitude else magnitude : ℚ) : WithTop ℚ)

/-- The number that a weight stands for in single precision, if it stands for one. -/
def quality? : Literal.Real → Option Quality
  | .notANumber => none
  | .infinite negative => some (signed negative ⊤)
  | .decimal negative digits exponent =>
      match Binary.ofDecimal .single negative digits exponent with
      | none => some (signed negative ⊤)
      | some number => some (signed negative number.magnitude)

/-- The number that a positive weight is. -/
def Weight.value : Weight → Quality
  | .finite number => signed false number.magnitude
  | .infinite => signed false ⊤

theorem Weight.le_iff (left right : Weight) : left.le right = true ↔ left.value ≤ right.value := by
  cases right with
  | infinite => simp [Weight.le, Weight.value, signed]
  | finite right =>
      cases left with
      | infinite => simp [Weight.le, Weight.value, signed]
      | finite left =>
          have leftPositive : (0 : ℚ) < left.ratio.2 := by exact_mod_cast left.ratio_pos
          have rightPositive : (0 : ℚ) < right.ratio.2 := by exact_mod_cast right.ratio_pos
          have magnitudes : left.magnitudeLe right = true ↔ left.magnitude ≤ right.magnitude := by
            rw [← left.ratio_magnitude, ← right.ratio_magnitude,
              div_le_div_iff₀ leftPositive rightPositive]
            simp only [Binary.magnitudeLe, decide_eq_true_eq]
            norm_cast
          simpa [Weight.le, Weight.value, signed] using magnitudes

theorem signed_pos_iff (negative : Bool) (magnitude : ℚ) (nonneg : 0 ≤ magnitude) :
    0 < signed negative magnitude ↔ negative = false ∧ magnitude ≠ 0 := by
  have cast (value : ℚ) : (0 : Quality) < ((value : WithTop ℚ) : Quality) ↔ 0 < value := by
    rw [← WithBot.coe_zero, WithBot.coe_lt_coe, ← WithTop.coe_zero, WithTop.coe_lt_coe]
  cases negative with
  | true =>
      simp only [signed, if_true, cast]
      simp only [Bool.true_eq_false, false_and, iff_false, not_lt]
      linarith
  | false =>
      simp only [signed, Bool.false_eq_true, if_false, cast, true_and]
      exact ⟨fun positive => positive.ne', fun other => lt_of_le_of_ne nonneg other.symm⟩

theorem isZero_iff (number : Binary) : number.isZero = true ↔ number.magnitude = 0 := by
  have place : (2 : ℚ) ^ number.exponent ≠ 0 := zpow_ne_zero _ (by norm_num)
  simp [Binary.isZero, Binary.magnitude, place]

/-- The weights that count are the positive ones. -/
theorem weight?_iff (text : Literal.Real) (quality : Quality) :
    (∃ weight, weight? text = some weight ∧ weight.value = quality) ↔
      quality? text = some quality ∧ 0 < quality := by
  have infinite : (0 : Quality) < signed false ⊤ := WithBot.coe_lt_coe.mpr (WithTop.coe_lt_top 0)
  have unbounded (negative : Bool) :
      (∃ weight, (if negative then none else some Weight.infinite) = some weight ∧
        weight.value = quality) ↔ some (signed negative ⊤) = some quality ∧ 0 < quality := by
    cases negative with
    | true =>
        simp only [if_true, reduceCtorEq, false_and, exists_false, false_iff, Option.some.injEq]
        rintro ⟨rfl, positive⟩
        exact absurd positive not_lt_bot
    | false =>
        simp only [Bool.false_eq_true, if_false, Option.some.injEq, exists_eq_left',
          Weight.value]
        exact ⟨fun same => ⟨same, same ▸ infinite⟩, fun same => same.1⟩
  cases text with
  | notANumber => simp [weight?, quality?]
  | infinite negative => exact unbounded negative
  | decimal negative digits exponent =>
      cases rounded : Binary.ofDecimal .single negative digits exponent with
      | none => simpa only [weight?, quality?, rounded] using unbounded negative
      | some number =>
          have positive := signed_pos_iff negative number.magnitude number.magnitude_nonneg
          simp only [weight?, quality?, rounded, Option.some.injEq, Bool.or_eq_true]
          by_cases counts : 0 < signed negative number.magnitude
          · obtain ⟨rfl, nonzero⟩ := positive.mp counts
            have other : ¬ number.isZero = true := fun zero => nonzero ((isZero_iff number).mp zero)
            simp only [Bool.false_eq_true, other, or_self, if_false, Option.some.injEq,
              exists_eq_left', Weight.value]
            exact ⟨fun same => ⟨same, same ▸ counts⟩, fun same => same.1⟩
          · have refused : negative = true ∨ number.isZero = true := by
              rw [isZero_iff]
              by_contra apart
              push Not at apart
              exact counts (positive.mpr ⟨by simpa using apart.1, apart.2⟩)
            simp only [refused, if_true, reduceCtorEq, false_and, exists_false, false_iff]
            rintro ⟨rfl, counting⟩
            exact counts counting

end weights

section fold

variable {kept : Format × Weight} {named : List (Format × Weight)}

/-- No other is heavier, and none before it is as heavy. -/
def Foremost (named : List (Format × Weight)) (kept : Format × Weight) : Prop :=
  ∃ before after, named = before ++ kept :: after ∧
    (∀ other ∈ before, other.2.value < kept.2.value) ∧
    ∀ other ∈ after, other.2.value ≤ kept.2.value

theorem Foremost.le (foremost : Foremost named kept) {other : Format × Weight}
    (member : other ∈ named) : other.2.value ≤ kept.2.value := by
  obtain ⟨before, after, rfl, lighter, least⟩ := foremost
  rcases List.mem_append.mp member with earlier | later
  · exact (lighter other earlier).le
  · rcases List.mem_cons.mp later with same | later
    · rw [same]
    · exact least other later

theorem Foremost.unique {first second : Format × Weight} (left : Foremost named first)
    (right : Foremost named second) : first = second := by
  have same : first.2.value = second.2.value := by
    apply le_antisymm
    · obtain ⟨before, after, whole, -⟩ := left
      exact right.le (by simp [whole])
    · obtain ⟨before, after, whole, -⟩ := right
      exact left.le (by simp [whole])
  obtain ⟨before, after, rfl, lighter, -⟩ := left
  obtain ⟨others, rest, whole, lightest, -⟩ := right
  -- If the two stood at different places, the later one would be heavier.
  rcases List.append_eq_append_iff.mp whole with ⟨gap, rfl, inside⟩ | ⟨gap, rfl, inside⟩
  · cases gap with
    | nil => exact (List.cons.inj inside).1
    | cons item gap =>
        obtain ⟨rfl, -⟩ := List.cons.inj inside
        exact absurd (lightest first (by simp)) (by simp [same])
  · cases gap with
    | nil => exact (List.cons.inj inside).1.symm
    | cons item gap =>
        obtain ⟨rfl, -⟩ := List.cons.inj inside
        exact absurd (lighter second (by simp)) (by simp [same])

theorem foremost_concat (foremost : Foremost named kept) (next : Format × Weight) :
    ∃ best, better (some kept) next = some best ∧ Foremost (named ++ [next]) best := by
  unfold better
  by_cases lighter : next.2.value ≤ kept.2.value
  · rw [← Weight.le_iff] at lighter
    refine ⟨kept, by simp [lighter], ?_⟩
    rw [Weight.le_iff] at lighter
    obtain ⟨before, after, rfl, earlier, later⟩ := foremost
    refine ⟨before, after ++ [next], by simp, earlier, ?_⟩
    intro other member
    rcases List.mem_append.mp member with member | last
    · exact later other member
    · rwa [List.mem_singleton.mp last]
  · have heavier : ¬ next.2.le kept.2 = true := by rwa [Weight.le_iff]
    refine ⟨next, by simp [heavier], named, [], rfl, ?_, by simp⟩
    intro other member
    exact (foremost.le member).trans_lt (not_le.mp lighter)

/-- The choice keeps the foremost of those that it has seen. -/
theorem foldl_better (named : List (Format × Weight)) :
    (named = [] ∧ named.foldl better none = none) ∨
      ∃ best, named.foldl better none = some best ∧ Foremost named best := by
  induction named using List.reverseRecOn with
  | nil => exact Or.inl ⟨rfl, rfl⟩
  | append_singleton named next ih =>
      rw [List.foldl_append, List.foldl_cons, List.foldl_nil]
      right
      rcases ih with ⟨rfl, unset⟩ | ⟨best, found, foremost⟩
      · rw [unset]
        exact ⟨next, rfl, [], [], rfl, by simp, by simp⟩
      · rw [found]
        exact foremost_concat foremost next

theorem foldl_better_eq_some_iff (named : List (Format × Weight)) :
    named.foldl better none = some kept ↔ Foremost named kept := by
  rcases foldl_better named with ⟨rfl, unset⟩ | ⟨best, found, foremost⟩
  · simp [Foremost]
  · rw [found, Option.some.injEq]
    constructor
    · intro same
      rwa [← same]
    · intro other
      exact foremost.unique other

end fold

section entries

/-- The format and the weight for which an entry counts, if it counts. -/
def counted? (entry : Entry) : Option (Format × Weight) :=
  (weight? entry.weight).bind fun weight =>
    (Format.ofMediaTypeChars? entry.range).map fun format => (format, weight)

theorem namedFormats_eq (text : List Char) :
    namedFormats text = (entries text).filterMap counted? := by
  unfold namedFormats ranges
  rw [List.filterMap_filterMap]
  congr 1
  funext entry
  unfold counted?
  cases weight? entry.weight with
  | none => rfl
  | some weight => rfl

/-- The entry names the format, and its weight is this positive number. -/
structure Entry.Votes (entry : Entry) (format : Format) (quality : Quality) : Prop where
  names : entry.Names format
  weight : quality? entry.weight = some quality
  positive : 0 < quality

theorem Entry.votes_iff (entry : Entry) (format : Format) (quality : Quality) :
    entry.Votes format quality ↔
      ∃ weight, counted? entry = some (format, weight) ∧ weight.value = quality := by
  have counted (weight : Weight) : counted? entry = some (format, weight) ↔
      weight? entry.weight = some weight ∧ entry.Names format := by
    unfold counted? Entry.Names
    cases weight? entry.weight with
    | none => simp
    | some other => simp [and_comm]
  have weights := weight?_iff entry.weight quality
  constructor
  · intro votes
    obtain ⟨weight, found, value⟩ := weights.mpr ⟨votes.weight, votes.positive⟩
    exact ⟨weight, (counted weight).mpr ⟨found, votes.names⟩, value⟩
  · rintro ⟨weight, found, value⟩
    obtain ⟨found, names⟩ := (counted weight).mp found
    obtain ⟨read, positive⟩ := weights.mp ⟨weight, found, value⟩
    exact ⟨names, read, positive⟩

theorem exists_votes_iff (entry : Entry) :
    (∃ format quality, entry.Votes format quality) ↔ counted? entry ≠ none := by
  constructor
  · rintro ⟨format, quality, votes⟩
    obtain ⟨weight, found, -⟩ := (entry.votes_iff format quality).mp votes
    rw [found]
    exact Option.some_ne_none _
  · intro counts
    obtain ⟨⟨format, weight⟩, found⟩ := Option.ne_none_iff_exists'.mp counts
    exact ⟨format, weight.value, (entry.votes_iff format weight.value).mpr ⟨weight, found, rfl⟩⟩

/-- Some entry names the format with a positive weight, which no entry for a known format exceeds
and none before it reaches. -/
def Leads (entries : List Entry) (format : Format) : Prop :=
  ∃ before entry after quality, entries = before ++ entry :: after ∧ entry.Votes format quality ∧
    (∀ other ∈ entries, ∀ known weight, other.Votes known weight → weight ≤ quality) ∧
    ∀ other ∈ before, ∀ known weight, other.Votes known weight → weight < quality

theorem leads_iff (entries : List Entry) (format : Format) :
    Leads entries format ↔ ∃ weight, Foremost (entries.filterMap counted?) (format, weight) := by
  constructor
  · rintro ⟨before, entry, after, quality, rfl, votes, most, first⟩
    obtain ⟨weight, found, rfl⟩ := (entry.votes_iff format quality).mp votes
    refine ⟨weight, before.filterMap counted?, after.filterMap counted?, ?_, ?_, ?_⟩
    · rw [List.filterMap_append, List.filterMap_cons_some found]
    · intro other member
      obtain ⟨source, isBefore, counts⟩ := List.mem_filterMap.mp member
      apply first source isBefore other.1
      exact (source.votes_iff _ _).mpr ⟨other.2, counts, rfl⟩
    · intro other member
      obtain ⟨source, isAfter, counts⟩ := List.mem_filterMap.mp member
      apply most source (by simp [isAfter]) other.1
      exact (source.votes_iff _ _).mpr ⟨other.2, counts, rfl⟩
  · rintro ⟨weight, foremost⟩
    have most (other : Entry) (member : other ∈ entries) (known : Format) (quality : Quality)
        (votes : other.Votes known quality) : quality ≤ weight.value := by
      obtain ⟨found, counts, rfl⟩ := (other.votes_iff known quality).mp votes
      exact foremost.le (List.mem_filterMap.mpr ⟨other, member, counts⟩)
    obtain ⟨lighter, rest, whole, first, -⟩ := foremost
    obtain ⟨front, others, rfl, rfl, chosen⟩ := List.filterMap_eq_append_iff.mp whole
    obtain ⟨idle, entry, after, rfl, uncounted, counts, -⟩ := List.filterMap_eq_cons_iff.mp chosen
    refine ⟨front ++ idle, entry, after, weight.value, by simp,
      (entry.votes_iff _ _).mpr ⟨weight, counts, rfl⟩, most, ?_⟩
    intro other member known quality votes
    obtain ⟨found, counted, rfl⟩ := (other.votes_iff known quality).mp votes
    rcases List.mem_append.mp member with early | skipped
    · exact first _ (List.mem_filterMap.mpr ⟨other, early, counted⟩)
    · rw [uncounted other skipped] at counted
      cases counted

theorem preferred?_eq_some_iff :
    preferred? accept = some format ↔ Leads (entries accept.toList) format := by
  rw [leads_iff, ← namedFormats_eq, preferred?, Option.map_eq_some_iff]
  constructor
  · rintro ⟨⟨_, weight⟩, found, rfl⟩
    exact ⟨weight, (foldl_better_eq_some_iff _).mp found⟩
  · rintro ⟨weight, foremost⟩
    exact ⟨(format, weight), (foldl_better_eq_some_iff _).mpr foremost, rfl⟩

theorem preferred?_eq_none_iff :
    preferred? accept = none ↔ ∀ entry ∈ entries accept.toList, ∀ known weight,
      ¬ entry.Votes known weight := by
  have silent (entry : Entry) :
      counted? entry = none ↔ ∀ known weight, ¬ entry.Votes known weight := by
    rw [← not_iff_not, ← ne_eq, ← exists_votes_iff]
    push Not
    rfl
  have unset : preferred? accept = none ↔ namedFormats accept.toList = [] := by
    rw [preferred?, Option.map_eq_none_iff]
    constructor
    · intro unset
      rcases foldl_better (namedFormats accept.toList) with ⟨empty, -⟩ | ⟨best, found, -⟩
      · exact empty
      · rw [unset] at found
        cases found
    · intro empty
      rw [empty]
      rfl
  rw [unset, namedFormats_eq, List.filterMap_eq_nil_iff]
  simp only [silent]

end entries

section parts

/-- The parts of the header between commas. -/
def parts (accept : String) : List (List Char) := Text.splitAt ',' accept.toList

/-- A part that has no say in the choice of a format. -/
inductive Idle (part : List Char) : Prop
  | blank (empty : Text.isBlankText (part.takeWhile (· != ';')) = true)
  | unknown (entry : Entry) (read : entry? part = some entry)
      (names : ∀ format, ¬ entry.Names format)
  | wildcard (entry : Entry) (topLevel : List Char) (read : entry? part = some entry)
      (opened : entry.range = topLevel ++ "/*".toList)
  | notANumber (entry : Entry) (read : entry? part = some entry)
      (weight : quality? entry.weight = none)
  | notPositive (entry : Entry) (quality : Quality) (read : entry? part = some entry)
      (weight : quality? entry.weight = some quality) (low : quality ≤ 0)

theorem entry?_eq_none {part : List Char}
    (blank : Text.isBlankText (part.takeWhile (· != ';')) = true) : entry? part = none := by
  have head := Text.head?_splitAt ';' part
  unfold entry?
  cases pieces : Text.splitAt ';' part with
  | nil => rfl
  | cons range parameters =>
      rw [pieces, List.head?_cons, Option.some.injEq] at head
      simp [head, Text.trim_eq_nil_iff.mpr blank]

/-- The format and the weight for which a part counts. -/
def partCounted? (part : List Char) : Option (Format × Weight) :=
  entry? part |>.bind counted?

theorem partCounted?_eq_none {part : List Char} {entry : Entry} (read : entry? part = some entry)
    (silent : ∀ known weight, ¬ entry.Votes known weight) : partCounted? part = none := by
  rw [partCounted?, read, Option.bind_some]
  by_contra counts
  obtain ⟨known, weight, votes⟩ := (exists_votes_iff entry).mpr counts
  exact silent known weight votes

theorem Idle.uncounted {part : List Char} (idle : Idle part) : partCounted? part = none := by
  cases idle with
  | blank empty => rw [partCounted?, entry?_eq_none empty, Option.bind_none]
  | unknown entry read names =>
      apply partCounted?_eq_none read
      intro known _ votes
      exact names known votes.names
  | wildcard entry topLevel read opened =>
      apply partCounted?_eq_none read
      intro known _ votes
      have closed := Format.not_mem_of_mediaType (plain_of_read read) votes.names
      rw [opened] at closed
      simp at closed
  | notANumber entry read weight =>
      apply partCounted?_eq_none read
      intro _ _ votes
      have number := votes.weight
      rw [weight] at number
      cases number
  | notPositive entry quality read weight low =>
      apply partCounted?_eq_none read
      intro _ _ votes
      have same := votes.weight
      rw [weight, Option.some.injEq] at same
      exact absurd votes.positive (not_lt.mpr (same ▸ low))

/-- The same parts in the same order, but for idle ones, which either may have anywhere. -/
inductive IdleApart : List (List Char) → List (List Char) → Prop
  | nil : IdleApart [] []
  | both (part : List Char) {first second : List (List Char)} :
      IdleApart first second → IdleApart (part :: first) (part :: second)
  | left {part : List Char} {first second : List (List Char)} :
      Idle part → IdleApart first second → IdleApart (part :: first) second
  | right {part : List Char} {first second : List (List Char)} :
      Idle part → IdleApart first second → IdleApart first (part :: second)

theorem IdleApart.filterMap_eq {first second : List (List Char)} (apart : IdleApart first second) :
    first.filterMap partCounted? = second.filterMap partCounted? := by
  induction apart with
  | nil => rfl
  | both part _ ih => rw [List.filterMap_cons, List.filterMap_cons, ih]
  | left idle _ ih => rw [List.filterMap_cons_none idle.uncounted, ih]
  | right idle _ ih => rw [List.filterMap_cons_none idle.uncounted, ih]

theorem namedFormats_parts (accept : String) :
    namedFormats accept.toList = (parts accept).filterMap partCounted? := by
  rw [namedFormats_eq, entries, List.filterMap_filterMap]
  rfl

end parts

/-- The header prefers the first of the known formats with the greatest positive weight, and none
where no known format has a positive weight. Idle parts that are inserted, deleted or put elsewhere
do not change that, and what is preferred is admitted. -/
theorem preferred_leads (accept : String) :
    (∀ format, preferred? accept = some format ↔ Leads (entries accept.toList) format) ∧
    (preferred? accept = none ↔ ∀ entry ∈ entries accept.toList, ∀ known weight,
      ¬ entry.Votes known weight) ∧
    (∀ other, IdleApart (parts accept) (parts other) → preferred? other = preferred? accept) ∧
    ∀ format, preferred? accept = some format → admits accept format = true := by
  refine ⟨fun format => preferred?_eq_some_iff, preferred?_eq_none_iff, ?_, ?_⟩
  · intro other apart
    rw [preferred?, preferred?, namedFormats_parts, namedFormats_parts, apart.filterMap_eq]
  · intro format preferred
    rw [admits_iff]
    exact Or.inl (lists_of_preferred preferred)

section demonstration

/-- CSV is the first of two formats of the same weight. Before it stands another one of a lower
weight, and it is named before with a weight that is no number. -/
def mixedHeader : String :=
  "application/json;q=0.5,text/csv;q=nan,text/html,text/csv;q=0.8,application/zip;q=0.8,*/*"

/-- The same formats with their weights, among other idle parts. -/
def sparseHeader : String :=
  "*/*,application/json;q=0.5,application/zip;q=0,text/csv;q=0.8,,application/zip;q=0.8"

theorem idleApart_headers : IdleApart (parts mixedHeader) (parts sparseHeader) := by
  have mixed : parts mixedHeader = ["application/json;q=0.5".toList, "text/csv;q=nan".toList,
    "text/html".toList, "text/csv;q=0.8".toList, "application/zip;q=0.8".toList,
    "*/*".toList] := by decide
  have sparse : parts sparseHeader = ["*/*".toList, "application/json;q=0.5".toList,
    "application/zip;q=0".toList, "text/csv;q=0.8".toList, [],
    "application/zip;q=0.8".toList] := by decide
  have any : Idle "*/*".toList := .wildcard ⟨"*/*".toList, one⟩ ['*'] (by decide) rfl
  have html : Idle "text/html".toList :=
    .unknown ⟨"text/html".toList, one⟩ (by decide) fun format => by cases format <;> decide
  have unweighed : Idle "text/csv;q=nan".toList :=
    .notANumber ⟨"text/csv".toList, .notANumber⟩ (by decide) rfl
  have refused : Idle "application/zip;q=0".toList := by
    let zero := Binary.zero .single false
    have none : zero.magnitude = 0 := (isZero_iff zero).mp rfl
    have low : ¬ 0 < signed false zero.magnitude := by
      rw [signed_pos_iff false _ zero.magnitude_nonneg]
      exact fun positive => positive.2 none
    exact .notPositive ⟨"application/zip".toList, .decimal false 0 0⟩ _ (by decide) rfl
      (not_lt.mp low)
  rw [mixed, sparse]
  apply IdleApart.right any
  apply IdleApart.both
  apply IdleApart.left unweighed
  apply IdleApart.left html
  apply IdleApart.right refused
  apply IdleApart.both
  apply IdleApart.right (Idle.blank rfl)
  apply IdleApart.both
  exact IdleApart.left any IdleApart.nil

theorem csv_leads :
    Leads (entries mixedHeader.toList) .csv ∧ preferred? sparseHeader = some .csv ∧
      admits mixedHeader .csv = true := by
  obtain ⟨leads, -, same, admitted⟩ := preferred_leads mixedHeader
  have preferred : preferred? mixedHeader = some .csv := by decide
  exact ⟨(leads .csv).mp preferred, (same _ idleApart_headers).trans preferred,
    admitted .csv preferred⟩

end demonstration

end DatasetService.Accept
