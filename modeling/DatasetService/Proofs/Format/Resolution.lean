import DatasetService.Format.Negotiation
import DatasetService.Proofs.Except
import DatasetService.Proofs.Format.Accept

set_option autoImplicit false

/- The choice of a format. An explicit name, a suffix and the header are conditions on the format of
the answer. Each step of the choice keeps the formats that meet the conditions so far, and it fails
only where none of them is left. -/
namespace DatasetService.Negotiation

variable {explicit suffix accept : Option String} {format : Format}

/-- No format is given by name: there is no parameter, or it is blank. -/
def Unnamed (explicit : Option String) : Prop :=
  ∀ name ∈ explicit, Text.isBlankText name.toList = true

/-- The header, if it lists a format, admits this one. -/
def Admitted (accept : Option String) (format : Format) : Prop :=
  ∀ value ∈ accept, (∃ known, Accept.Lists value known) → Accept.admits value format = true

/-- Nothing that a request gives speaks against the format. -/
structure Compatible (explicit suffix accept : Option String) (format : Format) : Prop where
  /-- An explicit name that is not blank names the format. -/
  named : ∀ name ∈ explicit, Text.isBlankText name.toList = false →
    Format.ofName? name = some format
  /-- A suffix that names a format names this one. -/
  ending : ∀ ending ∈ suffix, ∀ known, Format.ofName? ending = some known → known = format
  admitted : Admitted accept format

/-- What is asked for, if anything is, is the format. -/
def Asks {α : Type} (asked : Option (Format × α)) (format : Format) : Prop :=
  ∀ named ∈ asked, named.1 = format

section asks

variable {α : Type}

theorem asks_none (format : Format) : Asks (none : Option (Format × α)) format := by
  intro named member
  cases member

theorem asks_some {asked : Format × α} : Asks (some asked) format ↔ asked.1 = format := by
  simp only [Asks, Option.mem_some_iff, forall_eq']

end asks

section explicit

variable {name : String}

theorem ofName_trimmed (name : String) : Format.ofName? (trimmed name) = Format.ofName? name := by
  unfold Format.ofName? Format.ofNameChars? trimmed
  rw [String.toList_ofList, Text.trim_trim]

theorem trimmed_eq_empty_iff : trimmed name = "" ↔ Text.isBlankText name.toList = true := by
  rw [← Text.trim_eq_nil_iff, trimmed, ← String.toList_inj, String.toList_ofList]
  rfl

theorem graphic_of_named (named : Format.ofName? name = some format) :
    Text.isBlankText name.toList = false := by
  by_contra blank
  rw [Bool.not_eq_false, ← trimmed_eq_empty_iff] at blank
  rw [← ofName_trimmed, blank] at named
  revert named
  cases format <;> decide

/-- A name that is not blank is given as it is between its blanks. -/
theorem filter_of_graphic (graphic : Text.isBlankText name.toList = false) :
    (some (trimmed name)).filter (· != "") = some (trimmed name) := by
  have given : trimmed name ≠ "" := by
    rw [ne_eq, trimmed_eq_empty_iff, graphic]
    exact Bool.false_ne_true
  rw [Option.filter_some, if_pos (bne_iff_ne.mpr given)]

theorem explicitFormat_of_unnamed (unnamed : Unnamed explicit) :
    explicitFormat explicit = .ok none := by
  cases explicit with
  | none => rfl
  | some name =>
      unfold explicitFormat
      rw [Option.map_some, trimmed_eq_empty_iff.mpr (unnamed name rfl)]
      rfl

theorem explicitFormat_of_named (named : Format.ofName? name = some format) :
    explicitFormat (some name) = .ok (some (format, trimmed name)) := by
  unfold explicitFormat
  rw [Option.map_some, filter_of_graphic (graphic_of_named named)]
  dsimp only
  rw [ofName_trimmed, named]

theorem explicitFormat_of_unknown (graphic : Text.isBlankText name.toList = false)
    (unknown : Format.ofName? name = none) :
    explicitFormat (some name) = .error (.badRequest
      ("unknown format \"" ++ trimmed name ++ "\", expected json, csv or zip")) := by
  unfold explicitFormat
  rw [Option.map_some, filter_of_graphic graphic]
  dsimp only
  rw [ofName_trimmed, unknown]

/-- A parameter that is blank or names a format asks for what it names. -/
theorem exists_explicitFormat
    (known : ∀ name ∈ explicit, Text.isBlankText name.toList = false →
      ∃ format, Format.ofName? name = some format) :
    ∃ asked, explicitFormat explicit = .ok asked ∧ (Unnamed explicit → asked = none) ∧
      ∀ format, Asks asked format ↔ ∀ name ∈ explicit, Text.isBlankText name.toList = false →
        Format.ofName? name = some format := by
  by_cases unnamed : Unnamed explicit
  · refine ⟨none, explicitFormat_of_unnamed unnamed, fun _ => rfl, fun format => ?_⟩
    refine iff_of_true (asks_none format) fun name given graphic => ?_
    rw [unnamed name given] at graphic
    cases graphic
  · simp only [Unnamed, not_forall, Bool.not_eq_true] at unnamed
    obtain ⟨name, rfl, graphic⟩ := unnamed
    obtain ⟨first, named⟩ := known name rfl graphic
    refine ⟨some (first, trimmed name), explicitFormat_of_named named, fun unnamed => ?_, ?_⟩
    · rw [unnamed name rfl] at graphic
      cases graphic
    · intro format
      rw [asks_some]
      constructor
      · rintro rfl _ ⟨⟩ -
        exact named
      · intro names
        exact Option.some.inj (named.symm.trans (names name rfl graphic))

end explicit

section suffix

theorem asks_suffixFormat :
    Asks (suffixFormat suffix) format ↔
      ∀ ending ∈ suffix, ∀ known, Format.ofName? ending = some known → known = format := by
  cases suffix with
  | none => simp [suffixFormat, Asks]
  | some ending => simp [suffixFormat, Asks]

theorem suffixFormat_of_unknown (unknown : ∀ ending ∈ suffix, Format.ofName? ending = none) :
    suffixFormat suffix = none := by
  cases suffix with
  | none => rfl
  | some ending =>
      rw [suffixFormat, Option.bind_some, unknown ending rfl]
      rfl

/-- Parameter and suffix are in conflict exactly where they ask for different formats. -/
theorem requested_cases (first second : Option (Format × String)) :
    (∃ chosen, requested first second = .ok chosen ∧
      (first = none → second = none → chosen = none) ∧
      ∀ format, Asks chosen format ↔ Asks first format ∧ Asks second format) ∨
    ((∃ asked other, requested first second = .error (.formatConflict asked other)) ∧
      ∀ format, ¬ (Asks first format ∧ Asks second format)) := by
  cases first with
  | none =>
      cases second with
      | none => exact Or.inl ⟨none, rfl, fun _ _ => rfl, by simp [asks_none]⟩
      | some named =>
          refine Or.inl ⟨_, rfl, fun _ absent => ?_, by simp [asks_none, asks_some]⟩
          cases absent
  | some named =>
      cases second with
      | none =>
          refine Or.inl ⟨_, rfl, fun absent _ => ?_, by simp [asks_none, asks_some]⟩
          cases absent
      | some other =>
          by_cases same : named.1 = other.1
          · refine Or.inl ⟨_, if_pos same, fun absent _ => ?_, by simp [asks_some, same]⟩
            cases absent
          · refine Or.inr ⟨⟨_, _, if_neg same⟩, fun format both => ?_⟩
            rw [asks_some, asks_some] at both
            exact same (both.1.trans both.2.symm)

theorem source_of_requested {first second : Option (Format × String)} {name : String}
    {source : Source} (success : requested first second = .ok (some (format, name, source))) :
    source ≠ .header := by
  unfold requested at success
  split at success
  · split at success
    · cases success
      exact Source.noConfusion
    · cases success
  · cases success
    exact Source.noConfusion
  · cases success
    exact Source.noConfusion
  · cases success

end suffix

section header

/-- What the header prefers, and its text. -/
def headerFormat (accept : Option String) : Option (Format × String) :=
  accept.bind fun raw => (Accept.preferred? raw).map fun format => (format, raw)

/-- The last step of the choice: what is asked for must be admitted, and where nothing is asked for
the header decides. -/
def settle (chosen : Option (Format × String × Source)) (header : Option (Format × String)) :
    Except ApiError (Format × Source) :=
  match chosen, header with
  | some (format, name, source), some (_, raw) =>
      if Accept.admits raw format then .ok (format, source)
      else .error (.formatConflict name ("header \"Accept: " ++ trimmed raw ++ "\""))
  | some (format, _, source), none => .ok (format, source)
  | none, some (format, _) => .ok (format, .header)
  | none, none => .ok (.json, .byDefault)

/-- What is asked for is answered as it was asked for. -/
theorem eq_of_settle {name : String} {asked source : Source} {kept : Format}
    {header : Option (Format × String)}
    (success : settle (some (format, name, asked)) header = .ok (kept, source)) :
    kept = format ∧ source = asked := by
  cases header with
  | none =>
      cases success
      exact ⟨rfl, rfl⟩
  | some preferred =>
      by_cases admits : Accept.admits preferred.2 format = true
      · rw [settle, if_pos admits] at success
        cases success
        exact ⟨rfl, rfl⟩
      · rw [settle, if_neg admits] at success
        cases success

theorem resolve_of_requested {asked : Option (Format × String)}
    {chosen : Option (Format × String × Source)} (given : explicitFormat explicit = .ok asked)
    (success : requested asked (suffixFormat suffix) = .ok chosen) :
    resolve explicit suffix accept = settle chosen (headerFormat accept) := by
  unfold resolve
  rw [bind_of_eq_ok given, bind_of_eq_ok success]
  rfl

theorem headerFormat_some {raw : String} (preferred : Accept.preferred? raw = some format) :
    headerFormat (some raw) = some (format, raw) := by
  rw [headerFormat, Option.bind_some, preferred, Option.map_some]

theorem headerFormat_cases (accept : Option String) :
    (∃ raw first, accept = some raw ∧ Accept.preferred? raw = some first ∧
      ∀ format, Admitted accept format ↔ Accept.admits raw format = true) ∨
    (headerFormat accept = none ∧ accept.bind Accept.preferred? = none ∧
      ∀ format, Admitted accept format) := by
  cases accept with
  | none =>
      refine Or.inr ⟨rfl, rfl, fun format value absent => ?_⟩
      cases absent
  | some raw =>
      cases preferred : Accept.preferred? raw with
      | none =>
          refine Or.inr ⟨by rw [headerFormat, Option.bind_some, preferred, Option.map_none],
            by rw [Option.bind_some, preferred], ?_⟩
          rintro format _ ⟨⟩ ⟨known, lists⟩
          obtain ⟨first, found⟩ := Accept.exists_preferred lists
          rw [preferred] at found
          cases found
      | some first =>
          refine Or.inl ⟨raw, first, rfl, preferred, fun format => ⟨fun admitted => ?_, ?_⟩⟩
          · exact admitted raw rfl ⟨first, Accept.lists_of_preferred preferred⟩
          · rintro admits _ ⟨⟩ -
            exact admits

/-- The header is in conflict exactly where it does not admit what is asked for. -/
theorem settle_cases (chosen : Option (Format × String × Source)) (accept : Option String) :
    (∃ format source, settle chosen (headerFormat accept) = .ok (format, source) ∧
      Asks chosen format ∧ Admitted accept format ∧
      (chosen = none → format = (accept.bind Accept.preferred?).getD .json)) ∨
    ((∃ asked other, settle chosen (headerFormat accept) = .error (.formatConflict asked other)) ∧
      ∀ format, ¬ (Asks chosen format ∧ Admitted accept format)) := by
  rcases headerFormat_cases accept with
    ⟨raw, first, rfl, preferred, admitted⟩ | ⟨silent, unlisted, admitted⟩
  · rw [headerFormat_some preferred]
    cases chosen with
    | none =>
        -- The format that the header prefers is admitted by it.
        have admits := Accept.admits_iff.mpr (Or.inl (Accept.lists_of_preferred preferred))
        refine Or.inl ⟨first, .header, rfl, asks_none first, (admitted first).mpr admits,
          fun _ => ?_⟩
        rw [Option.bind_some, preferred, Option.getD_some]
    | some asked =>
        by_cases admits : Accept.admits raw asked.1 = true
        · refine Or.inl ⟨asked.1, asked.2.2, if_pos admits, asks_some.mpr rfl,
            (admitted asked.1).mpr admits, fun absent => ?_⟩
          cases absent
        · refine Or.inr ⟨⟨_, _, if_neg admits⟩, fun format both => ?_⟩
          rw [asks_some, admitted format] at both
          exact admits (both.1 ▸ both.2)
  · rw [silent]
    cases chosen with
    | none =>
        refine Or.inl ⟨.json, .byDefault, rfl, asks_none .json, admitted .json, fun _ => ?_⟩
        rw [unlisted, Option.getD_none]
    | some asked =>
        refine Or.inl ⟨asked.1, asked.2.2, rfl, asks_some.mpr rfl, admitted asked.1,
          fun absent => ?_⟩
        cases absent

end header

theorem compatible_iff :
    Compatible explicit suffix accept format ↔
      ((∀ name ∈ explicit, Text.isBlankText name.toList = false →
        Format.ofName? name = some format) ∧
        Asks (suffixFormat suffix) format) ∧ Admitted accept format := by
  rw [asks_suffixFormat]
  exact ⟨fun ⟨named, ending, admitted⟩ => ⟨⟨named, ending⟩, admitted⟩,
    fun ⟨⟨named, ending⟩, admitted⟩ => ⟨named, ending, admitted⟩⟩

/-- A request whose explicit name is blank or known is answered in a format with which all that it
gives is compatible, or there is none and it is in conflict with itself. -/
theorem resolve_cases (suffix accept : Option String)
    (known : ∀ name ∈ explicit, Text.isBlankText name.toList = false →
      ∃ format, Format.ofName? name = some format) :
    (∃ format source, resolve explicit suffix accept = .ok (format, source) ∧
      Compatible explicit suffix accept format ∧
      (Unnamed explicit → (∀ ending ∈ suffix, Format.ofName? ending = none) →
        format = (accept.bind Accept.preferred?).getD .json)) ∨
    ((∃ asked other, resolve explicit suffix accept = .error (.formatConflict asked other)) ∧
      ∀ format, ¬ Compatible explicit suffix accept format) := by
  obtain ⟨asked, given, unnamed, asks⟩ := exists_explicitFormat known
  simp only [compatible_iff, ← asks]
  rcases requested_cases asked (suffixFormat suffix) with
    ⟨chosen, success, nothing, both⟩ | ⟨⟨name, other, conflict⟩, apart⟩
  · simp only [resolve_of_requested given success, ← both]
    rcases settle_cases chosen accept with
      ⟨format, source, settled, meets, admitted, default⟩ | failed
    · refine Or.inl ⟨format, source, settled, ⟨meets, admitted⟩, fun blank unknown => ?_⟩
      exact default (nothing (unnamed blank) (suffixFormat_of_unknown unknown))
    · exact Or.inr failed
  · refine Or.inr ⟨⟨name, other, ?_⟩, fun format all => apart format all.1⟩
    unfold resolve
    rw [bind_of_eq_ok given, bind_of_eq_error conflict]

/-- The choice is sound and complete: a request is answered exactly where some format is compatible
with all that it gives, and with such a format; that of the header, or JSON, where nothing else is
known. Otherwise it is in conflict with itself, and an unknown name is a bad request. -/
theorem resolve_finds_compatible (explicit suffix accept : Option String) :
    ((∀ name ∈ explicit, Text.isBlankText name.toList = false →
        ∃ format, Format.ofName? name = some format) →
      ((∃ answer, resolve explicit suffix accept = .ok answer) ↔
        ∃ format, Compatible explicit suffix accept format) ∧
      (∀ format source, resolve explicit suffix accept = .ok (format, source) →
        Compatible explicit suffix accept format ∧
        (Unnamed explicit → (∀ ending ∈ suffix, Format.ofName? ending = none) →
          format = (accept.bind Accept.preferred?).getD .json)) ∧
      ((¬ ∃ format, Compatible explicit suffix accept format) →
        ∃ asked other, resolve explicit suffix accept = .error (.formatConflict asked other))) ∧
    ∀ name ∈ explicit, Text.isBlankText name.toList = false → Format.ofName? name = none →
      resolve explicit suffix accept = .error (.badRequest
        ("unknown format \"" ++ trimmed name ++ "\", expected json, csv or zip")) := by
  refine ⟨fun known => ?_, ?_⟩
  · rcases resolve_cases suffix accept known with
      ⟨format, source, success, compatible, default⟩ | ⟨⟨asked, other, conflict⟩, apart⟩
    · refine ⟨iff_of_true ⟨_, success⟩ ⟨format, compatible⟩, fun _ _ answered => ?_, ?_⟩
      · rw [success] at answered
        cases answered
        exact ⟨compatible, default⟩
      · exact fun none => absurd ⟨format, compatible⟩ none
    · refine ⟨iff_of_false ?_ fun ⟨format, compatible⟩ => apart format compatible, ?_, ?_⟩
      · rintro ⟨answer, answered⟩
        rw [conflict] at answered
        cases answered
      · intro format source answered
        rw [conflict] at answered
        cases answered
      · exact fun _ => ⟨asked, other, conflict⟩
  · rintro name rfl graphic unknown
    unfold resolve
    rw [bind_of_eq_error (explicitFormat_of_unknown graphic unknown)]

/-- A request in agreement with itself, one that only its header decides, one in conflict with
itself, and one for an unknown format. -/
theorem csv_zip_and_xml_resolved :
    Compatible (some " CSV ") (some "csv") (some "application/json, text/*;q=0.5") .csv ∧
      .zip = ((some "text/csv;q=0.5, application/zip").bind Accept.preferred?).getD .json ∧
      (∃ asked other, resolve (some "zip") none (some "application/json, text/csv") =
        .error (.formatConflict asked other)) ∧
      resolve (some "xml") none none =
        .error (.badRequest "unknown format \"xml\", expected json, csv or zip") := by
  refine ⟨?agrees, ?header, ?conflict, ?unknown⟩
  case agrees =>
    have success : resolve (some " CSV ") (some "csv") (some "application/json, text/*;q=0.5") =
        .ok (.csv, .explicit) := by decide
    refine (((resolve_finds_compatible _ _ _).1 ?_).2.1 _ _ success).1
    rintro _ ⟨⟩ -
    exact ⟨.csv, by decide⟩
  case header =>
    have success : resolve none (some "data") (some "text/csv;q=0.5, application/zip") =
        .ok (.zip, .header) := by decide
    refine (((resolve_finds_compatible _ _ _).1 ?_).2.1 _ _ success).2 ?_ ?_
    · rintro _ ⟨⟩
    · rintro _ ⟨⟩
    · rintro _ ⟨⟩
      decide
  case conflict =>
    refine ((resolve_finds_compatible _ _ _).1 ?_).2.2 ?_
    · rintro _ ⟨⟩ -
      exact ⟨.zip, by decide⟩
    · rintro ⟨format, compatible⟩
      obtain rfl : .zip = format :=
        Option.some.inj (compatible.named "zip" rfl (by decide))
      have admits := compatible.admitted _ rfl ⟨.json, by decide⟩
      revert admits
      decide
  case unknown =>
    exact (resolve_finds_compatible _ _ _).2 "xml" rfl (by decide) (by decide)

/-- What is answered for the header's sake is what the header prefers. -/
theorem header_of_resolve (success : resolve explicit suffix accept = .ok (format, .header)) :
    ∃ raw ∈ accept, Accept.preferred? raw = some format := by
  obtain ⟨asked, given, success⟩ := exists_of_bind_eq_ok success
  obtain ⟨chosen, requested, success⟩ := exists_of_bind_eq_ok success
  change settle chosen (headerFormat accept) = _ at success
  cases chosen with
  | some chosen =>
      exact absurd (eq_of_settle success).2.symm (source_of_requested requested)
  | none =>
      rcases headerFormat_cases accept with ⟨raw, first, rfl, preferred, -⟩ | ⟨silent, -, -⟩
      · rw [headerFormat_some preferred] at success
        cases success
        exact ⟨raw, rfl, preferred⟩
      · rw [silent] at success
        cases success

/-- A refused format is refused: by name, where the header lists a format and leaves no range open
to the refused one, and as the format of the header, always. -/
theorem refusal_is_honoured {accept : String} {format : Format}
    (refused : Accept.Refuses accept format) :
    ((∃ other, Accept.Lists accept other) → ¬ Accept.Opens accept format →
      ∀ name, Format.ofName? name = some format →
        resolve (some name) none (some accept) = .error (.formatConflict (trimmed name)
          ("header \"Accept: " ++ trimmed accept ++ "\""))) ∧
    ∀ explicit suffix, resolve explicit suffix (some accept) ≠ .ok (format, .header) := by
  constructor
  · rintro ⟨other, lists⟩ closed name named
    obtain ⟨first, preferred⟩ := Accept.exists_preferred lists
    have unadmitted : ¬ Accept.admits accept format = true := by
      rw [Accept.admits_iff]
      rintro (listed | opened)
      · exact refused.not_lists listed
      · exact closed opened
    rw [resolve_of_requested (explicitFormat_of_named named) rfl, headerFormat_some preferred]
    exact if_neg unadmitted
  · intro explicit suffix success
    obtain ⟨_, ⟨⟩, preferred⟩ := header_of_resolve success
    exact refused.not_lists (Accept.lists_of_preferred preferred)

/-- A header that lists another format and refuses this one. -/
theorem csv_refused_for_json :
    Accept.Refuses "text/csv;q=0, application/json" .csv ∧
      resolve (some "csv") none (some "text/csv;q=0, application/json") =
        .error (.formatConflict "csv" "header \"Accept: text/csv;q=0, application/json\"") ∧
      resolve none (some "data") (some "text/csv;q=0, application/json") ≠ .ok (.csv, .header) := by
  have refused : Accept.Refuses "text/csv;q=0, application/json" .csv := by decide
  have honoured := refusal_is_honoured refused
  exact ⟨refused, honoured.1 ⟨.json, by decide⟩ (by decide) "csv" (by decide),
    honoured.2 none (some "data")⟩

/-- A range that is open to all formats is open to a refused one. -/
theorem wildcard_admits_refused :
    ¬ ∀ (accept : String) (format : Format), Accept.Refuses accept format →
      (∀ name, Format.ofName? name = some format →
        ∃ asked other,
          resolve (some name) none (some accept) = .error (.formatConflict asked other)) ∧
      ∀ explicit suffix, Unnamed explicit →
        resolve explicit suffix (some accept) ≠ .ok (format, .header) := by
  intro honoured
  have refused : Accept.Refuses "text/csv;q=0, application/json, */*" .csv := by decide
  obtain ⟨asked, other, conflict⟩ := (honoured _ .csv refused).1 "csv" (by decide)
  have answered : resolve (some "csv") none (some "text/csv;q=0, application/json, */*") =
      .ok (.csv, .explicit) := by decide
  rw [answered] at conflict
  cases conflict

end DatasetService.Negotiation
