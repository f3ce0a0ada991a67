import DatasetService.Proofs.Binding.Bounds
import DatasetService.Proofs.Format.Suffix

set_option autoImplicit false

/- References that are bound. The reader admits well-formed ones only; but for the format a
selector may still lose its suffix, and then not every selector stays one. -/
namespace DatasetService

/-- The reference among the parameters of a shape that has one. -/
def ParamShape.reference? : (shape : ParamShape) → shape.Params → Option Reference
  | .list, _ => none
  | .log, params => some params.reference
  | .get, params => some params.reference
  | .sql, _ => none
  | .publish, params => some params.reference
  | .save, params => some params.reference
  | .profileImage, _ => none

namespace Reference

/-- A dataset may be addressed by any selector in place of the one that there is. -/
theorem WellFormed.withSelector {reference : Reference} (wellFormed : reference.WellFormed)
    (named : reference.hasName = true) {selector : Option String}
    (path : ∀ given ∈ selector, SelectorPath given.toList) :
    { reference with selector }.WellFormed := by
  obtain ⟨user, other, ⟨unnamed, -, -⟩ | ⟨name, version, -⟩⟩ := wellFormed
  · simp [hasName, unnamed] at named
  · exact ⟨user, other, Or.inr ⟨name, version, path⟩⟩

/-- A text that ends with a slash is that of no reference. -/
theorem parse_ne_ok_of_slash {text : String} {start : List Char}
    (slash : text.toList = start ++ ['/']) (reference : Reference) :
    parse text ≠ .ok reference := by
  intro read
  obtain ⟨same, wellFormed⟩ := (parseChars_eq_ok_iff _ reference).mp read
  have ended := wellFormed.text_halts.2
  rw [← same, slash, List.reverse_append] at ended
  simp at ended

end Reference

namespace Binding

open Negotiation

variable {shape : ParamShape} {input : RawInput}

/-- The parameters are those that the fields were filled with, and the reference is put in last. -/
theorem exists_of_bind_reference {params : shape.Params}
    (has : shape.referenceField? = some referenceField) (bound : bind shape input = .ok params) :
    ∃ written progress, parseReference referenceField input = .ok (some written) ∧
      written.WellFormed ∧
      bindFields shape input shape.manifest { params := shape.initial, reference := some written } =
        .ok progress ∧
      (∀ reference, progress.reference = some reference →
        shape.assign progress.params "reference" (.reference reference) = .ok params) ∧
      shape.validate params = .ok () := by
  obtain ⟨found, progress, read, filled, put, checked⟩ := exists_of_bind bound
  unfold readReference at read
  rw [has] at read
  obtain ⟨written, rfl, wellFormed⟩ := wellFormed_of_parseReference rfl read
  exact ⟨written, progress, read, wellFormed, filled,
    fun reference kept => assign_of_putReference has kept put, checked⟩

/-- Where no format is negotiated, filling the fields leaves the reference alone. -/
theorem reference_of_bindFields {fields : List FieldSpec} {progress after : Progress shape}
    (plain : ∀ field ∈ fields, field.kind ≠ .format)
    (filled : bindFields shape input fields progress = .ok after) :
    after.reference = progress.reference :=
  (bindFields_keeps (fun _ => True) plain (fun _ _ _ _ _ _ _ _ => trivial) progress trivial
    filled).2

/-- The format of a dataset is negotiated with the selector of its reference. -/
theorem reference_of_bindFields_get {written : Reference} {after : Progress .get}
    (filled : bindFields .get input GetParams.manifest ⟨{}, some written⟩ = .ok after) :
    ∃ explicit result,
      Negotiation.negotiate explicit written.selector input.accept = .ok result ∧
      after.reference = some { written with selector := result.selector } := by
  obtain ⟨progress, first, filled⟩ := exists_of_bind_eq_ok filled
  cases first
  obtain ⟨progress, second, filled⟩ := exists_of_bind_eq_ok filled
  cases filled
  obtain ⟨explicit, -, second⟩ := exists_of_bind_eq_ok second
  obtain ⟨result, negotiated, second⟩ := exists_of_bind_eq_ok second
  obtain ⟨params, -, second⟩ := exists_of_bind_eq_ok second
  cases second
  exact ⟨explicit, result, negotiated, rfl⟩

/-- The parameters have the reference that is put in. -/
theorem reference_of_assign {params after : shape.Params} {reference : Reference}
    (assigns : shape.assign params "reference" (.reference reference) = .ok after) :
    shape.reference? after = some reference := by
  cases shape with
  | list => cases assigns
  | log =>
      have filled : LogParams.assign params "reference" (.reference reference) =
        .ok { params with reference } := rfl
      cases filled.symm.trans assigns
      rfl
  | get =>
      have filled : GetParams.assign params "reference" (.reference reference) =
        .ok { params with reference } := rfl
      cases filled.symm.trans assigns
      rfl
  | sql => cases assigns
  | publish =>
      have filled : PublishParams.assign params "reference" (.reference reference) =
        .ok { params with reference } := rfl
      cases filled.symm.trans assigns
      rfl
  | save =>
      have filled : SaveParams.assign params "reference" (.reference reference) =
        .ok { params with reference } := rfl
      cases filled.symm.trans assigns
      rfl
  | profileImage => cases assigns

/-- Where no format is negotiated, the parameters have a reference that is well-formed. -/
theorem wellFormed_of_bind {params : shape.Params} {reference : Reference}
    (plain : ∀ field ∈ shape.manifest, field.kind ≠ .format)
    (has : shape.referenceField? = some referenceField) (bound : bind shape input = .ok params)
    (holds : shape.reference? params = some reference) : reference.WellFormed := by
  obtain ⟨written, progress, -, wellFormed, filled, assigns, -⟩ :=
    exists_of_bind_reference has bound
  have put := reference_of_assign (assigns written (reference_of_bindFields plain filled))
  cases put.symm.trans holds
  exact wellFormed

/-- What is bound is the reference that the request gives, with another selector where the format
is read off it. It reads back from its text, unless a whole segment of the selector was the suffix:
then the selector ends with the slash before it, and the text is that of no reference. -/
theorem bound_reference_reads_back {params : shape.Params} {reference : Reference}
    (bound : bind shape input = .ok params) (holds : reference ∈ shape.reference? params) :
    ∃ written, parseReference referenceField input = .ok (some written) ∧ written.WellFormed ∧
      (shape ≠ .get → reference = written) ∧
      reference = { written with selector := reference.selector } ∧
      ((shape = .get → ∀ selector ∈ written.selector, ∀ stem, ¬ BareSuffix selector stem) →
        Reference.parse reference.text = .ok reference) ∧
      (shape = .get → ∀ selector ∈ written.selector, ∀ stem, BareSuffix selector stem →
        reference.selector = some (stem ++ "/") ∧
          ∀ other, Reference.parse reference.text ≠ .ok other) := by
  have has : shape.referenceField? = some referenceField := by
    cases shape <;> first | rfl | cases holds
  obtain ⟨written, progress, read, wellFormed, filled, assigns, checked⟩ :=
    exists_of_bind_reference has bound
  refine ⟨written, read, wellFormed, ?_⟩
  -- Only the shape with a format rewrites the reference after it was read.
  by_cases isGet : shape = .get
  · subst isGet
    obtain ⟨explicit, result, negotiated, kept⟩ := reference_of_bindFields_get filled
    obtain ⟨cut, added⟩ := selector_of_negotiate negotiated
    have put := reference_of_assign (assigns _ kept)
    obtain rfl : { written with selector := result.selector } = reference :=
      Option.some.inj (put.symm.trans holds)
    have named : written.hasName = true := by
      obtain ⟨⟨⟩, required, -⟩ := exists_of_bind_eq_ok checked
      rw [Option.some.inj put] at required
      have named := hasName_of_requireName required
      exact named
    refine ⟨fun other => absurd rfl other, rfl, fun full => ?_, ?_⟩
    · refine Reference.parseChars_text _ (wellFormed.withSelector named ?_)
      intro selector member
      cases selected : written.selector with
      | none =>
          rcases added selected with none | body
          · rw [none] at member
            cases member
          · rw [body] at member
            cases member
            exact selectorPath_body
      | some given =>
          rw [cut given selected] at member
          cases member
          exact selectorPath_splitSuffix (wellFormed.selectorPath given selected)
            (full rfl given selected)
    · intro _ selector given stem bare
      have ending : result.selector = some (stem ++ "/") := by
        rw [cut selector given, splitSuffix_bare bare]
      have last : ({ written with selector := result.selector } : Reference).text.toList =
          ({ written with selector := some stem } : Reference).text.toList ++ ['/'] := by
        rw [Reference.text_toList, Reference.text_toList, ending]
        simp
      exact ⟨ending, Reference.parse_ne_ok_of_slash last⟩
  · have plain : ∀ field ∈ shape.manifest, field.kind ≠ .format := by
      cases shape <;> first | exact absurd rfl isGet | cases holds; done | decide
    have kept := reference_of_bindFields plain filled
    have put := reference_of_assign (assigns written kept)
    obtain rfl : written = reference := Option.some.inj (put.symm.trans holds)
    refine ⟨fun _ => rfl, rfl, fun _ => ?_, fun get => absurd get isGet⟩
    exact Reference.parseChars_text written wellFormed

/-- A request for the metadata of a dataset, with nothing but the format behind the slash. -/
def bareSuffixInput : RawInput := { reference := some "peer/movies/meta/.json" }

def bareSuffixReference : Reference :=
  { username := "peer", name := "movies", selector := some "meta/" }

theorem bind_bareSuffixInput :
    bind .get bareSuffixInput = .ok { reference := bareSuffixReference, format := .json } := by
  decide +kernel

theorem bare_suffix_leaves_no_reference :
    bind .get bareSuffixInput = .ok { reference := bareSuffixReference, format := .json } ∧
    bareSuffixReference.selector = some ("meta" ++ "/") ∧
    ∀ other, Reference.parse bareSuffixReference.text ≠ .ok other := by
  obtain ⟨written, read, -, -, -, -, bare⟩ := bound_reference_reads_back bind_bareSuffixInput rfl
  have given : parseReference referenceField bareSuffixInput =
      .ok (some { bareSuffixReference with selector := some "meta/.json" }) := by
    decide +kernel
  cases given.symm.trans read
  exact ⟨bind_bareSuffixInput, bare rfl "meta/.json" rfl "meta" ⟨"json", rfl, rfl⟩⟩

/-- So not every reference that is bound reads back from its text. -/
theorem not_every_bound_reference_reads_back :
    ¬ ∀ (shape : ParamShape) (input : RawInput) (params : shape.Params) (reference : Reference),
      bind shape input = .ok params → reference ∈ shape.reference? params →
      Reference.parse reference.text = .ok reference := by
  intro reads
  have read := reads .get bareSuffixInput _ bareSuffixReference bind_bareSuffixInput rfl
  have refused : Reference.parse bareSuffixReference.text ≠ .ok bareSuffixReference := by
    decide +kernel
  exact refused read

end Binding
end DatasetService
