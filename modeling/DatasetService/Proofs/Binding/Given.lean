import DatasetService.Proofs.Binding.Bounds
import DatasetService.Proofs.Reference.Spelling

set_option autoImplicit false

/- What is bound of the values that a request gives. Each field is filled by itself, so that the
parameters follow from what the values of the fields are read as. -/
namespace DatasetService

namespace Binding

section fields

variable {shape : ParamShape} {input : RawInput} {progress : Progress shape} {field : FieldSpec}

theorem bindField_of_value {value : BoundValue} {params : shape.Params}
    (plain : field.kind ≠ .reference ∧ field.kind ≠ .format)
    (given : fieldValue field (input.effective field.name) = .ok (some value))
    (assigns : shape.assign progress.params field.name value = .ok params) :
    bindField shape input progress field = .ok { progress with params } := by
  unfold bindField
  dsimp only
  split
  · rename_i reference
    exact absurd reference plain.1
  · rename_i format
    exact absurd format plain.2
  · have assignment : assigned shape progress.params field.name value = .ok params := by
      rw [assigned, assigns]
    rw [bind_of_eq_ok given]
    dsimp only
    rw [bind_of_eq_ok assignment]
    rfl

theorem bindField_of_none (optional : field.required = false)
    (plain : field.kind ≠ .format)
    (given : fieldValue field (input.effective field.name) = .ok none) :
    bindField shape input progress field = .ok progress := by
  unfold bindField
  dsimp only
  split
  · rfl
  · rename_i format
    exact absurd format plain
  · rw [bind_of_eq_ok given]
    simp only [optional, Bool.false_eq_true, if_false]
    rfl

/-- A field that may be left out keeps what it has where nothing is given for it. -/
theorem bindField_optional {found : Option BoundValue} {after : shape.Params}
    (optional : field.required = false) (plain : field.kind ≠ .reference ∧ field.kind ≠ .format)
    (given : fieldValue field (input.effective field.name) = .ok found)
    (assigns : ∀ value ∈ found, shape.assign progress.params field.name value = .ok after)
    (keeps : found = none → after = progress.params) :
    bindField shape input progress field = .ok { progress with params := after } := by
  cases found with
  | none =>
      rw [keeps rfl]
      exact bindField_of_none optional plain.2 given
  | some value => exact bindField_of_value plain given (assigns value rfl)

end fields

/-- The integer that a text says, zero where there is none. -/
def integerOf (text : Option String) : Int := (text.bind integerOfText?).getD 0

/-- A text that says an integer, or none at all. -/
def Whole (text : Option String) : Prop := ∀ given ∈ text, (integerOfText? given).isSome = true

instance (text : Option String) : Decidable (Whole text) :=
  inferInstanceAs (Decidable (∀ given ∈ text, (integerOfText? given).isSome = true))

section integers

variable {text : Option String} (whole : Whole text) (name : String)
include whole

theorem whenGiven_integer :
    whenGiven (text.map .text) (asInteger name) = .ok (text.bind integerOfText?) := by
  cases text with
  | none => rfl
  | some given =>
      obtain ⟨value, read⟩ := Option.isSome_iff_exists.mp (whole given rfl)
      simp only [Option.map_some, Option.bind_some, whenGiven, asInteger, read, Except.map]

theorem fieldValue_limit :
    fieldValue { name, kind := .limit } (text.map .text) =
      .ok (some (.count (Window.ofSigned (integerOf text) 0).limit)) := by
  simp only [fieldValue]
  rw [bind_of_eq_ok (whenGiven_integer whole name)]
  rfl

theorem fieldValue_offset :
    fieldValue { name, kind := .offset } (text.map .text) =
      .ok (some (.count (Window.ofSigned 1 (integerOf text)).offset)) := by
  simp only [fieldValue]
  rw [bind_of_eq_ok (whenGiven_integer whole name)]
  rfl

end integers

theorem fieldValue_text (name : String) (text : Option String) :
    fieldValue { name, kind := .text } (text.map .text) = .ok (text.map .text) := by
  cases text <;> rfl

theorem fieldValue_unset (name : String) : fieldValue { name, kind := .flag } none = .ok none := rfl

theorem fieldValue_flag {text : String} {flag : Bool} (name : String)
    (read : flagOfText? text = some flag) :
    fieldValue { name, kind := .flag } (some (.text text)) = .ok (some (.flag flag)) := by
  have value : asFlag name (.text text) = .ok flag := by
    unfold asFlag
    dsimp only
    rw [read]
  simp only [fieldValue, whenGiven, value]
  rfl

section reference

variable {input : RawInput} {raw : String} (given : input.reference = some raw)
  (filled : raw.toList ≠ []) (unslashed : Text.Halts (· == '/') raw.toList)
include given filled unslashed

theorem referenceText_of_path : referenceText referenceField input = .ok (some raw) := by
  obtain ⟨c, rest, first⟩ := List.exists_cons_of_ne_nil filled
  have other : c ≠ '/' := by
    rw [first, Text.halts_cons] at unslashed
    simpa using unslashed
  have something : namesSomething raw = true := by
    simp [namesSomething, first, other]
  simp only [referenceText, given, Option.filter_some, something, if_true]

/-- A text that starts with a segment is bound as what it is read as. -/
theorem parseReference_of_resolve {reference : Reference}
    (read : Reference.resolve raw input.owner = .ok reference) :
    parseReference referenceField input = .ok (some reference) := by
  rw [parseReference, bind_of_eq_ok (referenceText_of_path given filled unslashed)]
  simp only [read]
  rfl

theorem parseReference_of_refused {cause : Reference.Error}
    (refused : Reference.resolve raw input.owner = .error cause) :
    parseReference referenceField input = .error (.reference cause) := by
  rw [parseReference, bind_of_eq_ok (referenceText_of_path given filled unslashed)]
  simp only [refused]

end reference

/-- The text of a dataset is bound as the dataset. -/
theorem parseReference_slug {input : RawInput} {reference : Reference}
    (given : input.reference = some reference.slug) (wellFormed : reference.WellFormed)
    (named : reference.hasName = true) :
    parseReference referenceField input = .ok (some reference.dataset) :=
  parseReference_of_resolve given (wellFormed.slug_ne_nil named) (wellFormed.slug_halts named).1
    (Reference.resolve_slug wellFormed named _)

/-- A reference with a name passes the check of all fields together. -/
theorem requireName_of_named {reference : Reference} (named : reference.hasName = true) :
    requireName reference = .ok () := by
  rw [requireName, if_pos named]

end Binding

open Binding

/-- The values that a request gives for the parameters of a history. -/
structure LogValues where
  reference : Reference
  window : Window
  isLocal : Option Bool := none
  remote : Option String := none
  pull : Option Bool := none

/-- What is not given has its default, and a remote without a name is none. -/
def LogValues.params (values : LogValues) : LogParams :=
  { reference := values.reference
    list := { limit := values.window.limit, offset := values.window.offset }
    isLocal := values.isLocal.getD false
    remote := values.remote.bind nonempty
    pull := values.pull.getD false }

/-- Values that the fields of a request are read as. -/
structure LogValues.ReadFrom (values : LogValues) (input : RawInput) : Prop where
  reference : parseReference referenceField input = .ok (some values.reference)
  named : values.reference.hasName = true
  limit : fieldValue { name := "limit", kind := .limit } (input.effective "limit") =
    .ok (some (.count values.window.limit))
  offset : fieldValue { name := "offset", kind := .offset } (input.effective "offset") =
    .ok (some (.count values.window.offset))
  isLocal : fieldValue { name := "local", kind := .flag } (input.effective "local") =
    .ok (values.isLocal.map .flag)
  remote : fieldValue { name := "remote", kind := .text } (input.effective "remote") =
    .ok (values.remote.map .text)
  pull : fieldValue { name := "pull", kind := .flag } (input.effective "pull") =
    .ok (values.pull.map .flag)

theorem LogValues.bind_of_read {values : LogValues} {input : RawInput}
    (read : values.ReadFrom input) : Binding.bind .log input = .ok values.params := by
  obtain ⟨reference, window, onlyLocal, text, pulled⟩ := values
  let cut : ListParams := { limit := window.limit, offset := window.offset }
  let at_ (params : LogParams) : Progress .log := ⟨params, some reference⟩
  let demanded : LogParams := { list := cut, isLocal := onlyLocal.getD false }
  let aimed : LogParams := { demanded with remote := text.bind nonempty }
  let filled : LogParams := { aimed with pull := pulled.getD false }
  have limit : bindField .log input (at_ {}) { name := "limit", kind := .limit } =
      .ok (at_ { list := { limit := window.limit } }) :=
    bindField_of_value ⟨by decide, by decide⟩ read.limit (LogParams.assign_limit {} window.limit)
  have offset : bindField .log input (at_ { list := { limit := window.limit } })
      { name := "offset", kind := .offset } = .ok (at_ { list := cut }) :=
    bindField_of_value ⟨by decide, by decide⟩ read.offset
      (LogParams.assign_offset { list := { limit := window.limit } } window.offset)
  have isLocal : bindField .log input (at_ { list := cut }) { name := "local", kind := .flag } =
      .ok (at_ demanded) := by
    refine bindField_optional rfl ⟨by decide, by decide⟩ read.isLocal ?_ ?_
    · intro value member
      obtain ⟨flag, rfl, rfl⟩ := Option.map_eq_some_iff.mp member
      exact LogParams.assign_local { list := cut } flag
    · intro none
      obtain rfl := Option.map_eq_none_iff.mp none
      rfl
  have remote : bindField .log input (at_ demanded) { name := "remote", kind := .text } =
      .ok (at_ aimed) := by
    refine bindField_optional rfl ⟨by decide, by decide⟩ read.remote ?_ ?_
    · intro value member
      obtain ⟨name, rfl, rfl⟩ := Option.map_eq_some_iff.mp member
      exact LogParams.assign_remote demanded name
    · intro none
      obtain rfl := Option.map_eq_none_iff.mp none
      rfl
  have pull : bindField .log input (at_ aimed) { name := "pull", kind := .flag } =
      .ok (at_ filled) := by
    refine bindField_optional rfl ⟨by decide, by decide⟩ read.pull ?_ ?_
    · intro value member
      obtain ⟨flag, rfl, rfl⟩ := Option.map_eq_some_iff.mp member
      exact LogParams.assign_pull aimed flag
    · intro none
      obtain rfl := Option.map_eq_none_iff.mp none
      rfl
  have kept : bindField .log input (at_ {}) referenceField = .ok (at_ {}) := rfl
  have fields : bindFields .log input LogParams.manifest (at_ {}) = .ok (at_ filled) := by
    rw [LogParams.manifest, bindFields, bind_of_eq_ok kept, bindFields, bind_of_eq_ok limit,
      bindFields, bind_of_eq_ok offset, bindFields, bind_of_eq_ok isLocal, bindFields,
      bind_of_eq_ok remote, bindFields, bind_of_eq_ok pull, bindFields]
  have field : ParamShape.log.referenceField? = some referenceField := rfl
  have checked : LogParams.validate { filled with reference } = .ok () :=
    requireName_of_named read.named
  unfold Binding.bind
  simp only [field]
  rw [bind_of_eq_ok read.reference]
  change (bindFields .log input LogParams.manifest (at_ {}) >>= _) = _
  rw [bind_of_eq_ok fields]
  change validated .log { filled with reference } = _
  rw [validated, ParamShape.validate, checked]
  rfl

/-- The values that a request gives for a publication. -/
structure PublishValues where
  reference : Reference
  remote : Option String := none

def PublishValues.params (values : PublishValues) : PublishParams :=
  { reference := values.reference, remote := values.remote.bind nonempty }

structure PublishValues.ReadFrom (values : PublishValues) (input : RawInput) : Prop where
  reference : parseReference referenceField input = .ok (some values.reference)
  named : values.reference.hasName = true
  remote : fieldValue { name := "remote", kind := .text } (input.effective "remote") =
    .ok (values.remote.map .text)

theorem PublishValues.bind_of_read {values : PublishValues} {input : RawInput}
    (read : values.ReadFrom input) : Binding.bind .publish input = .ok values.params := by
  obtain ⟨reference, text⟩ := values
  let at_ (params : PublishParams) : Progress .publish := ⟨params, some reference⟩
  let aimed : PublishParams := { remote := text.bind nonempty }
  have remote : bindField .publish input (at_ {}) { name := "remote", kind := .text } =
      .ok (at_ aimed) := by
    refine bindField_optional rfl ⟨by decide, by decide⟩ read.remote ?_ ?_
    · intro value member
      obtain ⟨name, rfl, rfl⟩ := Option.map_eq_some_iff.mp member
      rfl
    · intro none
      obtain rfl := Option.map_eq_none_iff.mp none
      rfl
  have kept : bindField .publish input (at_ {}) referenceField = .ok (at_ {}) := rfl
  have fields : bindFields .publish input PublishParams.manifest (at_ {}) = .ok (at_ aimed) := by
    rw [PublishParams.manifest, bindFields, bind_of_eq_ok kept, bindFields, bind_of_eq_ok remote,
      bindFields]
  have field : ParamShape.publish.referenceField? = some referenceField := rfl
  have checked : PublishParams.validate { aimed with reference } = .ok () :=
    requireName_of_named read.named
  unfold Binding.bind
  simp only [field]
  rw [bind_of_eq_ok read.reference]
  change (bindFields .publish input PublishParams.manifest (at_ {}) >>= _) = _
  rw [bind_of_eq_ok fields]
  change validated .publish { aimed with reference } = _
  rw [validated, ParamShape.validate, checked]
  rfl

namespace Binding

variable {input : RawInput}

/-- A read binds its reference with the selector that is left of choosing the format. -/
theorem bind_get {reference : Reference} {explicit : Option String} {result : Negotiation.Result}
    (parsed : parseReference referenceField input = .ok (some reference))
    (given : input.effective "format" = explicit.map .text)
    (chosen : Negotiation.negotiate explicit reference.selector input.accept = .ok result)
    (valid : GetParams.validate
      { reference := { reference with selector := result.selector }, format := result.format } =
        .ok ()) :
    Binding.bind .get input =
      .ok { reference := { reference with selector := result.selector }
            format := result.format } := by
  let at_ (params : GetParams) (reference : Reference) : Progress .get := ⟨params, some reference⟩
  let cut : Reference := { reference with selector := result.selector }
  have kept : bindField .get input (at_ {} reference) referenceField = .ok (at_ {} reference) := rfl
  have format : bindField .get input (at_ {} reference) { name := "format", kind := .format } =
      .ok (at_ { format := result.format } cut) := by
    have named : whenGiven (explicit.map .text) (asText "format") = .ok explicit := by
      cases explicit <;> rfl
    unfold bindField
    dsimp only
    rw [given, bind_of_eq_ok named]
    change (Negotiation.negotiate explicit reference.selector input.accept >>= _) = _
    rw [bind_of_eq_ok chosen]
    rfl
  have fields : bindFields .get input GetParams.manifest (at_ {} reference) =
      .ok (at_ { format := result.format } cut) := by
    rw [GetParams.manifest, bindFields, bind_of_eq_ok kept, bindFields, bind_of_eq_ok format,
      bindFields]
  have field : ParamShape.get.referenceField? = some referenceField := rfl
  unfold Binding.bind
  simp only [field]
  rw [bind_of_eq_ok parsed]
  change (bindFields .get input GetParams.manifest (at_ {} reference) >>= _) = _
  rw [bind_of_eq_ok fields]
  change validated .get { reference := cut, format := result.format } = _
  rw [validated, ParamShape.validate, valid]

end Binding

end DatasetService
