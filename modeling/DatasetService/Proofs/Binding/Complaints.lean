import DatasetService.Proofs.Binding.Assignment
import DatasetService.Proofs.Binding.Bounds

set_option autoImplicit false

/- What binding complains of. It stops at a value that cannot be read, at something that is missing,
or at parameters that do not go together. That a field does not hold what was read for it is no
complaint of binding. -/
namespace DatasetService

/-- If this is a failure, it is one of these. -/
def Fails {α : Type} (complaint : ApiError → Prop) (outcome : Except ApiError α) : Prop :=
  ∀ error, outcome = .error error → complaint error

section fails

variable {α β : Type} {complaint : ApiError → Prop}

theorem fails_ok (value : α) : Fails complaint (.ok value) := by
  intro error failed
  cases failed

theorem fails_error {error : ApiError} (holds : complaint error) :
    Fails complaint (.error error : Except ApiError α) := by
  intro other failed
  cases failed
  exact holds

theorem Fails.bind {first : Except ApiError α} {next : α → Except ApiError β}
    (fails : Fails complaint first)
    (later : ∀ value, first = .ok value → Fails complaint (next value)) :
    Fails complaint (first >>= next) := by
  cases first with
  | error error => exact fails_error (fails error rfl)
  | ok value => exact later value rfl

theorem Fails.map {outcome : Except ApiError α} (fails : Fails complaint outcome) (f : α → β) :
    Fails complaint (outcome.map f) := by
  cases outcome with
  | error error => exact fails_error (fails error rfl)
  | ok value => exact fails_ok (f value)

theorem Fails.mono {weaker : ApiError → Prop} {outcome : Except ApiError α}
    (fails : Fails complaint outcome) (implies : ∀ error, complaint error → weaker error) :
    Fails weaker outcome :=
  fun error failed => implies error (fails error failed)

end fails

namespace Negotiation

/-- What is wrong with the formats that a request asks for. -/
inductive Complaint : ApiError → Prop
  | unknown (name : String) :
      Complaint (.badRequest ("unknown format \"" ++ name ++ "\", expected json, csv or zip"))
  | conflict (requested other : String) : Complaint (.formatConflict requested other)

theorem fails_explicitFormat (explicit : Option String) :
    Fails Complaint (explicitFormat explicit) := by
  unfold explicitFormat
  split
  · exact fails_ok _
  · split
    · exact fails_ok _
    · exact fails_error (.unknown _)

theorem fails_requested (explicit fromSuffix : Option (Format × String)) :
    Fails Complaint (requested explicit fromSuffix) := by
  unfold requested
  split
  · split
    · exact fails_ok _
    · exact fails_error (.conflict _ _)
  · exact fails_ok _
  · exact fails_ok _
  · exact fails_ok _

theorem fails_resolve (explicit suffix accept : Option String) :
    Fails Complaint (resolve explicit suffix accept) := by
  refine (fails_explicitFormat explicit).bind fun format _ => ?_
  refine (fails_requested format _).bind fun chosen _ => ?_
  dsimp only
  split
  · split
    · exact fails_ok _
    · exact fails_error (.conflict _ _)
  · exact fails_ok _
  · exact fails_ok _
  · exact fails_ok _

theorem fails_negotiate (explicit selector accept : Option String) :
    Fails Complaint (negotiate explicit selector accept) := by
  unfold negotiate
  exact (fails_resolve _ _ _).bind fun resolved _ => fails_ok _

end Negotiation

namespace Binding

/-- What a value must be that could not be read. -/
inductive Rule : String → Prop
  | string : Rule "a string"
  | utf8 : Rule "UTF-8 text"
  | boolean : Rule "a boolean"
  | integer : Rule "an integer"

/-- What binding complains of. -/
inductive Complaint (shape : ParamShape) : ApiError → Prop
  | reference (error : Reference.Error) : Complaint shape (.reference error)
  | noReference : Complaint shape missingReference
  | missing {field : FieldSpec} (member : field ∈ shape.manifest)
      (required : field.required = true) : Complaint shape (missingField field)
  | unreadable {field : FieldSpec} {rule : String} (member : field ∈ shape.manifest)
      (violated : Rule rule) : Complaint shape (parameterError field.name rule)
  | format {error : ApiError} (complaint : Negotiation.Complaint error) : Complaint shape error
  | invalid {params : shape.Params} {message : String}
      (checked : shape.validate params = .error message) : Complaint shape (.badRequest message)

variable {shape : ParamShape} {input : RawInput} {field : FieldSpec}

section fields

variable (member : field ∈ shape.manifest)
include member

theorem fails_asText (raw : RawValue) : Fails (Complaint shape) (asText field.name raw) := by
  unfold asText
  split
  · exact fails_ok _
  · exact fails_ok _
  · exact fails_ok _
  · exact fails_ok _
  · exact fails_error (.unreadable member .string)
  · split
    · exact fails_ok _
    · exact fails_error (.unreadable member .utf8)

theorem fails_asFlag (raw : RawValue) : Fails (Complaint shape) (asFlag field.name raw) := by
  unfold asFlag
  dsimp only
  split
  · exact fails_ok _
  · exact fails_error (.unreadable member .boolean)

theorem fails_asInteger (raw : RawValue) : Fails (Complaint shape) (asInteger field.name raw) := by
  unfold asInteger
  dsimp only
  split
  · exact fails_ok _
  · exact fails_error (.unreadable member .integer)

end fields

theorem fails_whenGiven {α : Type} {complaint : ApiError → Prop} (raw : Option RawValue)
    {read : RawValue → Except ApiError α} (fails : ∀ value, Fails complaint (read value)) :
    Fails complaint (whenGiven raw read) := by
  cases raw with
  | none => exact fails_ok _
  | some value => exact (fails value).map some

theorem fails_parseReference (member : field ∈ shape.manifest) (input : RawInput) :
    Fails (Complaint shape) (parseReference field input) := by
  have text : Fails (Complaint shape) (referenceText field input) := by
    unfold referenceText
    split
    · exact fails_ok _
    · exact (fails_whenGiven _ (fails_asText member)).bind fun _ _ => fails_ok _
  refine text.bind fun found _ => ?_
  cases found with
  | none =>
      dsimp only
      split
      · exact fails_error .noReference
      · exact fails_ok _
  | some raw =>
      dsimp only
      split
      · exact fails_ok _
      · exact fails_error (.reference _)

theorem fails_fieldValue (member : field ∈ shape.manifest) (raw : Option RawValue) :
    Fails (Complaint shape) (fieldValue field raw) := by
  have integer := fails_whenGiven raw (fails_asInteger member)
  unfold fieldValue
  split
  · exact integer.bind fun _ _ => fails_ok _
  · exact integer.bind fun _ _ => fails_ok _
  · exact (fails_whenGiven raw (fails_asText member)).bind fun _ _ => fails_ok _
  · exact (fails_whenGiven raw (fails_asFlag member)).bind fun _ _ => fails_ok _
  · exact fails_ok _
  · exact fails_ok _
  · exact fails_ok _

theorem holds_of_fieldValue {raw : Option RawValue} {value : BoundValue}
    (filled : fieldValue field raw = .ok (some value)) : field.kind.holds value = true := by
  have admitted := fieldValue_admits filled
  revert admitted
  cases field.kind <;> cases value <;> intro admitted <;> first | rfl | cases admitted

/-- A value that the manifest has a field for is assigned. -/
theorem fails_assigned {complaint : ApiError → Prop} {name : String} {value : BoundValue}
    (takes : shape.Takes name value) (params : shape.Params) :
    Fails complaint (assigned shape params name value) := by
  obtain ⟨after, success⟩ := exists_of_isOk (ParamShape.isOk_of_takes takes params)
  rw [assigned, success]
  exact fails_ok after

theorem fails_bindField (member : field ∈ shape.manifest) (progress : Progress shape) :
    Fails (Complaint shape) (bindField shape input progress field) := by
  have takes {value : BoundValue} (holds : field.kind.holds value = true) :
      shape.Takes field.name value := ⟨field, member, rfl, holds⟩
  unfold bindField
  dsimp only
  split
  · exact fails_ok _
  · rename_i format
    refine (fails_whenGiven _ (fails_asText member)).bind fun explicit _ => ?_
    refine ((Negotiation.fails_negotiate _ _ _).mono fun _ => .format).bind fun result _ => ?_
    have holds : field.kind.holds (.format result.format) = true := by
      rw [format]
      rfl
    exact (fails_assigned (takes holds) _).bind fun _ _ => fails_ok _
  · refine (fails_fieldValue member _).bind fun found given => ?_
    cases found with
    | none =>
        dsimp only
        split
        · rename_i required
          exact fails_error (.missing member required)
        · exact fails_ok _
    | some value =>
        have holds := holds_of_fieldValue given
        exact (fails_assigned (takes holds) _).bind fun _ _ => fails_ok _

theorem fails_bindFields (fields : List FieldSpec)
    (within : ∀ field ∈ fields, field ∈ shape.manifest) (progress : Progress shape) :
    Fails (Complaint shape) (bindFields shape input fields progress) := by
  induction fields generalizing progress with
  | nil => exact fails_ok progress
  | cons field fields ih =>
      have first := within field List.mem_cons_self
      have others := fun other member => within other (List.mem_cons_of_mem field member)
      exact (fails_bindField first progress).bind fun after _ => ih others after

theorem takes_of_referenceField? (has : shape.referenceField? = some field)
    (reference : Reference) : shape.Takes field.name (.reference reference) := by
  have kind : field.kind = .reference := by simpa using List.find?_some has
  refine ⟨field, List.mem_of_find?_eq_some has, rfl, ?_⟩
  rw [kind]
  rfl

theorem fails_putReference (progress : Progress shape) :
    Fails (Complaint shape) (putReference shape progress) := by
  unfold putReference
  split
  · rename_i has _
    exact fails_assigned (takes_of_referenceField? has _) _
  · exact fails_ok _

/-- Whatever a request carries, binding complains of nothing else. -/
theorem fails_bind (shape : ParamShape) (input : RawInput) :
    Fails (Complaint shape) (bind shape input) := by
  rw [bind_stages]
  have read : Fails (Complaint shape) (readReference shape input) := by
    unfold readReference
    split
    · rename_i has
      exact fails_parseReference (List.mem_of_find?_eq_some has) input
    · exact fails_ok _
  refine read.bind fun reference _ => ?_
  refine (fails_bindFields _ (fun _ member => member) _).bind fun progress _ => ?_
  refine (fails_putReference progress).bind fun params _ => ?_
  unfold validated
  split
  · exact fails_ok _
  · rename_i checked
    exact fails_error (.invalid checked)

/-- The fault that a complaint is about is that of the request. -/
theorem Complaint.status {error : ApiError} (complaint : Complaint shape error) :
    error.status = 400 := by
  cases complaint with
  | reference | noReference | missing | unreadable | invalid => rfl
  | format complaint =>
      cases complaint with
      | unknown | conflict => rfl

section messages

/-- A text that begins with another letter than what is said of a value that does not fit. -/
def Apart (text : String) : Prop := ∃ letter ∈ text.toList.head?, letter ≠ 'p'

theorem Apart.append {text : String} (apart : Apart text) (rest : String) :
    Apart (text ++ rest) := by
  obtain ⟨letter, first, other⟩ := apart
  refine ⟨letter, ?_, other⟩
  rw [Option.mem_def] at first ⊢
  rw [String.toList_append, List.head?_append, first]
  rfl

theorem Apart.ne_mismatch {text : String} (apart : Apart text) (field : String)
    (value : BoundValue) : text ≠ mismatch field value := by
  intro same
  obtain ⟨letter, first, other⟩ := apart
  have begins : (mismatch field value).toList.head? = some 'p' := by
    simp [mismatch, String.toList_append]
  rw [same, begins] at first
  exact other (Option.some.inj first).symm

theorem apart_gap (gap : Reference.Gap) : Apart gap.reason := by
  cases gap with
  | emptyReference => exact ⟨'e', rfl, by decide⟩
  | datasetName => exact ⟨'m', rfl, by decide⟩
  | versionPath => exact ⟨'m', rfl, by decide⟩
  | versionPathEnd => exact ⟨'i', rfl, by decide⟩
  | selector => exact ⟨'m', rfl, by decide⟩
  | selectorSegment => exact ⟨'e', rfl, by decide⟩

theorem apart_reference (error : Reference.Error) : Apart error.message := by
  cases error with
  | unexpectedCharacter fragment position character =>
      iterate 4 apply Apart.append
      exact ⟨'u', rfl, by decide⟩
  | malformed fragment position gap =>
      iterate 5 apply Apart.append
      exact apart_gap gap
  | reservedUsername username =>
      iterate 2 apply Apart.append
      exact ⟨'u', rfl, by decide⟩

theorem description_mem (value : BoundValue) :
    value.description ∈
      ["a dataset reference", "text", "a boolean", "a format", "a count", "a file"] := by
  cases value <;> simp [BoundValue.description]

/-- What a field must be is said in other words than what it cannot hold, whichever the field. -/
theorem unreadable_ne_mismatch {rule : String} (violated : Rule rule) (name field : String)
    (value : BoundValue) :
    "parameter \"" ++ name ++ "\" must be " ++ rule ≠ mismatch field value := by
  intro same
  have must : "\" must be ".toList ++ rule.toList <:+ (mismatch field value).toList := by
    rw [← same]
    simp only [String.toList_append, List.append_assoc]
    exact (List.suffix_append _ _).trans (List.suffix_append _ _)
  have cannot : "\" cannot hold ".toList ++ value.description.toList <:+
      (mismatch field value).toList := by
    simp only [mismatch, String.toList_append, List.append_assoc]
    exact (List.suffix_append _ _).trans (List.suffix_append _ _)
  have apart : ∀ description ∈
      ["a dataset reference", "text", "a boolean", "a format", "a count", "a file"],
      ¬ ("\" must be ".toList ++ rule.toList <:+ "\" cannot hold ".toList ++ description.toList ∨
        "\" cannot hold ".toList ++ description.toList <:+
          "\" must be ".toList ++ rule.toList) := by
    cases violated <;> decide
  exact apart value.description (description_mem value)
    (List.suffix_or_suffix_of_suffix must cannot)

theorem apart_requireName {reference : Reference} {message : String}
    (checked : requireName reference = .error message) : Apart message := by
  unfold requireName at checked
  split at checked
  · cases checked
  · cases checked
    iterate 2 apply Apart.append
    exact ⟨'r', rfl, by decide⟩

theorem apart_validate {params : shape.Params} {message : String}
    (checked : shape.validate params = .error message) : Apart message := by
  cases shape with
  | list =>
      change ListParams.validate params = .error message at checked
      unfold ListParams.validate at checked
      split at checked
      · cases checked
      · split at checked
        · cases checked
        · cases checked
          iterate 6 apply Apart.append
          exact ⟨'o', rfl, by decide⟩
  | log => exact apart_requireName checked
  | get =>
      rcases eq_error_of_bind checked with unnamed | ⟨_, _, checked⟩
      · exact apart_requireName unnamed
      · split at checked
        · cases checked
          exact ⟨'z', rfl, by decide⟩
        · cases checked
  | sql =>
      change SqlParams.validate params = .error message at checked
      unfold SqlParams.validate at checked
      split at checked
      · cases checked
        exact ⟨'q', rfl, by decide⟩
      · split at checked
        · cases checked
          exact ⟨'s', rfl, by decide⟩
        · cases checked
  | publish => exact apart_requireName checked
  | save =>
      rcases eq_error_of_bind checked with unnamed | ⟨_, _, checked⟩
      · exact apart_requireName unnamed
      · split at checked
        · cases checked
          exact ⟨'s', rfl, by decide⟩
        · cases checked
  | profileImage => cases checked

theorem apart_format {error : ApiError} (complaint : Negotiation.Complaint error) :
    Apart error.message := by
  cases complaint with
  | unknown name =>
      iterate 2 apply Apart.append
      exact ⟨'u', rfl, by decide⟩
  | conflict requested other =>
      iterate 3 apply Apart.append
      exact ⟨'f', rfl, by decide⟩

/-- No complaint of binding is that a field does not hold a value. -/
theorem Complaint.ne_mismatch {error : ApiError} (complaint : Complaint shape error)
    (field : String) (value : BoundValue) : error.message ≠ mismatch field value := by
  cases complaint with
  | reference error => exact (apart_reference error).ne_mismatch field value
  | noReference =>
      have apart : Apart missingReference.message := ⟨'m', rfl, by decide⟩
      exact apart.ne_mismatch field value
  | @missing spec member required =>
      have apart : Apart (missingField spec).message := by
        iterate 2 apply Apart.append
        exact ⟨'m', rfl, by decide⟩
      exact apart.ne_mismatch field value
  | unreadable _ violated => exact unreadable_ne_mismatch violated _ field value
  | format complaint => exact (apart_format complaint).ne_mismatch field value
  | invalid checked => exact (apart_validate checked).ne_mismatch field value

end messages

end Binding

/-- Putting a value into a field succeeds exactly where the manifest has a field of that name for
it, and then changes that field alone. Otherwise it changes nothing and says that the field cannot
hold the value. Binding fills fields with values that they hold, so it never says that. -/
theorem ParamShape.manifest_agrees (shape : ParamShape) :
    (∀ (params : shape.Params) (field : String) (value : BoundValue),
      let outcome := (shape.fill field value).outcome params
      (outcome.1 = .ok () ↔ shape.Takes field value) ∧
      (outcome.1 = .ok () → shape.Puts field value params outcome.2) ∧
      (outcome.1 ≠ .ok () → outcome = (.error (mismatch field value), params)) ∧
      shape.assign params field value = outcome.1.map fun _ => outcome.2) ∧
    (∀ first second : shape.Params,
      (∀ field, shape.value? first field = shape.value? second field) → first = second) ∧
    (∀ spec ∈ shape.manifest, ∀ raw value, Binding.fieldValue spec raw = .ok (some value) →
      spec.kind.holds value = true) ∧
    ∀ input error, Binding.bind shape input = .error error →
      ∀ field value, error.message ≠ mismatch field value := by
  refine ⟨fun params field value => ?_, fun first second => eq_of_value?,
    fun spec _ raw value => Binding.holds_of_fieldValue, fun input error failed => ?_⟩
  · rcases shape.fill_agrees params field value with
      ⟨takes, after, filled, puts, assigned⟩ | ⟨refuses, filled, assigned⟩
    · rw [filled, assigned]
      exact ⟨⟨fun _ => takes, fun _ => rfl⟩, fun _ => puts, fun failed => absurd rfl failed, rfl⟩
    · have failed : (Except.error (mismatch field value) : Except String Unit) ≠ .ok () := by
        intro success
        cases success
      rw [filled, assigned]
      exact ⟨⟨fun success => absurd success failed, fun takes => absurd takes refuses⟩,
        fun success => absurd success failed, fun _ => rfl, rfl⟩
  · have complaint := Binding.fails_bind shape input error failed
    exact fun field value => complaint.ne_mismatch field value

/-- A request for a history has a window but no order: its list keeps the order that it has. -/
theorem ParamShape.log_refuses_order :
    let ordered : LogParams := { list := { orderBy := some "name" } }
    (ParamShape.log.fill "order_by" (.text "updated")).outcome ordered =
        (.error "parameter \"order_by\" cannot hold text", ordered) ∧
      ParamShape.log.Puts "limit" (.count 7) ordered
        { list := { limit := 7, orderBy := some "name" } } ∧
      ∀ field value, (Binding.missingReference).message ≠ mismatch field value := by
  intro ordered
  have agrees := ParamShape.log.manifest_agrees
  have order := agrees.1 ordered "order_by" (.text "updated")
  have limit := agrees.1 ordered "limit" (.count 7)
  refine ⟨order.2.2.1 ?_, limit.2.1 rfl, ?_⟩
  · intro success
    cases success
  · exact agrees.2.2.2 {} _ rfl

end DatasetService
