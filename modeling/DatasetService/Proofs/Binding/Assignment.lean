import DatasetService.Assoc
import DatasetService.Binding.InPlace
import Mathlib.Tactic.FinCases

set_option autoImplicit false

/- What putting a value into a field does. Each kind of parameters is seen as its fields with what
they hold, and the manifest says which values a field takes. -/
namespace DatasetService

/-- What the fields hold, where they hold something. -/
def ListParams.fields (params : ListParams) : Assoc String (Option BoundValue) :=
  [("limit", some (.count params.limit)), ("offset", some (.count params.offset)),
   ("order_by", params.orderBy.map .text), ("peername", params.peername.map .text),
   ("published", params.published.map .flag)]

/-- The list of a history has an order and filters as well, which no request fills. -/
def LogParams.fields (params : LogParams) : Assoc String (Option BoundValue) :=
  ("reference", some (.reference params.reference)) :: ("local", some (.flag params.isLocal)) ::
    ("remote", params.remote.map .text) :: ("pull", some (.flag params.pull)) ::
    params.list.fields

def GetParams.fields (params : GetParams) : Assoc String (Option BoundValue) :=
  [("reference", some (.reference params.reference)), ("format", some (.format params.format))]

def SqlParams.fields (params : SqlParams) : Assoc String (Option BoundValue) :=
  [("query", some (.text params.query)), ("output_format", some (.format params.outputFormat))]

def PublishParams.fields (params : PublishParams) : Assoc String (Option BoundValue) :=
  [("reference", some (.reference params.reference)), ("remote", params.remote.map .text)]

def SaveParams.fields (params : SaveParams) : Assoc String (Option BoundValue) :=
  [("reference", some (.reference params.reference)), ("title", params.title.map .text),
   ("message", params.message.map .text), ("body", params.body.map .file)]

def ProfileImageParams.fields (params : ProfileImageParams) : Assoc String (Option BoundValue) :=
  [("peername", params.peername.map .text), ("id", params.id.map .text)]

namespace ParamShape

def fields : (shape : ParamShape) → shape.Params → Assoc String (Option BoundValue)
  | .list => ListParams.fields
  | .log => LogParams.fields
  | .get => GetParams.fields
  | .sql => SqlParams.fields
  | .publish => PublishParams.fields
  | .save => SaveParams.fields
  | .profileImage => ProfileImageParams.fields

/-- What a field holds, if it is one and holds something. -/
def value? (shape : ParamShape) (params : shape.Params) (field : String) : Option BoundValue :=
  (Assoc.get? field (shape.fields params)).join

/-- A field of the manifest takes the value. -/
def Takes (shape : ParamShape) (field : String) (value : BoundValue) : Prop :=
  ∃ spec ∈ shape.manifest, spec.name = field ∧ spec.kind.holds value = true

/-- The field holds the value, and every other field what it held. An empty text may stand for
none. -/
structure Puts (shape : ParamShape) (field : String) (value : BoundValue)
    (before after : shape.Params) : Prop where
  held : shape.value? after field = some value ∨
    value = .text "" ∧ shape.value? after field = none
  others : ∀ other, other ≠ field → shape.value? after other = shape.value? before other

/-- What comes of a value for a field. -/
inductive Settles (shape : ParamShape) (field : String) (value : BoundValue)
    (before : shape.Params) : Except String shape.Params → Prop
  | put {after : shape.Params} (takes : shape.Takes field value)
      (puts : shape.Puts field value before after) : Settles shape field value before (.ok after)
  | refused : Settles shape field value before (.error (mismatch field value))

theorem puts_of_fields {shape : ParamShape} {field : String} {value : BoundValue}
    {before after : shape.Params} (held : Option BoundValue)
    (fields : shape.fields after = Assoc.set field held (shape.fields before))
    (holds : held = some value ∨ value = .text "" ∧ held = none) :
    shape.Puts field value before after := by
  constructor
  · simpa only [value?, fields, Assoc.get?_set_self, Option.join_some] using holds
  · intro other different
    rw [value?, fields, Assoc.get?_set_of_ne _ _ _ _ different]
    rfl

/-- A value that leaves its mark in the field of its name, and nowhere else. -/
theorem settles_put {shape : ParamShape} {value : BoundValue} {before after : shape.Params}
    (spec : FieldSpec) (member : spec ∈ shape.manifest) (holds : spec.kind.holds value = true)
    {held : Option BoundValue}
    (fields : shape.fields after = Assoc.set spec.name held (shape.fields before))
    (known : held = some value ∨ value = .text "" ∧ held = none) :
    shape.Settles spec.name value before (.ok after) :=
  .put ⟨spec, member, rfl, holds⟩ (puts_of_fields held fields known)

end ParamShape

theorem held_of_nonempty (text : String) :
    (nonempty text).map BoundValue.text = some (.text text) ∨
      BoundValue.text text = .text "" ∧ (nonempty text).map BoundValue.text = none := by
  unfold nonempty
  by_cases empty : text = ""
  · exact Or.inr ⟨congrArg BoundValue.text empty, by rw [if_pos empty]; rfl⟩
  · exact Or.inl (by rw [if_neg empty]; rfl)

namespace ParamShape

/-- A value that the manifest has a field for is taken. -/
theorem isOk_of_takes {shape : ParamShape} {field : String} {value : BoundValue}
    (takes : shape.Takes field value) (params : shape.Params) :
    (shape.assign params field value).isOk = true := by
  obtain ⟨spec, member, rfl, holds⟩ := takes
  cases shape <;> fin_cases member <;> cases value <;> first | rfl | cases holds

end ParamShape

section shapes

open ParamShape

variable (field : String) (value : BoundValue)

theorem ListParams.settles_assign (params : ListParams) :
    ParamShape.Settles .list field value params (params.assign field value) := by
  unfold assign
  split
  · exact settles_put { name := "order_by", kind := .text } (by decide) rfl rfl (Or.inl rfl)
  · exact settles_put { name := "peername", kind := .text } (by decide) rfl rfl (Or.inl rfl)
  · exact settles_put { name := "published", kind := .flag } (by decide) rfl rfl (Or.inl rfl)
  · unfold assignWindow
    split
    · exact settles_put { name := "limit", kind := .limit } (by decide) rfl rfl (Or.inl rfl)
    · exact settles_put { name := "offset", kind := .offset } (by decide) rfl rfl (Or.inl rfl)
    · exact .refused

theorem LogParams.settles_assign (params : LogParams) :
    ParamShape.Settles .log field value params (params.assign field value) := by
  unfold assign
  split
  · exact settles_put referenceField (by decide) rfl rfl (Or.inl rfl)
  · exact settles_put { name := "local", kind := .flag } (by decide) rfl rfl (Or.inl rfl)
  · exact settles_put { name := "remote", kind := .text } (by decide) rfl rfl
      (held_of_nonempty _)
  · exact settles_put { name := "pull", kind := .flag } (by decide) rfl rfl (Or.inl rfl)
  · unfold ListParams.assignWindow
    split
    · exact settles_put { name := "limit", kind := .limit } (by decide) rfl rfl (Or.inl rfl)
    · exact settles_put { name := "offset", kind := .offset } (by decide) rfl rfl (Or.inl rfl)
    · exact .refused

theorem GetParams.settles_assign (params : GetParams) :
    ParamShape.Settles .get field value params (params.assign field value) := by
  unfold assign
  split
  · exact settles_put referenceField (by decide) rfl rfl (Or.inl rfl)
  · exact settles_put { name := "format", kind := .format } (by decide) rfl rfl (Or.inl rfl)
  · exact .refused

theorem SqlParams.settles_assign (params : SqlParams) :
    ParamShape.Settles .sql field value params (params.assign field value) := by
  unfold assign
  split
  · exact settles_put { name := "query", kind := .text, required := true } (by decide) rfl rfl
      (Or.inl rfl)
  · exact settles_put { name := "output_format", kind := .format } (by decide) rfl rfl (Or.inl rfl)
  · exact .refused

theorem PublishParams.settles_assign (params : PublishParams) :
    ParamShape.Settles .publish field value params (params.assign field value) := by
  unfold assign
  split
  · exact settles_put referenceField (by decide) rfl rfl (Or.inl rfl)
  · exact settles_put { name := "remote", kind := .text } (by decide) rfl rfl (held_of_nonempty _)
  · exact .refused

theorem SaveParams.settles_assign (params : SaveParams) :
    ParamShape.Settles .save field value params (params.assign field value) := by
  unfold assign
  split
  · exact settles_put referenceField (by decide) rfl rfl (Or.inl rfl)
  · exact settles_put { name := "title", kind := .text } (by decide) rfl rfl (Or.inl rfl)
  · exact settles_put { name := "message", kind := .text } (by decide) rfl rfl (Or.inl rfl)
  · exact settles_put { name := "body", kind := .file } (by decide) rfl rfl (Or.inl rfl)
  · exact .refused

theorem ProfileImageParams.settles_assign (params : ProfileImageParams) :
    ParamShape.Settles .profileImage field value params (params.assign field value) := by
  unfold assign
  split
  · exact settles_put { name := "peername", kind := .text } (by decide) rfl rfl
      (held_of_nonempty _)
  · exact settles_put { name := "id", kind := .text } (by decide) rfl rfl (held_of_nonempty _)
  · exact .refused

end shapes

namespace ParamShape

theorem settles_assign (shape : ParamShape) (params : shape.Params) (field : String)
    (value : BoundValue) : shape.Settles field value params (shape.assign params field value) := by
  cases shape with
  | list => exact ListParams.settles_assign field value params
  | log => exact LogParams.settles_assign field value params
  | get => exact GetParams.settles_assign field value params
  | sql => exact SqlParams.settles_assign field value params
  | publish => exact PublishParams.settles_assign field value params
  | save => exact SaveParams.settles_assign field value params
  | profileImage => exact ProfileImageParams.settles_assign field value params

/-- Parameters with the same fields are the same. -/
theorem eq_of_value? {shape : ParamShape} {first second : shape.Params}
    (same : ∀ field, shape.value? first field = shape.value? second field) : first = second := by
  have text {one other : Option String} (equal : one.map BoundValue.text = other.map .text) :
      one = other := Option.map_injective (fun _ _ => BoundValue.text.inj) equal
  have flag {one other : Option Bool} (equal : one.map BoundValue.flag = other.map .flag) :
      one = other := Option.map_injective (fun _ _ => BoundValue.flag.inj) equal
  have file {one other : Option Upload} (equal : one.map BoundValue.file = other.map .file) :
      one = other := Option.map_injective (fun _ _ => BoundValue.file.inj) equal
  cases shape with
  | list =>
      obtain ⟨limit, offset, orderBy, peername, published⟩ := first
      cases BoundValue.count.inj (Option.some.inj (same "limit"))
      cases BoundValue.count.inj (Option.some.inj (same "offset"))
      cases text (same "order_by")
      cases text (same "peername")
      cases flag (same "published")
      rfl
  | log =>
      obtain ⟨reference, ⟨limit, offset, orderBy, peername, published⟩, isLocal, remote, pull⟩ :=
        first
      obtain ⟨_, ⟨_, _, _, _, _⟩, _, _, _⟩ := second
      cases BoundValue.reference.inj (Option.some.inj (same "reference"))
      cases BoundValue.count.inj (Option.some.inj (same "limit"))
      cases BoundValue.count.inj (Option.some.inj (same "offset"))
      cases text (same "order_by")
      cases text (same "peername")
      cases flag (same "published")
      cases BoundValue.flag.inj (Option.some.inj (same "local"))
      cases text (same "remote")
      cases BoundValue.flag.inj (Option.some.inj (same "pull"))
      rfl
  | get =>
      obtain ⟨reference, format⟩ := first
      cases BoundValue.reference.inj (Option.some.inj (same "reference"))
      cases BoundValue.format.inj (Option.some.inj (same "format"))
      rfl
  | sql =>
      obtain ⟨query, outputFormat⟩ := first
      cases BoundValue.text.inj (Option.some.inj (same "query"))
      cases BoundValue.format.inj (Option.some.inj (same "output_format"))
      rfl
  | publish =>
      obtain ⟨reference, remote⟩ := first
      cases BoundValue.reference.inj (Option.some.inj (same "reference"))
      cases text (same "remote")
      rfl
  | save =>
      obtain ⟨reference, title, message, body⟩ := first
      cases BoundValue.reference.inj (Option.some.inj (same "reference"))
      cases text (same "title")
      cases text (same "message")
      cases file (same "body")
      rfl
  | profileImage =>
      obtain ⟨peername, id⟩ := first
      cases text (same "peername")
      cases text (same "id")
      rfl

end ParamShape

namespace Filling

variable {σ τ : Type}

/-- What work comes to, and the parameters after it. -/
def outcome (filling : Filling σ Unit) (params : σ) : Except String Unit × σ :=
  filling.run.run params

/-- An assignment that is made in place: the parameters change only where it succeeds. -/
def settled (params : σ) : Except String σ → Except String Unit × σ
  | .ok after => (.ok (), after)
  | .error message => (.error message, params)

/-- A part that is filled in place is put back as it then is. -/
theorem outcome_onPart {part : σ → τ} {put : τ → σ → σ} {filling : Filling τ Unit} {params : σ}
    {assignment : Except String τ} (unchanged : put (part params) params = params)
    (filled : filling.outcome (part params) = settled (part params) assignment) :
    (onPart part put filling).outcome params =
      settled params (assignment.map fun after => put after params) := by
  show ((filling.outcome (part params)).1, put (filling.outcome (part params)).2 params) = _
  rw [filled]
  cases assignment with
  | ok after => rfl
  | error message =>
      show (Except.error message, put (part params) params) = (Except.error message, params)
      rw [unchanged]

end Filling

section inPlace

open Filling

theorem ListParams.outcome_fillWindow (params : ListParams) (field : String) (value : BoundValue) :
    (fillWindow field value).outcome params = settled params (params.assignWindow field value) := by
  fun_cases assignWindow params field value with
  | case1 | case2 => rfl
  | case3 field value =>
      rw [fillWindow]
      · rfl
      all_goals assumption

theorem ListParams.outcome_fill (params : ListParams) (field : String) (value : BoundValue) :
    (fill field value).outcome params = settled params (params.assign field value) := by
  fun_cases assign params field value with
  | case1 | case2 | case3 => rfl
  | case4 field value =>
      rw [fill]
      · exact outcome_fillWindow params field value
      all_goals assumption

theorem LogParams.outcome_fill (params : LogParams) (field : String) (value : BoundValue) :
    (fill field value).outcome params = settled params (params.assign field value) := by
  fun_cases assign params field value with
  | case1 | case2 | case3 | case4 => rfl
  | case5 field value =>
      rw [fill]
      · exact outcome_onPart rfl (ListParams.outcome_fillWindow params.list field value)
      all_goals assumption

theorem GetParams.outcome_fill (params : GetParams) (field : String) (value : BoundValue) :
    (fill field value).outcome params = settled params (params.assign field value) := by
  fun_cases assign params field value with
  | case1 | case2 => rfl
  | case3 field value =>
      rw [fill]
      · rfl
      all_goals assumption

theorem SqlParams.outcome_fill (params : SqlParams) (field : String) (value : BoundValue) :
    (fill field value).outcome params = settled params (params.assign field value) := by
  fun_cases assign params field value with
  | case1 | case2 => rfl
  | case3 field value =>
      rw [fill]
      · rfl
      all_goals assumption

theorem PublishParams.outcome_fill (params : PublishParams) (field : String) (value : BoundValue) :
    (fill field value).outcome params = settled params (params.assign field value) := by
  fun_cases assign params field value with
  | case1 | case2 => rfl
  | case3 field value =>
      rw [fill]
      · rfl
      all_goals assumption

theorem SaveParams.outcome_fill (params : SaveParams) (field : String) (value : BoundValue) :
    (fill field value).outcome params = settled params (params.assign field value) := by
  fun_cases assign params field value with
  | case1 | case2 | case3 | case4 => rfl
  | case5 field value =>
      rw [fill]
      · rfl
      all_goals assumption

theorem ProfileImageParams.outcome_fill (params : ProfileImageParams) (field : String)
    (value : BoundValue) :
    (fill field value).outcome params = settled params (params.assign field value) := by
  fun_cases assign params field value with
  | case1 | case2 => rfl
  | case3 field value =>
      rw [fill]
      · rfl
      all_goals assumption

/-- Filling in place is assignment. -/
theorem ParamShape.outcome_fill (shape : ParamShape) (params : shape.Params) (field : String)
    (value : BoundValue) :
    (shape.fill field value).outcome params = settled params (shape.assign params field value) := by
  cases shape with
  | list => exact ListParams.outcome_fill params field value
  | log => exact LogParams.outcome_fill params field value
  | get => exact GetParams.outcome_fill params field value
  | sql => exact SqlParams.outcome_fill params field value
  | publish => exact PublishParams.outcome_fill params field value
  | save => exact SaveParams.outcome_fill params field value
  | profileImage => exact ProfileImageParams.outcome_fill params field value

end inPlace

namespace ParamShape

/-- A value is taken by the fields of the manifest that hold it, and refused by all others, which
leaves the parameters as they are. -/
theorem fill_agrees (shape : ParamShape) (params : shape.Params) (field : String)
    (value : BoundValue) :
    (shape.Takes field value ∧ ∃ after, (shape.fill field value).outcome params = (.ok (), after) ∧
        shape.Puts field value params after ∧ shape.assign params field value = .ok after) ∨
      (¬ shape.Takes field value ∧
        (shape.fill field value).outcome params = (.error (mismatch field value), params) ∧
        shape.assign params field value = .error (mismatch field value)) := by
  have settles := shape.settles_assign params field value
  rw [outcome_fill]
  generalize assigned : shape.assign params field value = assignment at settles
  cases settles with
  | put takes puts => exact Or.inl ⟨takes, _, rfl, puts, rfl⟩
  | refused =>
      refine Or.inr ⟨fun takes => ?_, rfl, rfl⟩
      have success := isOk_of_takes takes params
      rw [assigned] at success
      cases success

end ParamShape
end DatasetService
