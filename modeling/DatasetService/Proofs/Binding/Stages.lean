import DatasetService.Binding.Binder
import DatasetService.Proofs.Except

set_option autoImplicit false

/- The stages of binding: the reference is read, the fields are filled in order, the reference is
put in, and all fields are checked together. -/
namespace DatasetService.Binding

/-- The reference with which the fields are filled. -/
def readReference (shape : ParamShape) (input : RawInput) : Except ApiError (Option Reference) :=
  match shape.referenceField? with
  | some field => parseReference field input
  | none => .ok none

/-- The parameters with the reference that is left of filling the fields. -/
def putReference (shape : ParamShape) (progress : Progress shape) : Except ApiError shape.Params :=
  match shape.referenceField?, progress.reference with
  | some field, some reference =>
      assigned shape progress.params field.name (.reference reference)
  | _, _ => .ok progress.params

variable {shape : ParamShape} {input : RawInput}

theorem bind_stages (shape : ParamShape) (input : RawInput) :
    bind shape input = (do
      let reference ← readReference shape input
      let progress ← bindFields shape input shape.manifest { params := shape.initial, reference }
      putReference shape progress >>= validated shape) := by
  unfold bind readReference putReference
  cases shape.referenceField? with
  | none => rfl
  | some field =>
      apply bind_congr
      intro reference
      apply bind_congr
      intro progress
      cases progress.reference <;> rfl

theorem assigned_eq_ok {params after : shape.Params} {field : String} {value : BoundValue}
    (assigns : assigned shape params field value = .ok after) :
    shape.assign params field value = .ok after := by
  unfold assigned at assigns
  split at assigns
  · rename_i assignment
    cases assigns
    exact assignment
  · cases assigns

theorem validated_eq_ok {params result : shape.Params}
    (valid : validated shape params = .ok result) :
    result = params ∧ shape.validate params = .ok () := by
  unfold validated at valid
  split at valid
  · rename_i checked
    cases valid
    exact ⟨rfl, checked⟩
  · cases valid

/-- What is bound has passed every stage. -/
theorem exists_of_bind {params : shape.Params} (bound : bind shape input = .ok params) :
    ∃ reference progress, readReference shape input = .ok reference ∧
      bindFields shape input shape.manifest { params := shape.initial, reference } =
        .ok progress ∧
      putReference shape progress = .ok params ∧ shape.validate params = .ok () := by
  rw [bind_stages] at bound
  obtain ⟨reference, read, bound⟩ := exists_of_bind_eq_ok bound
  obtain ⟨progress, filled, bound⟩ := exists_of_bind_eq_ok bound
  obtain ⟨final, put, valid⟩ := exists_of_bind_eq_ok bound
  obtain ⟨rfl, checked⟩ := validated_eq_ok valid
  exact ⟨reference, progress, read, filled, put, checked⟩

theorem validate_of_bind {params : shape.Params} (bound : bind shape input = .ok params) :
    shape.validate params = .ok () := by
  obtain ⟨-, -, -, -, -, checked⟩ := exists_of_bind bound
  exact checked

theorem assign_of_putReference {progress : Progress shape} {params : shape.Params}
    {field : FieldSpec} {reference : Reference} (has : shape.referenceField? = some field)
    (kept : progress.reference = some reference)
    (put : putReference shape progress = .ok params) :
    shape.assign progress.params field.name (.reference reference) = .ok params := by
  unfold putReference at put
  rw [has, kept] at put
  exact assigned_eq_ok put

end DatasetService.Binding
