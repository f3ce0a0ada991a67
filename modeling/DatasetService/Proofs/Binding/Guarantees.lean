import DatasetService.Proofs.Binding.Complaints
import DatasetService.Proofs.Binding.References
import DatasetService.Proofs.Page.Link
import DatasetService.Proofs.Store.Refusal

set_option autoImplicit false

/- What is relied on after binding. A request that cannot be bound is at fault itself, and the
parameters of one that can be are such that later stages need not check them again. -/
namespace DatasetService

/-- Text that is given, if any, is not empty. -/
def Filled (text : Option String) : Prop := text ≠ some ""

theorem filled_nonempty (text : String) : Filled (nonempty text) := by
  unfold Filled nonempty
  split
  · simp
  · simpa using ‹_›

structure ListParams.Guaranteed (params : ListParams) : Prop where
  window : params.Bounded
  unclamped : Window.clamp params.limit params.offset =
    { limit := params.limit, offset := params.offset }
  order : ∀ order ∈ params.orderBy, order = "updated" ∨ order = "name"

structure LogParams.Guaranteed (params : LogParams) : Prop where
  list : params.list.Guaranteed
  named : params.reference.hasName = true
  remote : Filled params.remote

/-- The store does not refuse to export a part of the dataset. -/
structure GetParams.Guaranteed (params : GetParams) : Prop where
  named : params.reference.hasName = true
  whole : params.format = .zip → params.reference.selector = none
  served (store : Store) : store.get params.reference params.format ≠
    .error (.invalid "zip exports cannot address a selector")

/-- The store does not refuse to export the rows. -/
structure SqlParams.Guaranteed (params : SqlParams) : Prop where
  written : Text.isBlankText params.query.toList = false
  tabular : params.outputFormat ≠ .zip
  served (store : Store) : store.exec params.query params.outputFormat ≠
    .error (.invalid "query results cannot be rendered as zip")

structure PublishParams.Guaranteed (params : PublishParams) : Prop where
  named : params.reference.hasName = true
  remote : Filled params.remote

structure SaveParams.Guaranteed (params : SaveParams) : Prop where
  named : params.reference.hasName = true
  latest : params.reference.path = none
  whole : params.reference.selector = none

structure ProfileImageParams.Guaranteed (params : ProfileImageParams) : Prop where
  peername : Filled params.peername
  id : Filled params.id

def ParamShape.Guaranteed : (shape : ParamShape) → shape.Params → Prop
  | .list => ListParams.Guaranteed
  | .log => LogParams.Guaranteed
  | .get => GetParams.Guaranteed
  | .sql => SqlParams.Guaranteed
  | .publish => PublishParams.Guaranteed
  | .save => SaveParams.Guaranteed
  | .profileImage => ProfileImageParams.Guaranteed

/-- If this is a failure, the request is at fault. -/
def ClientFault {α : Type} (outcome : Except ApiError α) : Prop :=
  ∀ error, outcome = .error error → error.status = 400

namespace Binding

theorem clientFault_bind (shape : ParamShape) (input : RawInput) :
    ClientFault (bind shape input) :=
  fun error failed => (fails_bind shape input error failed).status

/-- What every assignment keeps holds of the parameters that are bound. -/
theorem holds_of_bind (shape : ParamShape) {input : RawInput} {params : shape.Params}
    (holds : shape.Params → Prop) (plain : ∀ field ∈ shape.manifest, field.kind ≠ .format)
    (start : holds shape.initial)
    (kept : ∀ params after field value, holds params → shape.assign params field value = .ok after →
      holds after)
    (bound : bind shape input = .ok params) : holds params := by
  obtain ⟨reference, progress, -, filled, put, -⟩ := exists_of_bind bound
  have keeps : holds progress.params :=
    (bindFields_keeps holds plain (fun field _ value params after _ => kept params after _ value) _
      start filled).1
  unfold putReference at put
  split at put
  · exact kept _ _ _ _ keeps (assigned_eq_ok put)
  · cases put
    exact keeps

end Binding

theorem LogParams.filled_assign {params after : LogParams} {field : String} {value : BoundValue}
    (filled : Filled params.remote) (assigns : params.assign field value = .ok after) :
    Filled after.remote := by
  unfold assign at assigns
  split at assigns
  · cases assigns
    exact filled
  · cases assigns
    exact filled
  · cases assigns
    exact filled_nonempty _
  · cases assigns
    exact filled
  · cases windowed : params.list.assignWindow field value with
    | error message =>
        rw [windowed] at assigns
        cases assigns
    | ok list =>
        rw [windowed] at assigns
        cases assigns
        exact filled

theorem PublishParams.filled_assign {params after : PublishParams} {field : String}
    {value : BoundValue} (filled : Filled params.remote)
    (assigns : params.assign field value = .ok after) : Filled after.remote := by
  unfold assign at assigns
  split at assigns
  · cases assigns
    exact filled
  · cases assigns
    exact filled_nonempty _
  · cases assigns

theorem ProfileImageParams.guaranteed_assign {params after : ProfileImageParams} {field : String}
    {value : BoundValue} (guaranteed : params.Guaranteed)
    (assigns : params.assign field value = .ok after) : after.Guaranteed := by
  unfold assign at assigns
  split at assigns
  · cases assigns
    exact ⟨filled_nonempty _, guaranteed.id⟩
  · cases assigns
    exact ⟨guaranteed.peername, filled_nonempty _⟩
  · cases assigns

open Binding

section shapes

variable {input : RawInput}

theorem ListParams.guaranteed_of_bind {params : ListParams}
    (bound : bind .list input = .ok params) : params.Guaranteed := by
  obtain ⟨bounded, checked⟩ := ListParams.bounded_of_bind bound
  exact {
    window := bounded
    unclamped := Window.clamp_of_bounded bounded.positive bounded.limitFits bounded.offsetFits
    order := order_of_validate checked }

theorem LogParams.guaranteed_of_bind {params : LogParams} (bound : bind .log input = .ok params) :
    params.Guaranteed := by
  obtain ⟨⟨window, unordered⟩, -, named⟩ := LogParams.bounded_of_bind bound
  have clamped := Window.clamp_of_bounded window.positive window.limitFits window.offsetFits
  have start : Filled ({} : LogParams).remote := by simp [Filled]
  exact {
    list := ⟨window, clamped, by simp [unordered]⟩
    named
    remote := holds_of_bind .log (fun params => Filled params.remote) (by decide) start
      (fun _ _ _ _ => LogParams.filled_assign) bound }

theorem GetParams.guaranteed_of_bind {params : GetParams} (bound : bind .get input = .ok params) :
    params.Guaranteed := by
  have checked := validate_of_bind bound
  obtain ⟨⟨⟩, required, checked⟩ := exists_of_bind_eq_ok checked
  have whole : params.format = .zip → params.reference.selector = none := by
    intro zip
    rw [zip] at checked
    simpa using checked
  exact {
    named := hasName_of_requireName required
    whole
    served := fun store => store.served_of_whole whole }

theorem SqlParams.guaranteed_of_bind {params : SqlParams} (bound : bind .sql input = .ok params) :
    params.Guaranteed := by
  have checked := validate_of_bind bound
  have both : Text.isBlankText params.query.toList = false ∧ params.outputFormat ≠ .zip := by
    change SqlParams.validate params = .ok () at checked
    unfold SqlParams.validate at checked
    split at checked
    · cases checked
    · rename_i written
      split at checked
      · cases checked
      · rename_i tabular
        exact ⟨by simpa using written, tabular⟩
  exact {
    written := both.1
    tabular := both.2
    served := fun store => store.served_of_tabular both.2 }

theorem PublishParams.guaranteed_of_bind {params : PublishParams}
    (bound : bind .publish input = .ok params) : params.Guaranteed := by
  have checked := validate_of_bind bound
  have start : Filled ({} : PublishParams).remote := by simp [Filled]
  exact {
    named := hasName_of_requireName checked
    remote := holds_of_bind .publish (fun params => Filled params.remote) (by decide) start
      (fun _ _ _ _ => PublishParams.filled_assign) bound }

theorem SaveParams.guaranteed_of_bind {params : SaveParams}
    (bound : bind .save input = .ok params) : params.Guaranteed := by
  have checked := validate_of_bind bound
  obtain ⟨⟨⟩, required, checked⟩ := exists_of_bind_eq_ok checked
  split at checked
  · cases checked
  · rename_i bare
    simp only [Bool.or_eq_true, Option.isSome_iff_ne_none, not_or, not_not] at bare
    exact ⟨hasName_of_requireName required, bare.1, bare.2⟩

/-- What is saved has a name that can be written. -/
theorem SaveParams.wellFormed_of_bind {params : SaveParams}
    (bound : bind .save input = .ok params) : params.reference.WellFormed :=
  Binding.wellFormed_of_bind (by decide) rfl bound rfl

theorem ProfileImageParams.guaranteed_of_bind {params : ProfileImageParams}
    (bound : bind .profileImage input = .ok params) : params.Guaranteed := by
  have start : ({} : ProfileImageParams).Guaranteed := ⟨by simp [Filled], by simp [Filled]⟩
  exact holds_of_bind .profileImage Guaranteed (by decide) start
    (fun _ _ _ _ => guaranteed_assign) bound

end shapes

/-- A request that cannot be bound is refused as at fault, whatever it carries. What is bound of
one that can be satisfies all that the later stages rely on. -/
theorem bind_guarantees (shape : ParamShape) (input : RawInput) :
    match bind shape input with
    | .ok params => shape.Guaranteed params
    | .error error => error.status = 400 := by
  split
  · rename_i params bound
    cases shape with
    | list => exact ListParams.guaranteed_of_bind bound
    | log => exact LogParams.guaranteed_of_bind bound
    | get => exact GetParams.guaranteed_of_bind bound
    | sql => exact SqlParams.guaranteed_of_bind bound
    | publish => exact PublishParams.guaranteed_of_bind bound
    | save => exact SaveParams.guaranteed_of_bind bound
    | profileImage => exact ProfileImageParams.guaranteed_of_bind bound
  · rename_i error failed
    exact clientFault_bind shape input error failed

end DatasetService
