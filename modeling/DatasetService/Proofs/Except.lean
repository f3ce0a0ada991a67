set_option autoImplicit false

/- Steps that may fail, one after the other. -/
namespace DatasetService

variable {ε α β : Type} {first : Except ε α}

/-- A sequence of steps that succeeds has a first step that does. -/
theorem exists_of_bind_eq_ok {next : α → Except ε β} {result : β}
    (success : first >>= next = .ok result) :
    ∃ found, first = .ok found ∧ next found = .ok result := by
  cases first with
  | error error => cases success
  | ok found => exact ⟨found, rfl, success⟩

/-- A sequence of steps fails in the first step, or in what follows it. -/
theorem eq_error_of_bind {next : α → Except ε β} {cause : ε}
    (failure : first >>= next = .error cause) :
    first = .error cause ∨ ∃ found, first = .ok found ∧ next found = .error cause := by
  cases first with
  | error error =>
      cases failure
      exact Or.inl rfl
  | ok found => exact Or.inr ⟨found, rfl, failure⟩

theorem exists_of_isOk (success : first.isOk = true) : ∃ found, first = .ok found := by
  cases first with
  | error error => cases success
  | ok found => exact ⟨found, rfl⟩

theorem bind_of_eq_ok {found : α} (success : first = .ok found) (next : α → Except ε β) :
    first >>= next = next found := by
  rw [success]
  rfl

theorem bind_of_eq_error {cause : ε} (failure : first = .error cause) (next : α → Except ε β) :
    first >>= next = .error cause := by
  rw [failure]
  rfl

theorem bind_of_eq_some {step : Option α} {found : α} (success : step = some found)
    (next : α → Option β) : step >>= next = next found := by
  rw [success]
  rfl

end DatasetService
