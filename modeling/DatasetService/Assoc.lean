set_option autoImplicit false

/- Finite maps as lists of pairs with distinct keys, in the order in which the keys came. -/
namespace DatasetService

abbrev Assoc (κ α : Type) := List (κ × α)

namespace Assoc

variable {κ α : Type} [DecidableEq κ]

def get? (key : κ) : Assoc κ α → Option α
  | [] => none
  | (other, value) :: rest => if other = key then some value else get? key rest

/-- Give a key a value, at its old place if it has one. -/
def set (key : κ) (value : α) : Assoc κ α → Assoc κ α
  | [] => [(key, value)]
  | (other, old) :: rest =>
      if other = key then (key, value) :: rest else (other, old) :: set key value rest

def remove (key : κ) : Assoc κ α → Assoc κ α
  | [] => []
  | (other, value) :: rest => if other = key then rest else (other, value) :: remove key rest

def keys (map : Assoc κ α) : List κ := map.map Prod.fst

def values (map : Assoc κ α) : List α := map.map Prod.snd

@[simp] theorem get?_nil (key : κ) : get? key ([] : Assoc κ α) = none := rfl

@[simp] theorem get?_set_self (key : κ) (value : α) (map : Assoc κ α) :
    get? key (set key value map) = some value := by
  induction map with
  | nil => simp [set, get?]
  | cons pair rest ih =>
      obtain ⟨other, old⟩ := pair
      by_cases h : other = key <;> simp [set, get?, h, ih]

theorem get?_set_of_ne (key other : κ) (value : α) (map : Assoc κ α) (h : other ≠ key) :
    get? other (set key value map) = get? other map := by
  induction map with
  | nil => simp [set, get?, Ne.symm h]
  | cons pair rest ih =>
      obtain ⟨third, old⟩ := pair
      by_cases hk : third = key
      · subst hk
        simp [set, get?, Ne.symm h]
      · by_cases ho : third = other <;> simp [set, get?, hk, ho, ih, h]

theorem get?_remove_of_ne (key other : κ) (map : Assoc κ α) (h : other ≠ key) :
    get? other (remove key map) = get? other map := by
  induction map with
  | nil => rfl
  | cons pair rest ih =>
      obtain ⟨third, old⟩ := pair
      by_cases hk : third = key
      · subst hk
        simp [remove, get?, Ne.symm h]
      · by_cases ho : third = other <;> simp [remove, get?, hk, ho, ih, h]

theorem set_of_get? (key : κ) (value : α) (map : Assoc κ α) (h : get? key map = some value) :
    set key value map = map := by
  induction map with
  | nil => simp at h
  | cons pair rest ih =>
      obtain ⟨other, old⟩ := pair
      by_cases hk : other = key
      · subst hk
        simp [get?] at h
        simp [set, h]
      · simp [get?, hk] at h
        simp [set, hk, ih h]

/-- A key written reads as written, and every other key as before. -/
theorem get?_set (key other : κ) (value : α) (map : Assoc κ α) :
    get? other (set key value map) = if other = key then some value else get? other map := by
  by_cases same : other = key
  · subst same
    rw [get?_set_self, if_pos rfl]
  · rw [get?_set_of_ne key other value map same, if_neg same]

theorem mem_of_mem_set {key : κ} {value : α} {map : Assoc κ α} {entry : κ × α}
    (member : entry ∈ set key value map) : entry = (key, value) ∨ entry ∈ map := by
  induction map with
  | nil => exact Or.inl (List.mem_singleton.mp member)
  | cons pair rest ih =>
      obtain ⟨other, old⟩ := pair
      simp only [set] at member
      split at member
      · rcases List.mem_cons.mp member with new | kept
        · exact Or.inl new
        · exact Or.inr (List.mem_cons_of_mem _ kept)
      · rcases List.mem_cons.mp member with first | later
        · exact Or.inr (first ▸ List.mem_cons_self)
        · exact (ih later).imp_right (List.mem_cons_of_mem _)

theorem mem_of_mem_remove {key : κ} {map : Assoc κ α} {entry : κ × α}
    (member : entry ∈ remove key map) : entry ∈ map := by
  induction map with
  | nil => exact member
  | cons pair rest ih =>
      obtain ⟨other, old⟩ := pair
      simp only [remove] at member
      split at member
      · exact List.mem_cons_of_mem _ member
      · rcases List.mem_cons.mp member with first | later
        · exact first ▸ List.mem_cons_self
        · exact List.mem_cons_of_mem _ (ih later)

theorem mem_of_get? {key : κ} {value : α} {map : Assoc κ α}
    (found : get? key map = some value) : (key, value) ∈ map := by
  induction map with
  | nil => cases found
  | cons pair rest ih =>
      obtain ⟨other, old⟩ := pair
      simp only [get?] at found
      split at found
      · rename_i same
        cases found
        exact same ▸ List.mem_cons_self
      · exact List.mem_cons_of_mem _ (ih found)

end Assoc
end DatasetService
