import DatasetService.Proofs.Binding.Given
import DatasetService.Proofs.Page.Link

set_option autoImplicit false

/- Binding the parameters of a link gives the window that the link was made for, and nothing else:
a link has no filter, and it names no version and no remote. -/
namespace DatasetService

namespace Binding

variable {value : Nat} (fits : value ≤ maxInt)
include fits

theorem whole_toString : Whole (some (toString value)) := by
  intro given is
  cases is
  rw [integerOfText?_toString fits]
  rfl

theorem integerOf_toString : integerOf (some (toString value)) = value := by
  rw [integerOf, Option.bind_some, integerOfText?_toString fits, Option.getD_some]

end Binding

namespace PageToken

/-- A token whose window is within bounds, as the tokens of all links are. -/
structure Bounded (token : PageToken) : Prop where
  positive : 0 < token.limit
  limitFits : token.limit ≤ maxInt
  offsetFits : token.offset ≤ maxInt

/-- What a link contributes that stands beside a reference. -/
def input (token : PageToken) (reference : Option String) : Binding.RawInput :=
  { reference, query := token.pairs }

/-- What a link says of a name. -/
theorem effective_input (token : PageToken) (reference : Option String) (name : String) :
    (token.input reference).effective name =
      if name = "limit" then some (.text (toString token.limit))
      else if name = "offset" then some (.text (toString token.offset))
      else if name = "order_by" then token.orderBy.map .text
      else none := by
  have last : Binding.lastNamed name token.pairs =
      if name = "limit" then some (toString token.limit)
      else if name = "offset" then some (toString token.offset)
      else if name = "order_by" then token.orderBy
      else none := by
    by_cases limit : name = "limit"
    · subst limit
      cases given : token.orderBy <;> simp [Binding.lastNamed, pairs, given]
    · by_cases offset : name = "offset"
      · subst offset
        cases given : token.orderBy <;> simp [Binding.lastNamed, pairs, given]
      · by_cases order : name = "order_by"
        · subst order
          cases given : token.orderBy <;> simp [Binding.lastNamed, pairs, given]
        · have others : ("limit" == name) = false ∧ ("offset" == name) = false ∧
              ("order_by" == name) = false := by
            simpa only [beq_eq_false_iff_ne] using ⟨Ne.symm limit, Ne.symm offset, Ne.symm order⟩
          cases given : token.orderBy <;>
            simp [Binding.lastNamed, pairs, given, limit, offset, order, others]
  have body : Binding.lastNamed name
      (([] : List (String × Binding.RawValue)).filter fun pair => !pair.2.isNull) = none := rfl
  rw [Binding.RawInput.effective, input, body, Option.none_or, last]
  split
  · rfl
  · split
    · rfl
    · split <;> rfl

section fields

variable {token : PageToken} (reference : Option String)

theorem fieldValue_limit (bounded : token.Bounded) :
    Binding.fieldValue { name := "limit", kind := .limit }
        ((token.input reference).effective "limit") = .ok (some (.count token.limit)) := by
  have large : ¬ (token.limit : Int) ≤ 0 := by
    have positive := bounded.positive
    omega
  have value : (Window.ofSigned (token.limit : Int) 0).limit = token.limit := by
    simp only [Window.ofSigned, large, if_false, Int.toNat_natCast]
  have given := Binding.fieldValue_limit (Binding.whole_toString bounded.limitFits) "limit"
  rw [Binding.integerOf_toString bounded.limitFits, value] at given
  rw [effective_input]
  exact given

theorem fieldValue_offset (bounded : token.Bounded) :
    Binding.fieldValue { name := "offset", kind := .offset }
        ((token.input reference).effective "offset") = .ok (some (.count token.offset)) := by
  have given := Binding.fieldValue_offset (Binding.whole_toString bounded.offsetFits) "offset"
  rw [Binding.integerOf_toString bounded.offsetFits] at given
  rw [effective_input]
  exact given

/-- Nothing else is given but the order. -/
theorem fieldValue_unnamed {field : FieldSpec} (kind : field.kind = .text ∨ field.kind = .flag)
    (unnamed : field.name ≠ "limit" ∧ field.name ≠ "offset" ∧
      (field.name = "order_by" → token.orderBy = none)) :
    Binding.fieldValue field ((token.input reference).effective field.name) = .ok none := by
  have nothing : (token.input reference).effective field.name = none := by
    rw [effective_input, if_neg unnamed.1, if_neg unnamed.2.1]
    split
    · rename_i order
      rw [unnamed.2.2 order, Option.map_none]
    · rfl
  rw [nothing, Binding.fieldValue]
  rcases kind with text | flag
  · simp only [text]
    rfl
  · simp only [flag]
    rfl

end fields

/-- The fields of a list are filled from a link with its window and its order. -/
theorem bindFields_list {token : PageToken} (bounded : token.Bounded) :
    Binding.bindFields .list (token.input none) ListParams.manifest ⟨({} : ListParams), none⟩ =
      .ok ⟨({ limit := token.limit, offset := token.offset, orderBy := token.orderBy } :
        ListParams), none⟩ := by
  let result : ListParams :=
    { limit := token.limit, offset := token.offset, orderBy := token.orderBy }
  let window : ListParams := { limit := token.limit, offset := token.offset }
  have limit : Binding.bindField .list (token.input none) ⟨({} : ListParams), none⟩
      { name := "limit", kind := .limit } =
        .ok ⟨({ limit := token.limit } : ListParams), none⟩ :=
    Binding.bindField_of_value ⟨by decide, by decide⟩ (fieldValue_limit none bounded)
      (ListParams.assign_limit {} token.limit)
  have offset : Binding.bindField .list (token.input none)
      ⟨({ limit := token.limit } : ListParams), none⟩ { name := "offset", kind := .offset } =
        .ok ⟨window, none⟩ :=
    Binding.bindField_of_value ⟨by decide, by decide⟩ (fieldValue_offset none bounded)
      (ListParams.assign_offset { limit := token.limit } token.offset)
  have order : Binding.bindField .list (token.input none) ⟨window, none⟩
      { name := "order_by", kind := .text } = .ok ⟨result, none⟩ := by
    have given : (token.input none).effective "order_by" = token.orderBy.map .text := by
      rw [effective_input]
      rfl
    refine Binding.bindField_optional rfl ⟨by decide, by decide⟩
      (given ▸ Binding.fieldValue_text "order_by" token.orderBy) ?_ ?_
    · intro value member
      obtain ⟨text, ordered, rfl⟩ := Option.map_eq_some_iff.mp member
      have assigns := ListParams.assign_orderBy window text
      rw [← ordered] at assigns
      exact assigns
    · intro none
      have unordered := Option.map_eq_none_iff.mp none
      simp only [result, window, unordered]
  have peername : Binding.bindField .list (token.input none) ⟨result, none⟩
      { name := "peername", kind := .text } = .ok ⟨result, none⟩ :=
    Binding.bindField_of_none rfl (by decide) (fieldValue_unnamed none (Or.inl rfl)
      ⟨by decide, by decide, fun order => absurd order (by decide)⟩)
  have published : Binding.bindField .list (token.input none) ⟨result, none⟩
      { name := "published", kind := .flag } = .ok ⟨result, none⟩ :=
    Binding.bindField_of_none rfl (by decide) (fieldValue_unnamed none (Or.inr rfl)
      ⟨by decide, by decide, fun order => absurd order (by decide)⟩)
  rw [ListParams.manifest, Binding.bindFields, bind_of_eq_ok limit, Binding.bindFields,
    bind_of_eq_ok offset, Binding.bindFields, bind_of_eq_ok order,
    Binding.bindFields, bind_of_eq_ok peername, Binding.bindFields,
    bind_of_eq_ok published, Binding.bindFields]

/-- A link is bound to its window and its order, if there is such an order. -/
theorem bind_list_eq {token : PageToken} (bounded : token.Bounded) :
    Binding.bind .list (token.input none) =
      Binding.validated .list
        ({ limit := token.limit, offset := token.offset, orderBy := token.orderBy } :
          ListParams) := by
  have steps : Binding.bind .list (token.input none) =
      Binding.bindFields .list (token.input none) ListParams.manifest ⟨({} : ListParams), none⟩ >>=
        fun progress => Binding.validated .list progress.params := rfl
  rw [steps, bind_of_eq_ok (bindFields_list bounded)]

/-- The parameters of a link to a page of a list: its window and its order. -/
theorem bind_list {token : PageToken} (bounded : token.Bounded)
    (ordered : ∀ order ∈ token.orderBy, order = orderByUpdated ∨ order = orderByName) :
    Binding.bind .list (token.input none) =
      .ok { limit := token.limit, offset := token.offset, orderBy := token.orderBy } := by
  have valid : ListParams.validate
      { limit := token.limit, offset := token.offset, orderBy := token.orderBy } = .ok () := by
    unfold ListParams.validate
    cases given : token.orderBy with
    | none => rfl
    | some text =>
        rcases ordered text given with rfl | rfl <;> rfl
  rw [bind_list_eq bounded]
  simp only [Binding.validated, ParamShape.validate, valid]

/-- The parameters of a link to a page of a history: its window and its dataset. -/
theorem bind_log {token : PageToken} (bounded : token.Bounded) {reference : Reference}
    (wellFormed : reference.WellFormed) (named : reference.hasName = true) :
    Binding.bind .log (token.input (some reference.slug)) =
      .ok { reference := reference.dataset
            list := { limit := token.limit, offset := token.offset } } := by
  let values : LogValues :=
    { reference := reference.dataset, window := { limit := token.limit, offset := token.offset } }
  have unnamed (field : FieldSpec) (kind : field.kind = .text ∨ field.kind = .flag)
      (other : field.name ≠ "limit" ∧ field.name ≠ "offset" ∧ field.name ≠ "order_by") :
      Binding.fieldValue field ((token.input (some reference.slug)).effective field.name) =
        .ok none :=
    fieldValue_unnamed _ kind ⟨other.1, other.2.1, fun order => absurd order other.2.2⟩
  have read : values.ReadFrom (token.input (some reference.slug)) :=
    { reference := Binding.parseReference_slug rfl wellFormed named
      named := named
      limit := fieldValue_limit _ bounded
      offset := fieldValue_offset _ bounded
      isLocal := unnamed { name := "local", kind := .flag } (Or.inr rfl) (by decide)
      remote := unnamed { name := "remote", kind := .text } (Or.inl rfl) (by decide)
      pull := unnamed { name := "pull", kind := .flag } (Or.inr rfl) (by decide) }
  exact values.bind_of_read read

end PageToken
end DatasetService
