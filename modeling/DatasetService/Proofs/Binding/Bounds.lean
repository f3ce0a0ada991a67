import DatasetService.Proofs.Binding.Stages
import DatasetService.Proofs.Reference.Grammar

set_option autoImplicit false

/- What binding guarantees. A field is filled with a value of its kind, and what the values of all
kinds keep holds of the parameters in the end. -/
namespace DatasetService

/-- What a field may be filled with. -/
def FieldKind.Admits : FieldKind → BoundValue → Prop
  | .limit, .count value => 0 < value ∧ value ≤ maxInt
  | .offset, .count value => value ≤ maxInt
  | .text, .text _ => True
  | .flag, .flag _ => True
  | .file, .file _ => True
  | _, _ => False

/-- A window within the bounds of signed counts. -/
structure ListParams.Bounded (params : ListParams) : Prop where
  positive : 0 < params.limit
  limitFits : params.limit ≤ maxInt
  offsetFits : params.offset ≤ maxInt

theorem ListParams.bounded_default : ({} : ListParams).Bounded where
  positive := by decide
  limitFits := by decide
  offsetFits := by decide

namespace Binding

/-- A value that is given as an integer is one of 64 bits. -/
theorem asInteger_le {field : String} {raw : RawValue} {value : Int}
    (read : asInteger field raw = .ok value) : value ≤ maxInt := by
  have number (number : Json.Number) (found : number.signed? = some value) : value ≤ maxInt := by
    cases number with
    | integer given =>
        simp only [Json.Number.signed?] at found
        split at found
        · rename_i small
          cases found
          have power : Int.pow 2 63 = 9223372036854775808 := by decide
          rw [power] at small
          unfold maxInt
          omega
        · cases found
    | float given => cases found
  have text (text : String) (found : integerOfText? text = some value) : value ≤ maxInt := by
    unfold integerOfText? Literal.signed? at found
    have fits := (Option.filter_eq_some_iff.mp found).2
    obtain ⟨-, small⟩ := Bool.and_eq_true_iff.mp fits
    have bound : value ≤ Literal.maxSigned := of_decide_eq_true small
    unfold Literal.maxSigned at bound
    unfold maxInt
    omega
  unfold asInteger at read
  dsimp only at read
  split at read
  · rename_i found
    cases read
    split at found
    · exact number _ found
    · exact text _ found
    · exact text _ found
    · cases found
  · cases read

theorem whenGiven_eq_ok {α : Type} {raw : Option RawValue} {read : RawValue → Except ApiError α}
    {found : Option α} (given : whenGiven raw read = .ok found) :
    ∀ value ∈ found, ∃ raw, read raw = .ok value := by
  cases raw with
  | none =>
      cases given
      simp
  | some raw =>
      rintro value rfl
      refine ⟨raw, ?_⟩
      simp only [whenGiven] at given
      cases outcome : read raw with
      | error error => simp [outcome, Except.map] at given
      | ok result => simpa [outcome, Except.map] using given

/-- The limit of a window is positive, and its bounds are those of signed counts. -/
theorem ofSigned_bounds {limit offset : Int} (limitFits : limit ≤ maxInt)
    (offsetFits : offset ≤ maxInt) :
    0 < (Window.ofSigned limit offset).limit ∧ (Window.ofSigned limit offset).limit ≤ maxInt ∧
      (Window.ofSigned limit offset).offset ≤ maxInt := by
  have default : 0 < defaultLimit ∧ defaultLimit ≤ maxInt := by decide
  unfold Window.ofSigned
  dsimp only
  split
  · exact ⟨default.1, default.2, by omega⟩
  · exact ⟨by omega, by omega, by omega⟩

theorem fieldValue_admits {field : FieldSpec} {raw : Option RawValue} {value : BoundValue}
    (filled : fieldValue field raw = .ok (some value)) : field.kind.Admits value := by
  have integers {found : Option Int} (given : whenGiven raw (asInteger field.name) = .ok found) :
      found.getD 0 ≤ maxInt := by
    cases found with
    | none => decide
    | some value =>
        obtain ⟨raw, read⟩ := whenGiven_eq_ok given value rfl
        exact asInteger_le read
  have one : (1 : Int) ≤ maxInt := by decide
  have zero : (0 : Int) ≤ maxInt := by decide
  unfold fieldValue at filled
  cases kind : field.kind <;> simp only [kind] at filled
  case limit =>
    obtain ⟨found, given, filled⟩ := exists_of_bind_eq_ok filled
    cases filled
    have bounds := ofSigned_bounds (integers given) zero
    exact ⟨bounds.1, bounds.2.1⟩
  case offset =>
    obtain ⟨found, given, filled⟩ := exists_of_bind_eq_ok filled
    cases filled
    exact (ofSigned_bounds one (integers given)).2.2
  case text =>
    obtain ⟨found, -, filled⟩ := exists_of_bind_eq_ok filled
    obtain ⟨text, -, rfl⟩ := Option.map_eq_some_iff.mp (Except.ok.inj filled)
    trivial
  case flag =>
    obtain ⟨found, -, filled⟩ := exists_of_bind_eq_ok filled
    obtain ⟨flag, -, rfl⟩ := Option.map_eq_some_iff.mp (Except.ok.inj filled)
    trivial
  case file =>
    obtain ⟨upload, -, rfl⟩ := Option.map_eq_some_iff.mp (Except.ok.inj filled)
    trivial
  case reference => cases filled
  case format => cases filled

/-- What filling a field does, where no format is negotiated. -/
theorem bindField_cases {shape : ParamShape} {input : RawInput} {progress after : Progress shape}
    {field : FieldSpec} (plain : field.kind ≠ .format)
    (filled : bindField shape input progress field = .ok after) :
    after = progress ∨ ∃ value params, field.kind.Admits value ∧
      shape.assign progress.params field.name value = .ok params ∧
      after = { progress with params } := by
  unfold bindField at filled
  dsimp only at filled
  split at filled
  · cases filled
    exact Or.inl rfl
  · rename_i negotiated
    exact absurd negotiated plain
  · obtain ⟨found, given, filled⟩ := exists_of_bind_eq_ok filled
    cases found with
    | none =>
        dsimp only at filled
        split at filled
        · cases filled
        · cases filled
          exact Or.inl rfl
    | some value =>
        obtain ⟨params, assigns, filled⟩ := exists_of_bind_eq_ok filled
        cases filled
        exact Or.inr ⟨value, params, fieldValue_admits given, assigned_eq_ok assigns, rfl⟩

/-- What every assignment keeps holds of the parameters when all fields are filled, and the
reference is as before. -/
theorem bindFields_keeps {shape : ParamShape} {input : RawInput} (holds : shape.Params → Prop)
    {fields : List FieldSpec} (plain : ∀ field ∈ fields, field.kind ≠ .format)
    (kept : ∀ field ∈ fields, ∀ value params after, field.kind.Admits value → holds params →
      shape.assign params field.name value = .ok after → holds after)
    (progress : Progress shape) {after : Progress shape} (start : holds progress.params)
    (filled : bindFields shape input fields progress = .ok after) :
    holds after.params ∧ after.reference = progress.reference := by
  induction fields generalizing progress with
  | nil =>
      cases filled
      exact ⟨start, rfl⟩
  | cons field fields ih =>
      obtain ⟨next, step, others⟩ := exists_of_bind_eq_ok filled
      have plainLater := fun other member => plain other (List.mem_cons_of_mem field member)
      have keptLater := fun other member => kept other (List.mem_cons_of_mem field member)
      rcases bindField_cases (plain field List.mem_cons_self) step with
        rfl | ⟨value, params, admitted, assigned, rfl⟩
      · exact ih plainLater keptLater _ start others
      · have keeps := kept field List.mem_cons_self value _ params admitted start assigned
        exact ih plainLater keptLater { progress with params } keeps others

end Binding

namespace ListParams

variable (params : ListParams)

theorem assign_limit (limit : Nat) :
    params.assign "limit" (.count limit) = .ok { params with limit } := rfl

theorem assign_offset (offset : Nat) :
    params.assign "offset" (.count offset) = .ok { params with offset } := rfl

theorem assign_orderBy (text : String) :
    params.assign "order_by" (.text text) = .ok { params with orderBy := some text } := rfl

theorem assign_peername (text : String) :
    params.assign "peername" (.text text) = .ok { params with peername := some text } := rfl

theorem assign_published (flag : Bool) :
    params.assign "published" (.flag flag) = .ok { params with published := some flag } := rfl

theorem bounded_assign {params after : ListParams} {field : FieldSpec} {value : BoundValue}
    (member : field ∈ manifest) (admitted : field.kind.Admits value) (bounded : params.Bounded)
    (assigned : params.assign field.name value = .ok after) : after.Bounded := by
  simp only [manifest, List.mem_cons, List.not_mem_nil, or_false] at member
  rcases member with rfl | rfl | rfl | rfl | rfl <;> cases value <;>
    first | exact absurd admitted id | skip
  case inl.count limit =>
    cases (assign_limit params limit).symm.trans assigned
    exact ⟨admitted.1, admitted.2, bounded.offsetFits⟩
  case inr.inl.count offset =>
    cases (assign_offset params offset).symm.trans assigned
    exact ⟨bounded.positive, bounded.limitFits, admitted⟩
  case inr.inr.inl.text text =>
    cases (assign_orderBy params text).symm.trans assigned
    exact ⟨bounded.positive, bounded.limitFits, bounded.offsetFits⟩
  case inr.inr.inr.inl.text text =>
    cases (assign_peername params text).symm.trans assigned
    exact ⟨bounded.positive, bounded.limitFits, bounded.offsetFits⟩
  case inr.inr.inr.inr.flag flag =>
    cases (assign_published params flag).symm.trans assigned
    exact ⟨bounded.positive, bounded.limitFits, bounded.offsetFits⟩

/-- The window of a list request is within bounds, and its order is one of those that there are. -/
theorem bounded_of_bind {input : Binding.RawInput} {params : ListParams}
    (bound : Binding.bind .list input = .ok params) :
    params.Bounded ∧ params.validate = .ok () := by
  obtain ⟨reference, progress, -, filled, put, checked⟩ := Binding.exists_of_bind bound
  have kept : ∀ field ∈ manifest, ∀ (value : BoundValue) (params after : ListParams),
      field.kind.Admits value → params.Bounded → params.assign field.name value = .ok after →
      after.Bounded := fun _ member _ _ _ => bounded_assign member
  have keeps := Binding.bindFields_keeps Bounded (by decide) kept _ bounded_default filled
  cases put
  exact ⟨keeps.1, checked⟩

/-- A list is ordered in one of two ways, if a way is given. -/
theorem order_of_validate {params : ListParams} (valid : params.validate = .ok ()) :
    ∀ order ∈ params.orderBy, order = orderByUpdated ∨ order = orderByName := by
  intro order given
  unfold validate at valid
  rw [Option.mem_def.mp given] at valid
  dsimp only at valid
  split at valid
  · rename_i known
    simpa using known
  · cases valid

end ListParams

namespace LogParams

variable (params : LogParams)

theorem assign_limit (limit : Nat) :
    params.assign "limit" (.count limit) =
      .ok { params with list := { params.list with limit } } := rfl

theorem assign_offset (offset : Nat) :
    params.assign "offset" (.count offset) =
      .ok { params with list := { params.list with offset } } := rfl

theorem assign_local (flag : Bool) :
    params.assign "local" (.flag flag) = .ok { params with isLocal := flag } := rfl

theorem assign_remote (text : String) :
    params.assign "remote" (.text text) = .ok { params with remote := nonempty text } := rfl

theorem assign_pull (flag : Bool) :
    params.assign "pull" (.flag flag) = .ok { params with pull := flag } := rfl

/-- A window onto a history is within bounds, and has no order of its own. -/
structure Bounded (params : LogParams) : Prop where
  window : params.list.Bounded
  unordered : params.list.orderBy = none

theorem bounded_assign {params after : LogParams} {field : FieldSpec} {value : BoundValue}
    (member : field ∈ manifest) (admitted : field.kind.Admits value) (bounded : params.Bounded)
    (assigned : params.assign field.name value = .ok after) : after.Bounded := by
  obtain ⟨window, unordered⟩ := bounded
  simp only [manifest, List.mem_cons, List.not_mem_nil, or_false] at member
  rcases member with rfl | rfl | rfl | rfl | rfl | rfl <;> cases value <;>
    first | exact absurd admitted id | skip
  case inr.inl.count limit =>
    cases (assign_limit params limit).symm.trans assigned
    exact ⟨⟨admitted.1, admitted.2, window.offsetFits⟩, unordered⟩
  case inr.inr.inl.count offset =>
    cases (assign_offset params offset).symm.trans assigned
    exact ⟨⟨window.positive, window.limitFits, admitted⟩, unordered⟩
  case inr.inr.inr.inl.flag flag =>
    cases (assign_local params flag).symm.trans assigned
    exact ⟨window, unordered⟩
  case inr.inr.inr.inr.inl.text text =>
    cases (assign_remote params text).symm.trans assigned
    exact ⟨window, unordered⟩
  case inr.inr.inr.inr.inr.flag flag =>
    cases (assign_pull params flag).symm.trans assigned
    exact ⟨window, unordered⟩

end LogParams

namespace Binding

theorem hasName_of_requireName {reference : Reference}
    (required : requireName reference = .ok ()) : reference.hasName = true := by
  unfold requireName at required
  split at required
  · assumption
  · cases required

theorem wellFormed_of_resolve {raw : String} {owner : Option String} {reference : Reference}
    (read : Reference.resolve raw owner = .ok reference) : reference.WellFormed := by
  unfold Reference.resolve at read
  dsimp only at read
  split at read
  · exact ((Reference.parseChars_eq_ok_iff _ reference).mp read).2
  · exact ((Reference.parseChars_eq_ok_iff _ reference).mp read).2

/-- A reference that is required is there, and it is well-formed. -/
theorem wellFormed_of_parseReference {field : FieldSpec} {input : RawInput}
    {found : Option Reference} (required : field.required = true)
    (read : parseReference field input = .ok found) :
    ∃ reference, found = some reference ∧ reference.WellFormed := by
  obtain ⟨text, -, read⟩ := exists_of_bind_eq_ok read
  cases text with
  | none =>
      simp only [required, if_true] at read
      cases read
  | some raw =>
      dsimp only at read
      split at read
      · rename_i reference resolved
        cases read
        exact ⟨reference, rfl, wellFormed_of_resolve resolved⟩
      · cases read

end Binding

/-- The parameters of a history name a dataset by a well-formed reference. -/
theorem LogParams.bounded_of_bind {input : Binding.RawInput} {params : LogParams}
    (bound : Binding.bind .log input = .ok params) :
    params.Bounded ∧ params.reference.WellFormed ∧ params.reference.hasName = true := by
  obtain ⟨found, progress, read, filled, put, checked⟩ := Binding.exists_of_bind bound
  obtain ⟨reference, rfl, wellFormed⟩ := Binding.wellFormed_of_parseReference rfl read
  have kept : ∀ field ∈ manifest, ∀ (value : BoundValue) (params after : LogParams),
      field.kind.Admits value → params.Bounded → params.assign field.name value = .ok after →
      after.Bounded := fun _ member _ _ _ => bounded_assign member
  have start : ({} : LogParams).Bounded := ⟨ListParams.bounded_default, rfl⟩
  obtain ⟨bounded, same⟩ := Binding.bindFields_keeps Bounded (by decide) kept _ start filled
  have has : ParamShape.log.referenceField? = some referenceField := rfl
  have assigns := Binding.assign_of_putReference has same put
  have filledIn : progress.params.assign "reference" (.reference reference) =
      .ok { progress.params with reference } := rfl
  cases filledIn.symm.trans assigns
  exact ⟨⟨bounded.window, bounded.unordered⟩, wellFormed,
    Binding.hasName_of_requireName checked⟩

end DatasetService
