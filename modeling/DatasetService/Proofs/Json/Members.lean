import DatasetService.Json.Record
import DatasetService.Proofs.Json.ReadBack

set_option autoImplicit false

/- Members of objects. They are looked up by their keys, so that their order does not matter as long
as each key has one value; so what is said of an object holds of the object that is read for it. -/
namespace DatasetService.Json

section lookup

theorem member?_cons (key other : String) (value : Value) (members : Members) :
    Value.member? ((key, value) :: members) other =
      if key = other then some value else Value.member? members other := by
  by_cases same : key = other <;> simp [Value.member?, same]

theorem member?_insertMember (key other : String) (value : Value) (members : Members) :
    Value.member? (insertMember key value members) other =
      if key = other then some value else Value.member? members other := by
  induction members with
  | nil => exact member?_cons key other value []
  | cons first rest ih =>
      obtain ⟨name, old⟩ := first
      unfold insertMember
      split
      · rename_i same
        subst same
        rw [member?_cons, member?_cons]
        split <;> rfl
      · rename_i apart
        split
        · exact member?_cons key other value _
        · rw [member?_cons, member?_cons, ih]
          by_cases here : name = other
          · have elsewhere : key ≠ other := fun same => apart (same.trans here.symm)
            simp only [here, elsewhere, if_true, if_false]
          · simp only [here, if_false]

/-- The last of equal keys counts. -/
theorem member?_ofMembers_append (members : Members) (key : String) (value : Value) :
    Value.member? (orderMembers (members ++ [(key, value)])) key = some value := by
  rw [orderMembers, List.foldl_append]
  exact (member?_insertMember key key value _).trans (if_pos rfl)

/-- Members in which each key has one value. -/
def Functional (members : Members) : Prop :=
  ∀ ⦃key : String⦄ ⦃first second : Value⦄,
    (key, first) ∈ members → (key, second) ∈ members → first = second

theorem mem_of_member? {members : Members} {key : String} {value : Value}
    (found : Value.member? members key = some value) : (key, value) ∈ members := by
  obtain ⟨member, first, rfl⟩ := Option.map_eq_some_iff.mp found
  have same : member.1 = key := by simpa using List.find?_some first
  rw [← same]
  exact List.mem_of_find?_eq_some first

theorem member?_eq_some_iff {members : Members} (functional : Functional members) {key : String}
    {value : Value} : Value.member? members key = some value ↔ (key, value) ∈ members := by
  refine ⟨mem_of_member?, fun inside => ?_⟩
  cases found : Value.member? members key with
  | none =>
      have absent := List.find?_eq_none.mp (Option.map_eq_none_iff.mp found)
      exact absurd (beq_self_eq_true key) (absent _ inside)
  | some other => rw [functional (mem_of_member? found) inside]

/-- The order of members does not matter if each key has one value. -/
theorem member?_orderMembers_iff {members : Members} (functional : Functional members)
    {key : String} {value : Value} :
    Value.member? (orderMembers members) key = some value ↔ (key, value) ∈ members := by
  induction members using List.reverseRecOn with
  | nil => exact member?_eq_some_iff functional
  | append_singleton earlier last ih =>
      obtain ⟨name, held⟩ := last
      rw [orderMembers, List.foldl_append]
      change Value.member? (insertMember name held (orderMembers earlier)) key = some value ↔ _
      rw [member?_insertMember]
      by_cases here : name = key
      · subst here
        rw [if_pos rfl, Option.some.injEq]
        refine ⟨fun same => by simp [same], fun inside => ?_⟩
        exact functional (List.mem_append_right _ (List.mem_singleton_self _)) inside
      · rw [if_neg here, ih fun _ _ _ one other =>
          functional (List.mem_append_left _ one) (List.mem_append_left _ other)]
        simp [Ne.symm here]

end lookup

section order

variable {members : Members}

theorem functional_of_nodup (distinct : (members.map Prod.fst).Nodup) : Functional members := by
  intro key first second one other
  have same := List.inj_on_of_nodup_map distinct one other rfl
  exact congrArg Prod.snd same

theorem member?_orderMembers (functional : Functional members) (key : String) :
    Value.member? (orderMembers members) key = Value.member? members key :=
  Option.ext fun _ =>
    (member?_orderMembers_iff functional).trans (member?_eq_some_iff functional).symm

/-- A record may be given with its members in order. -/
theorem slot_ofMembers (functional : Functional members) (index : Nat) (key : String) :
    slot (.ofMembers members) index key = slot (.object members) index key := by
  simp only [slot, Value.ofMembers, member?_orderMembers functional]

end order

section rereading

/-- A value that stands alone: a text, a flag or a count. -/
inductive Value.Plain : Value → Prop
  | string (text : String) : Plain (.string text)
  | bool (value : Bool) : Plain (.bool value)
  | count {value : Nat} (small : value < 2 ^ 64) : Plain (.ofNat value)

theorem Value.Plain.within {value : Value} (plain : value.Plain) {limit : Nat} :
    value.Within limit := by
  cases plain with
  | string text => exact .string text
  | bool value => exact .bool value
  | count small => exact .ofNat small

/-- Such a value is read as it is. -/
theorem Value.Plain.eq_of_readAs {value read : Value} (plain : value.Plain)
    (same : value.ReadAs read) : read = value := by
  cases plain with
  | string text =>
      cases same
      rfl
  | bool value =>
      cases same
      rfl
  | count small =>
      cases same with
      | number same => rw [Value.ofNat, same _ rfl]

theorem plain_optionalMember {key : String} {value? : Option String} :
    ∀ member ∈ optionalMember key (value?.map .string), member.2.Plain := by
  cases value? with
  | none => simp [optionalMember]
  | some text => simpa [optionalMember] using Value.Plain.string text

theorem MembersReadAs.eq_of_plain {members read : Members} (all : MembersReadAs members read)
    (plain : ∀ member ∈ members, member.2.Plain) : read = members := by
  induction members generalizing read with
  | nil =>
      cases all
      rfl
  | cons member members ih =>
      cases all with
      | cons key same rest =>
          rw [(plain _ List.mem_cons_self).eq_of_readAs same,
            ih rest fun other inside => plain other (List.mem_cons_of_mem _ inside)]

/-- An object of such values, each under a key of its own. -/
structure Value.Flat (value : Value) : Prop where
  members : ∃ members, value = .object members ∧ (members.map Prod.fst).Nodup ∧
    ∀ member ∈ members, member.2.Plain

theorem Value.Flat.within {value : Value} (flat : value.Flat) : value.Within 1 := by
  obtain ⟨members, rfl, -, plain⟩ := flat.members
  exact .object fun member inside => (plain member inside).within

/-- What is read for such an object has the same fields. -/
theorem Value.Flat.slot_eq {value read : Value} (flat : value.Flat) (same : value.ReadAs read)
    (index : Nat) (key : String) : slot read index key = slot value index key := by
  obtain ⟨members, rfl, distinct, plain⟩ := flat.members
  cases same with
  | object all =>
      rw [all.eq_of_plain plain]
      exact slot_ofMembers (functional_of_nodup distinct) index key

end rereading

end DatasetService.Json
