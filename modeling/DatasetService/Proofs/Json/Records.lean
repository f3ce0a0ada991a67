import DatasetService.Json.Form
import DatasetService.Proofs.Json.ReadBack

set_option autoImplicit false

/- Reading records that were written. A record is read as it is, member by member, as long as its
members are among its fields, in their order. -/
namespace DatasetService.Json

open Text (Bytes)

/-- A value is read as it is by a reader that expects it and may go deeper than the limit. -/
def ReadsExactly (limit : Nat) (shape : Shape) (value : Value) : Prop :=
  ∀ fuel depth rest, (Text.encode value.write).length ≤ fuel → limit < depth →
    Text.Halts isNumeral rest →
      readShape fuel depth shape (Text.encode value.write ++ rest) = .ok (value, rest)

variable {limit : Nat}

section scalars

/-- Without a shape, a value is read as any other. -/
theorem readsExactly_any {value : Value} (sound : value.Sound)
    (reads : ∀ fuel depth rest, Text.Halts isNumeral rest →
      readValue .full (fuel + 1) depth (Text.encode value.write ++ rest) = .ok (value, rest)) :
    ReadsExactly limit .any value := by
  intro fuel depth rest enough _ halts
  have positive := write_pos sound
  obtain ⟨fuel, rfl⟩ : ∃ less, fuel = less + 1 := ⟨fuel - 1, by omega⟩
  exact reads _ depth rest halts

theorem readsExactly_null : ReadsExactly limit .any .null :=
  readsExactly_any .null fun _ _ _ _ => rfl

theorem readsExactly_bool (value : Bool) : ReadsExactly limit .any (.bool value) :=
  readsExactly_any (.bool value) fun _ _ _ _ => by cases value <;> rfl

theorem readValue_quote (text : String) (fuel depth : Nat) (rest : Bytes) :
    readValue .full (fuel + 1) depth (Text.encode (quote text) ++ rest) =
      .ok (.string text, rest) := by
  rw [encode_quote, List.append_assoc]
  change (readString .full (Text.encode (text.toList.flatMap escape) ++ 0x22 :: rest)).map _ = _
  rw [readString_quote]
  rfl

theorem readsExactly_string (text : String) : ReadsExactly limit .any (.string text) :=
  readsExactly_any (.string text) fun fuel depth rest _ => readValue_quote text fuel depth rest

/-- A string that may be absent is written as a string or as null. -/
theorem readsExactly_ofOptional (text : Option String) :
    ReadsExactly limit .any (ofOptional text) := by
  cases text with
  | none => exact readsExactly_null
  | some text => exact readsExactly_string text

theorem readsExactly_ofNat {value : Nat} (small : value < 2 ^ 64) :
    ReadsExactly limit .any (.ofNat value) := by
  have within : Value.Within 0 (.ofNat value) := .ofNat small
  refine readsExactly_any within.sound fun fuel depth rest halts => ?_
  have read : readNumber false (Text.encode (Nat.toDigits 10 value) ++ rest) =
      .ok (.integer value, rest) := by
    rw [readNumber_toDigits false small halts, finishNumber_of_halts false value halts]
    rfl
  have written : (Value.ofNat value).write = Nat.toDigits 10 value := Nat.toList_repr
  obtain ⟨c, more, shape, digit⟩ := toDigits_first value
  obtain ⟨ascii, byte, -⟩ := digit_byte digit
  rw [written]
  rw [shape, Text.encode_cons_ascii ascii, List.cons_append] at read ⊢
  rw [readValue_digit byte, readNumberWith_ok read]
  rfl

theorem asCount?_ofNat {bound value : Nat} (small : value ≤ bound) :
    asCount? bound (.ofNat value) = some value := by
  simp [asCount?, Value.ofNat, small]

/-- A choice that is written as a name is read as one. -/
theorem readsExactly_choice (name : String) : ReadsExactly limit .choice (.string name) := by
  intro fuel depth rest enough _ halts
  have positive := write_pos (.string name)
  obtain ⟨fuel, rfl⟩ : ∃ less, fuel = less + 1 := ⟨fuel - 1, by omega⟩
  rw [← readValue_quote name (2 * (Text.encode (quote name) ++ rest).length + 1) depth rest]
  rw [Value.write, encode_quote]
  rfl

end scalars

section records

/-- A field that stands for a member, and expects its value. -/
def Expects (limit : Nat) (fields : Fields) (member : String × Value) : Prop :=
  ∃ shape, fieldShape? fields member.1 = some shape ∧ ReadsExactly limit shape member.2

/-- The members of a record: a part of its fields, in their order, each read as it is. -/
inductive Fills (limit : Nat) : Fields → Members → Prop
  | nil : Fills limit [] []
  | given (key : String) {shape : Shape} {value : Value} {fields : Fields} {members : Members}
      (exact : ReadsExactly limit shape value) (rest : Fills limit fields members) :
      Fills limit ((key, shape) :: fields) ((key, value) :: members)
  | omitted {field : String × Shape} {fields : Fields} {members : Members}
      (rest : Fills limit fields members) : Fills limit (field :: fields) members

namespace Fills

variable {fields later : Fields} {members more : Members}

/-- A member that may be left out. -/
theorem optional (key : String) {α : Type} {shape : Shape} {encode : α → Value}
    (exact : ∀ value, ReadsExactly limit shape (encode value)) (value? : Option α) :
    Fills limit [(key, shape)] (optionalMember key (value?.map encode)) := by
  cases value? with
  | none => exact .omitted .nil
  | some value => exact .given key (exact value) .nil

theorem append (fills : Fills limit fields members) (others : Fills limit later more) :
    Fills limit (fields ++ later) (members ++ more) := by
  induction fills with
  | nil => exact others
  | given key exact _ ih => exact .given key exact ih
  | omitted _ ih => exact .omitted ih

theorem sublist (fills : Fills limit fields members) :
    (members.map Prod.fst).Sublist (fields.map Prod.fst) := by
  induction fills with
  | nil => exact .slnil
  | given _ _ _ ih => exact ih.cons_cons _
  | omitted _ ih => exact ih.cons _

theorem expects (fills : Fills limit fields members) (distinct : (fields.map Prod.fst).Nodup) :
    ∀ member ∈ members, Expects limit fields member := by
  have skip {field : String × Shape} {fields : Fields} {members : Members}
      (rest : Fills limit fields members) (fresh : field.1 ∉ fields.map Prod.fst)
      (all : ∀ member ∈ members, Expects limit fields member) :
      ∀ member ∈ members, Expects limit (field :: fields) member := by
    intro member inside
    have other : field.1 ≠ member.1 := fun same =>
      fresh (same ▸ rest.sublist.mem (List.mem_map_of_mem inside))
    obtain ⟨shape, known, exact⟩ := all member inside
    refine ⟨shape, ?_, exact⟩
    rw [fieldShape?, List.find?_cons_of_neg (by simpa using other), ← fieldShape?, known]
  induction fills with
  | nil => simp
  | given _ exact rest ih =>
      obtain ⟨fresh, distinct⟩ := List.nodup_cons.mp distinct
      intro member inside
      rcases List.mem_cons.mp inside with rfl | inside
      · exact ⟨_, by simp [fieldShape?], exact⟩
      · exact skip rest fresh (ih distinct) member inside
  | omitted rest ih =>
      obtain ⟨fresh, distinct⟩ := List.nodup_cons.mp distinct
      exact skip rest fresh (ih distinct)

end Fills

variable {fields : Fields} {members : Members} {fuel depth : Nat} {rest : Bytes}

/-- One member, after the quote that opens its key, and those after it. -/
theorem readFields_member {key : String} {value : Value} {seen : List String} {first : Bool}
    {bytes : Bytes} (expected : Expects limit fields (key, value)) (fresh : key ∉ seen)
    (enough : (Text.encode value.write).length ≤ fuel) (deep : limit < depth)
    (turn : nextKey first bytes = .ok (.element (Text.encode (key.toList.flatMap escape) ++
      0x22 :: 0x3A :: (Text.encode value.write ++
        (Text.encode (tailMembers members) ++ 0x7D :: rest)))))
    (later : readFields fuel depth fields (key :: seen) false
      (Text.encode (tailMembers members) ++ 0x7D :: rest) = .ok (members, rest)) :
    readFields (fuel + 1) depth fields seen first bytes = .ok ((key, value) :: members, rest) := by
  obtain ⟨shape, known, exact⟩ := expected
  have colon (after : Bytes) : readColon (0x3A :: after) = .ok ((), after) := rfl
  have unseen : ¬ seen.contains key = true := by simpa using fresh
  rw [readFields, bind_of_eq_ok turn]
  dsimp only
  rw [bind_of_eq_ok (readString_quote key _)]
  dsimp only
  rw [bind_of_eq_ok (colon _)]
  dsimp only at known ⊢
  rw [known]
  dsimp only
  rw [if_neg unseen,
    bind_of_eq_ok (exact fuel depth _ enough deep (halts_tailMembers members rest)),
    bind_of_eq_ok later]
  rfl

theorem readFields_tail (rest : Bytes)
    (expected : ∀ member ∈ members, Expects limit fields member) (deep : limit < depth) :
    ∀ fuel seen, (∀ key ∈ seen, key ∉ members.map Prod.fst) →
      (members.map Prod.fst).Nodup → (Text.encode (tailMembers members)).length < fuel →
      readFields fuel depth fields seen false
        (Text.encode (tailMembers members) ++ 0x7D :: rest) = .ok (members, rest) := by
  induction members with
  | nil =>
      intro fuel seen _ _ enough
      obtain ⟨fuel, rfl⟩ : ∃ less, fuel = less + 1 := ⟨fuel - 1, by omega⟩
      rfl
  | cons member members ih =>
      obtain ⟨key, value⟩ := member
      intro fuel seen fresh distinct enough
      obtain ⟨only, distinct⟩ := List.nodup_cons.mp distinct
      rw [encode_tailMembers_cons, encode_writeMember] at enough ⊢
      simp only [List.length_cons, List.length_append] at enough
      obtain ⟨fuel, rfl⟩ : ∃ less, fuel = less + 1 := ⟨fuel - 1, by omega⟩
      have later := ih (fun other inside => expected other (List.mem_cons_of_mem _ inside)) fuel
        (key :: seen)
        (by
          intro other inside again
          rcases List.mem_cons.mp inside with rfl | inside
          · exact only again
          · exact fresh other inside (List.mem_cons_of_mem _ again))
        distinct (by omega)
      have unseen : key ∉ seen := fun inside => fresh key inside List.mem_cons_self
      refine readFields_member (expected _ List.mem_cons_self) unseen (by omega) deep ?_ later
      simp only [List.cons_append, List.append_assoc]
      rfl

theorem readFields_members (expected : ∀ member ∈ members, Expects limit fields member)
    (distinct : (members.map Prod.fst).Nodup) (deep : limit < depth)
    (enough : (Text.encode (writeMembers members)).length < fuel) :
    readFields fuel depth fields [] true (Text.encode (writeMembers members) ++ 0x7D :: rest) =
      .ok (members, rest) := by
  obtain ⟨fuel, rfl⟩ : ∃ less, fuel = less + 1 := ⟨fuel - 1, by omega⟩
  cases members with
  | nil => rfl
  | cons member members =>
      obtain ⟨key, value⟩ := member
      obtain ⟨only, distinct⟩ := List.nodup_cons.mp distinct
      rw [writeMembers_cons, Text.encode_append, encode_writeMember] at enough ⊢
      simp only [List.length_cons, List.length_append] at enough
      have later := readFields_tail rest
        (fun other inside => expected other (List.mem_cons_of_mem _ inside)) deep fuel [key]
        (fun other inside => List.mem_singleton.mp inside ▸ only) distinct (by omega)
      refine readFields_member (expected _ List.mem_cons_self) List.not_mem_nil (by omega) deep
        ?_ later
      simp only [List.cons_append, List.append_assoc]
      rfl

/-- A record whose members fill its fields is read as it is, one level deeper than they are. -/
theorem readsExactly_record (fills : Fills limit fields members)
    (distinct : (fields.map Prod.fst).Nodup) :
    ReadsExactly (limit + 1) (.record fields) (.object members) := by
  intro fuel depth rest enough deep _
  rw [encode_object] at enough ⊢
  rw [List.length_cons, List.length_append, List.length_singleton] at enough
  obtain ⟨fuel, rfl⟩ : ∃ less, fuel = less + 1 := ⟨fuel - 1, by omega⟩
  obtain ⟨depth, rfl⟩ : ∃ less, depth = less + 2 := ⟨depth - 2, by omega⟩
  have opened (after : Bytes) : readShape (fuel + 1) (depth + 2) (.record fields) (0x7B :: after) =
      (readFields fuel (depth + 1) fields [] true after).map
        fun found => (.object found.1, found.2) := by
    rfl
  rw [List.cons_append, List.append_assoc, opened]
  exact congrArg (Except.map _) (readFields_members (fills.expects distinct)
    (fills.sublist.nodup distinct) (by omega) (by omega))

end records

section forms

theorem parseShape_compact {shape : Shape} {value : Value} (exact : ReadsExactly limit shape value)
    (deep : limit < depthLimit) : parseShape shape (Text.bytesOf value.compact) = .ok value := by
  have read := exact (2 * (Text.encode value.write).length + 2) depthLimit [] (by omega) deep
    (Text.halts_nil _)
  rw [List.append_nil] at read
  rw [parseShape, readAll, bytesOf_compact, read]
  rfl

/-- What is written in a form is read as the value that was written, if the form loses nothing of
the value and its text has the shape that the form expects. -/
theorem Form.read?_write {α : Type} {form : Form α} {value : α}
    (exact : ReadsExactly limit form.shape (form.encode value)) (deep : limit < depthLimit)
    (kept : form.decode (form.encode value) = some value) :
    form.read? (form.write value) = some value := by
  rw [read?, write, parseShape_compact exact deep]
  exact kept

end forms

end DatasetService.Json
