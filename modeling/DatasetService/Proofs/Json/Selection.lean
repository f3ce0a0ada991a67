import DatasetService.Json.Select
import DatasetService.Proofs.Text.Runs

set_option autoImplicit false

/- Selectors that go on from where another one leads. The segments of a selector are those of
its parts, whichever separator stands between them, and a value is walked one segment at a
time: into a member of an object by its key, and to an item of an array by its index. -/
namespace DatasetService.Json

/-- A segment names a part of a value. In an object it is a key, also where it is a number. -/
inductive Value.Holds : Value → List Char → Value → Prop
  | member (members : Members) (segment : List Char) (part : Value)
      (found : Value.member? members (String.ofList segment) = some part) :
      Value.Holds (.object members) segment part
  | item (items : List Value) (segment : List Char) (index : Nat) (part : Value)
      (counts : Literal.count? segment = some index) (found : items[index]? = some part) :
      Value.Holds (.array items) segment part

/-- Segments lead from a value to a part of it, each into what the last one named. -/
inductive Value.Leads : Value → List (List Char) → Value → Prop
  | here (value : Value) : Value.Leads value [] value
  | inside (value next part : Value) (segment : List Char) (segments : List (List Char))
      (holds : Value.Holds value segment next) (leads : Value.Leads next segments part) :
      Value.Leads value (segment :: segments) part

/-- The text of a selector: its segments, which may be empty, and one separator of either kind
between each two of them. -/
inductive Segmented : List (List Char) → List Char → Prop
  | single (segment : List Char) (free : ∀ c ∈ segment, isSelectorSeparator c = false) :
      Segmented [segment] segment
  | nested (segment : List Char) (free : ∀ c ∈ segment, isSelectorSeparator c = false)
      (separator : Char) (separates : isSelectorSeparator separator = true)
      (segments : List (List Char)) (text : List Char) (segmented : Segmented segments text) :
      Segmented (segment :: segments) (segment ++ separator :: text)

theorem Value.child?_eq_some_iff (value : Value) (segment : List Char) (part : Value) :
    value.child? segment = some part ↔ Value.Holds value segment part := by
  constructor
  · intro found
    cases value with
    | object members => exact .member members segment part found
    | array items =>
        simp only [Value.child?, Option.bind_eq_some_iff] at found
        obtain ⟨index, counts, item⟩ := found
        exact .item items segment index part counts item
    | null => cases found
    | bool flag => cases found
    | number number => cases found
    | string text => cases found
  · intro holds
    cases holds with
    | member members _ _ found => exact found
    | item items _ index _ counts found =>
        simp only [Value.child?, counts, Option.bind_some, found]

@[simp] theorem Value.follow?_nil (value : Value) : value.follow? [] = some value := rfl

@[simp] theorem Value.follow?_cons (value : Value) (segment : List Char)
    (segments : List (List Char)) :
    value.follow? (segment :: segments) =
      (value.child? segment).bind fun child => child.follow? segments := rfl

theorem Value.follow?_append (value : Value) (first second : List (List Char)) :
    value.follow? (first ++ second) =
      (value.follow? first).bind fun part => part.follow? second := by
  induction first generalizing value with
  | nil => rfl
  | cons segment segments ih =>
      simp only [List.cons_append, Value.follow?_cons, ih, Option.bind_assoc]

theorem Value.follow?_eq_some_iff (value : Value) (segments : List (List Char)) (part : Value) :
    value.follow? segments = some part ↔ Value.Leads value segments part := by
  induction segments generalizing value with
  | nil =>
      constructor
      · intro found
        cases found
        exact .here part
      · intro leads
        cases leads
        rfl
  | cons segment segments ih =>
      simp only [Value.follow?_cons, Option.bind_eq_some_iff, ih, Value.child?_eq_some_iff]
      constructor
      · intro found
        obtain ⟨next, holds, leads⟩ := found
        exact .inside value next part segment segments holds leads
      · intro leads
        cases leads with
        | inside _ next _ _ _ holds leads => exact ⟨next, holds, leads⟩

theorem splitWhere_of_segmented {segments : List (List Char)} {text : List Char}
    (segmented : Segmented segments text) :
    Text.splitWhere isSelectorSeparator text = segments := by
  induction segmented with
  | single segment free => exact Text.splitWhere_of_none isSelectorSeparator segment free
  | nested segment free separator separates segments text _ ih =>
      rw [Text.splitWhere_piece isSelectorSeparator segment separator text free separates, ih]

/-- Every text has the segments that it is cut into: a character that is no separator goes
in front of the first of them. -/
theorem segmented_splitWhere (text : List Char) :
    Segmented (Text.splitWhere isSelectorSeparator text) text := by
  induction text with
  | nil => exact .single [] (List.forall_mem_nil _)
  | cons c rest ih =>
      by_cases separates : isSelectorSeparator c = true
      · rw [Text.splitWhere, if_pos separates]
        exact .nested [] (List.forall_mem_nil _) c separates _ rest ih
      · have plain : isSelectorSeparator c = false := by simpa using separates
        rw [Text.splitWhere, if_neg separates]
        generalize Text.splitWhere isSelectorSeparator rest = pieces at ih
        cases ih with
        | single _ free =>
            show Segmented [c :: rest] (c :: rest)
            exact .single (c :: rest) (List.forall_mem_cons.mpr ⟨plain, free⟩)
        | nested segment free separator separates segments text segmented =>
            exact .nested (c :: segment) (List.forall_mem_cons.mpr ⟨plain, free⟩) separator
              separates segments text segmented

/-- A selector reaches what the segments of its text lead to. -/
theorem Value.select?_eq_some_iff (value : Value) (selector : String) (part : Value) :
    value.select? selector = some part ↔
      ∃ segments, Segmented segments selector.toList ∧ Value.Leads value segments part := by
  rw [Value.select?, Value.follow?_eq_some_iff]
  constructor
  · intro leads
    exact ⟨_, segmented_splitWhere selector.toList, leads⟩
  · intro reached
    obtain ⟨segments, segmented, leads⟩ := reached
    rw [splitWhere_of_segmented segmented]
    exact leads

theorem Value.select?_append (value : Value) (first second : String) (separator : Char)
    (separates : isSelectorSeparator separator = true) :
    value.select? (first ++ separator.toString ++ second) =
      (value.select? first).bind fun part => part.select? second := by
  have text : (first ++ separator.toString ++ second).toList =
      first.toList ++ separator :: second.toList := by simp
  simp only [Value.select?, text,
    Text.splitWhere_append isSelectorSeparator first.toList separator _ separates,
    Value.follow?_append]

/-- A selector behind another selector goes on in the part that the first one reaches, and
reaches nothing where either of them fails. Each segment leads one step into objects and arrays. -/
theorem Value.select?_nested (value : Value) (first second : String) (separator : Char)
    (either : separator = '/' ∨ separator = '.') :
    value.select? (first ++ separator.toString ++ second) =
        (value.select? first).bind (fun part => part.select? second) ∧
      ∀ selector part, value.select? selector = some part ↔
        ∃ segments, Segmented segments selector.toList ∧ Value.Leads value segments part := by
  have separates : isSelectorSeparator separator = true := by
    rcases either with rfl | rfl
    · rfl
    · rfl
  constructor
  · exact Value.select?_append value first second separator separates
  · exact Value.select?_eq_some_iff value

/-- A table whose only row is an object with a number for a key. -/
def keyedRows : Value :=
  .object [("body", .array [.object [("0", .array [.null, .string "deep"])]])]

theorem Value.select?_nested_keyedRows :
    ('.' = '/' ∨ '.' = '.') ∧
      keyedRows.select? "body/0.0/1" =
        (keyedRows.select? "body/0").bind (fun part => part.select? "0/1") ∧
      (∃ segments, Segmented segments "body/0.0/1".toList ∧
        Value.Leads keyedRows segments (.string "deep")) ∧
      ¬ ∃ segments part, Segmented segments "body/0.0/1/2".toList ∧
        Value.Leads keyedRows segments part := by
  have dot : '.' = '/' ∨ '.' = '.' := by decide
  have nested := Value.select?_nested keyedRows "body/0" "0/1" '.' dot
  have longer := nested.2 "body/0.0/1/2"
  refine ⟨dot, nested.1, (nested.2 _ _).mp (by rfl), fun reached => ?_⟩
  obtain ⟨segments, part, segmented, leads⟩ := reached
  have found := (longer part).mpr ⟨segments, segmented, leads⟩
  have missing : keyedRows.select? "body/0.0/1/2" = none := by rfl
  rw [missing] at found
  cases found

end DatasetService.Json
