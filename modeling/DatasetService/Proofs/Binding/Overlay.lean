import DatasetService.Proofs.Binding.Stages
import Mathlib

set_option autoImplicit false

/- What of a request counts. A field sees one value of those that a request carries under its
name, and binding sees no more of the query and the body than these values. -/
namespace DatasetService.Binding

/-- The last value under a name that counts. -/
def LastUnder {α : Type} (name : String) (counts : α → Bool) (pairs : List (String × α))
    (value : α) : Prop :=
  ∃ before after : List (String × α), pairs = before ++ (name, value) :: after ∧
    counts value = true ∧ ∀ pair ∈ after, pair.1 = name → counts pair.2 = false

/-- Nothing under a name counts. -/
def SilentUnder {α : Type} (name : String) (counts : α → Bool) (pairs : List (String × α)) : Prop :=
  ∀ pair ∈ pairs, pair.1 = name → counts pair.2 = false

/-- What a request gives under a name: the last value of the body that is not null, or else the
last text of the query, or else nothing. -/
inductive RawInput.Gives (input : RawInput) (name : String) : Option RawValue → Prop
  | body {value : RawValue} (last : LastUnder name (!·.isNull) input.body value) :
      Gives input name (some value)
  | query {text : String} (silent : SilentUnder name (!·.isNull) input.body)
      (last : LastUnder name (fun _ => true) input.query text) :
      Gives input name (some (.text text))
  | nothing (silent : SilentUnder name (!·.isNull) input.body)
      (absent : SilentUnder name (fun _ => true) input.query) : Gives input name none

section last

variable {α : Type} {name : String}

theorem lastNamed_append (before after : List (String × α)) :
    lastNamed name (before ++ after) = (lastNamed name after).or (lastNamed name before) := by
  unfold lastNamed
  rw [List.reverse_append, List.find?_append]
  cases after.reverse.find? fun pair => pair.1 == name <;> rfl

theorem lastNamed_cons (pair : String × α) (after : List (String × α)) :
    lastNamed name (pair :: after) =
      (lastNamed name after).or (if pair.1 = name then some pair.2 else none) := by
  rw [← List.singleton_append, lastNamed_append]
  congr 1
  by_cases same : pair.1 = name <;> simp [lastNamed, same]

theorem lastNamed_eq_none_iff (pairs : List (String × α)) :
    lastNamed name pairs = none ↔ ∀ pair ∈ pairs, pair.1 ≠ name := by
  simp [lastNamed]

/-- A name under which nothing stands does not matter to what stands before and after. -/
theorem lastNamed_insert {pair : String × α} (other : pair.1 ≠ name)
    (before after : List (String × α)) :
    lastNamed name (before ++ pair :: after) = lastNamed name (before ++ after) := by
  rw [lastNamed_append, lastNamed_append, lastNamed_cons, if_neg other, Option.or_none]

/-- What stands before another value under the same name does not matter. -/
theorem lastNamed_overridden {pair : String × α} {before after : List (String × α)}
    (overridden : lastNamed name after ≠ none) :
    lastNamed name (before ++ pair :: after) = lastNamed name (before ++ after) := by
  obtain ⟨value, last⟩ := Option.ne_none_iff_exists'.mp overridden
  rw [lastNamed_append, lastNamed_append, lastNamed_cons, last]
  rfl

theorem lastNamed_swap {first second : String × α} (distinct : first.1 ≠ second.1)
    (before after : List (String × α)) :
    lastNamed name (before ++ first :: second :: after) =
      lastNamed name (before ++ second :: first :: after) := by
  by_cases named : first.1 = name
  · have other : second.1 ≠ name := fun same => distinct (named.trans same.symm)
    rw [← List.singleton_append, ← List.append_assoc, lastNamed_insert other,
      lastNamed_insert other, List.append_assoc, List.singleton_append]
  · have shown := lastNamed_insert named before (second :: after)
    have hidden := lastNamed_insert named (before ++ [second]) after
    simp only [List.append_assoc, List.singleton_append] at hidden
    rw [shown, hidden]

variable (counts : α → Bool) (pairs : List (String × α))

theorem lastNamed_filter_eq_some_iff (value : α) :
    lastNamed name (pairs.filter fun pair => counts pair.2) = some value ↔
      LastUnder name counts pairs value := by
  unfold lastNamed LastUnder
  rw [← List.filter_reverse, List.find?_filter, Option.map_eq_some_iff]
  constructor
  · rintro ⟨⟨same, found⟩, first, rfl⟩
    obtain ⟨named, after, before, parts, rest⟩ := List.find?_eq_some_iff_append.mp first
    obtain ⟨counted, rfl⟩ : counts found = true ∧ same = name := by simpa using named
    refine ⟨before.reverse, after.reverse, ?_, counted, fun pair member same => ?_⟩
    · rw [← List.reverse_reverse pairs, parts]
      simp
    · simpa [same] using rest pair (List.mem_reverse.mp member)
  · rintro ⟨before, after, rfl, counted, rest⟩
    refine ⟨(name, value), List.find?_eq_some_iff_append.mpr ⟨by simp [counted], ?_⟩, rfl⟩
    refine ⟨after.reverse, before.reverse, by simp, fun pair member => ?_⟩
    by_cases same : pair.1 = name
    · simp [rest pair (List.mem_reverse.mp member) same]
    · simp [same]

theorem lastNamed_filter_eq_none_iff :
    lastNamed name (pairs.filter fun pair => counts pair.2) = none ↔
      SilentUnder name counts pairs := by
  rw [lastNamed_eq_none_iff]
  constructor
  · intro absent pair member same
    by_contra counted
    exact absent pair (List.mem_filter.mpr ⟨member, by simpa using counted⟩) same
  · intro silent pair member same
    obtain ⟨member, counted⟩ := List.mem_filter.mp member
    rw [silent pair member same] at counted
    cases counted

end last

/-- What a request gives is what is bound for it, so it gives one thing under each name. -/
theorem RawInput.gives_iff (input : RawInput) (name : String) (value : Option RawValue) :
    input.Gives name value ↔ input.effective name = value := by
  have whole : input.query.filter (fun _ => true) = input.query := List.filter_true _
  constructor
  · rintro (last | ⟨silent, last⟩ | ⟨silent, absent⟩)
    · rw [effective, (lastNamed_filter_eq_some_iff _ _ _).mpr last]
      rfl
    · have text := (lastNamed_filter_eq_some_iff _ _ _).mpr last
      rw [whole] at text
      rw [effective, (lastNamed_filter_eq_none_iff _ _).mpr silent, text]
      rfl
    · have none := (lastNamed_filter_eq_none_iff _ _).mpr absent
      rw [whole] at none
      rw [effective, (lastNamed_filter_eq_none_iff _ _).mpr silent, none]
      rfl
  · rintro rfl
    unfold effective
    cases given : lastNamed name (input.body.filter fun pair => !pair.2.isNull) with
    | some value => exact .body ((lastNamed_filter_eq_some_iff _ _ _).mp given)
    | none =>
        have silent :=
          (lastNamed_filter_eq_none_iff (fun value : RawValue => !value.isNull) _).mp given
        rw [Option.none_or]
        cases asked : lastNamed name input.query with
        | some text =>
            rw [← whole] at asked
            exact .query silent ((lastNamed_filter_eq_some_iff _ _ _).mp asked)
        | none =>
            rw [← whole] at asked
            exact .nothing silent ((lastNamed_filter_eq_none_iff _ _).mp asked)

/-- Values that a field does not tell apart: a field other than a file takes a text and the JSON
string of it alike. -/
inductive Alike (kind : FieldKind) : Option RawValue → Option RawValue → Prop
  | same (value : Option RawValue) : Alike kind value value
  | quoted (text : String) (other : kind ≠ .file) :
      Alike kind (some (.text text)) (some (.json (.string text)))
  | unquoted (text : String) (other : kind ≠ .file) :
      Alike kind (some (.json (.string text))) (some (.text text))

/-- Two requests that give alike values for the fields of a shape. -/
structure GivesAlike (shape : ParamShape) (first second : RawInput) : Prop where
  reference : first.reference = second.reference
  owner : first.owner = second.owner
  accept : first.accept = second.accept
  values : ∀ field ∈ shape.manifest, ∃ left right, first.Gives field.name left ∧
    second.Gives field.name right ∧ Alike field.kind left right

section alike

variable {kind : FieldKind} {left right : Option RawValue} (alike : Alike kind left right)
include alike

theorem Alike.readings (name : String) :
    whenGiven left (asText name) = whenGiven right (asText name) ∧
      whenGiven left (asFlag name) = whenGiven right (asFlag name) ∧
      whenGiven left (asInteger name) = whenGiven right (asInteger name) := by
  cases alike with
  | same => exact ⟨rfl, rfl, rfl⟩
  | quoted text => exact ⟨rfl, rfl, rfl⟩
  | unquoted text => exact ⟨rfl, rfl, rfl⟩

theorem Alike.fieldValue {field : FieldSpec} (same : field.kind = kind) :
    fieldValue field left = fieldValue field right := by
  subst same
  by_cases file : field.kind = .file
  · cases alike with
    | same => rfl
    | quoted text other => exact absurd file other
    | unquoted text other => exact absurd file other
  · obtain ⟨text, flag, integer⟩ := alike.readings field.name
    unfold Binding.fieldValue
    split
    · rw [integer]
    · rw [integer]
    · rw [text]
    · rw [flag]
    · rename_i isFile
      exact absurd isFile file
    · rfl
    · rfl

end alike

section congruence

variable {shape : ParamShape} {first second : RawInput}

theorem GivesAlike.effective (alike : GivesAlike shape first second) {field : FieldSpec}
    (member : field ∈ shape.manifest) :
    Alike field.kind (first.effective field.name) (second.effective field.name) := by
  obtain ⟨left, right, one, other, values⟩ := alike.values field member
  rwa [(first.gives_iff _ _).mp one, (second.gives_iff _ _).mp other]

theorem GivesAlike.bindField (alike : GivesAlike shape first second) {field : FieldSpec}
    (member : field ∈ shape.manifest) (progress : Progress shape) :
    bindField shape first progress field = bindField shape second progress field := by
  have values := alike.effective member
  unfold Binding.bindField
  dsimp only
  split
  · rfl
  · have text := (values.readings field.name).1
    rw [text, alike.accept]
  · rw [values.fieldValue rfl]

/-- Each field sees alike values, so they are filled alike in turn. -/
theorem GivesAlike.bindFields (alike : GivesAlike shape first second) (fields : List FieldSpec)
    (members : ∀ field ∈ fields, field ∈ shape.manifest) (progress : Progress shape) :
    bindFields shape first fields progress = bindFields shape second fields progress := by
  induction fields generalizing progress with
  | nil => rfl
  | cons field fields ih =>
      have later := fun other member => members other (List.mem_cons_of_mem field member)
      unfold Binding.bindFields
      rw [alike.bindField (members field List.mem_cons_self) progress]
      exact bind_congr fun next => ih later next

theorem GivesAlike.readReference (alike : GivesAlike shape first second) :
    readReference shape first = readReference shape second := by
  unfold Binding.readReference
  cases has : shape.referenceField? with
  | none => rfl
  | some field =>
      have member := List.mem_of_find?_eq_some has
      have text := ((alike.effective member).readings field.name).1
      dsimp only
      unfold parseReference referenceText
      rw [alike.reference, alike.owner, text]

theorem GivesAlike.bind (alike : GivesAlike shape first second) :
    bind shape first = bind shape second := by
  rw [bind_stages, bind_stages, alike.readReference]
  apply bind_congr
  intro reference
  rw [alike.bindFields shape.manifest fun _ member => member]

end congruence

/-- Differences in what a request carries that are none in what it gives to a shape: the order of
neighbours with different names, names that the shape does not have, nulls of the body, values
before another one of the same name, and values of the query where the body gives one. -/
inductive Idle (shape : ParamShape) : RawInput → RawInput → Prop
  | swapQuery (input : RawInput) (before after : List (String × String))
      {left right : String × String} (distinct : left.1 ≠ right.1) :
      Idle shape { input with query := before ++ left :: right :: after }
        { input with query := before ++ right :: left :: after }
  | swapBody (input : RawInput) (before after : List (String × RawValue))
      {left right : String × RawValue} (distinct : left.1 ≠ right.1) :
      Idle shape { input with body := before ++ left :: right :: after }
        { input with body := before ++ right :: left :: after }
  | dropQuery (input : RawInput) (before after : List (String × String)) {pair : String × String}
      (idle : (∀ field ∈ shape.manifest, field.name ≠ pair.1) ∨
        (∃ later ∈ after, later.1 = pair.1) ∨
        ∃ given ∈ input.body, given.1 = pair.1 ∧ given.2.isNull = false) :
      Idle shape { input with query := before ++ pair :: after }
        { input with query := before ++ after }
  | dropBody (input : RawInput) (before after : List (String × RawValue))
      {pair : String × RawValue}
      (idle : (∀ field ∈ shape.manifest, field.name ≠ pair.1) ∨ pair.2.isNull = true ∨
        ∃ later ∈ after, later.1 = pair.1 ∧ later.2.isNull = false) :
      Idle shape { input with body := before ++ pair :: after }
        { input with body := before ++ after }

theorem lastNamed_ne_none {α : Type} {name : String} {pairs : List (String × α)}
    {pair : String × α} (member : pair ∈ pairs) (named : pair.1 = name) :
    lastNamed name pairs ≠ none := by
  intro absent
  exact (lastNamed_eq_none_iff pairs).mp absent pair member named

/-- Such a difference is none in what counts for a field. -/
theorem Idle.effective {shape : ParamShape} {first second : RawInput}
    (idle : Idle shape first second) {field : FieldSpec} (member : field ∈ shape.manifest) :
    first.effective field.name = second.effective field.name := by
  unfold RawInput.effective
  cases idle with
  | swapQuery input before after distinct =>
      rw [lastNamed_swap distinct]
  | @swapBody input before after left right distinct =>
      dsimp only
      rw [List.filter_append, List.filter_append, List.filter_cons, List.filter_cons,
        List.filter_cons, List.filter_cons]
      -- Nulls are left out first, so that neighbours change places only where neither is one.
      cases left.2.isNull <;> cases right.2.isNull
      · simp only [Bool.not_false, if_true]
        rw [lastNamed_swap distinct]
      · rfl
      · rfl
      · rfl
  | @dropQuery input before after pair idle =>
      by_cases named : pair.1 = field.name
      · rcases idle with unknown | ⟨later, isLater, same⟩ | ⟨given, isGiven, same, counts⟩
        · exact absurd named.symm (unknown field member)
        · rw [lastNamed_overridden (lastNamed_ne_none isLater (same.trans named))]
        · have inBody : given ∈ input.body.filter fun pair => !pair.2.isNull :=
            List.mem_filter.mpr ⟨isGiven, by simpa using counts⟩
          obtain ⟨value, wins⟩ := Option.ne_none_iff_exists'.mp
            (lastNamed_ne_none inBody (same.trans named))
          dsimp only
          rw [wins]
          rfl
      · rw [lastNamed_insert named]
  | @dropBody input before after pair idle =>
      dsimp only
      rw [List.filter_append, List.filter_append, List.filter_cons]
      cases null : pair.2.isNull with
      | true => rfl
      | false =>
          simp only [Bool.not_false, if_true]
          by_cases named : pair.1 = field.name
          · rcases idle with unknown | isNull | ⟨later, isLater, same, counts⟩
            · exact absurd named.symm (unknown field member)
            · rw [null] at isNull
              cases isNull
            · have counted : later ∈ after.filter fun pair => !pair.2.isNull :=
                List.mem_filter.mpr ⟨isLater, by simpa using counts⟩
              rw [lastNamed_overridden (lastNamed_ne_none counted (same.trans named))]
          · rw [lastNamed_insert named]

theorem GivesAlike.of_idle {shape : ParamShape} {first second : RawInput}
    (idle : Idle shape first second) : GivesAlike shape first second := by
  have paths : first.reference = second.reference ∧ first.owner = second.owner ∧
      first.accept = second.accept := by
    cases idle <;> exact ⟨rfl, rfl, rfl⟩
  refine ⟨paths.1, paths.2.1, paths.2.2, fun field member => ?_⟩
  exact ⟨_, _, (first.gives_iff _ _).mpr rfl, (second.gives_iff _ _).mpr rfl,
    idle.effective member ▸ Alike.same _⟩

/-- The overlay law. Binding does not tell requests apart that give alike values for the fields of
a shape. So differences that are idle never matter, however many there are. -/
theorem bind_overlays (shape : ParamShape) :
    (∀ first second : RawInput, GivesAlike shape first second →
      bind shape first = bind shape second) ∧
    ∀ first second : RawInput, Relation.EqvGen (Idle shape) first second →
      bind shape first = bind shape second := by
  refine ⟨fun first second alike => alike.bind, fun first second idle => ?_⟩
  induction idle with
  | rel first second step => exact (GivesAlike.of_idle step).bind
  | refl => rfl
  | symm first second _ ih => exact ih.symm
  | trans first second third _ _ left right => exact left.trans right

/-- A null of the body leaves the remote that the query names, and nobody asks for a page. -/
def remoteAsked : RawInput :=
  { reference := some "peer/movies", query := [("remote", "archive"), ("page", "2")]
    body := [("remote", .json .null)] }

/-- The body names the same remote, and so that of the query does not count. -/
def remoteSent : RawInput :=
  { reference := some "peer/movies", query := [("remote", "registry")]
    body := [("remote", .json (.string "archive"))] }

theorem givesAlike_remote : GivesAlike .publish remoteAsked remoteSent where
  reference := rfl
  owner := rfl
  accept := rfl
  values := by
    intro field member
    refine ⟨_, _, (remoteAsked.gives_iff _ _).mpr rfl, (remoteSent.gives_iff _ _).mpr rfl, ?_⟩
    have fields : field = referenceField ∨ field = { name := "remote", kind := .text } := by
      simpa [ParamShape.manifest, PublishParams.manifest] using member
    rcases fields with rfl | rfl
    · exact .same none
    · exact .quoted "archive" (by decide)

theorem remote_given_either_way :
    bind .publish remoteAsked = bind .publish remoteSent ∧
    bind .publish remoteAsked =
      bind .publish { remoteAsked with query := [("page", "2"), ("remote", "archive")] } ∧
    bind .publish remoteAsked = .ok
      { reference := { username := "peer", name := "movies" }, remote := some "archive" } :=
  ⟨(bind_overlays .publish).1 _ _ givesAlike_remote,
    (bind_overlays .publish).2 _ _ (.rel _ _ (.swapQuery remoteAsked [] [] (by decide))),
    by decide +kernel⟩

end DatasetService.Binding
