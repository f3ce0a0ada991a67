import DatasetService.Json.Parser
import DatasetService.Proofs.Except
import DatasetService.Proofs.Json.Numeral

set_option autoImplicit false

/- How deep lists and objects stand inside each other. What a reader gives is sound, and no deeper
than the reader goes. -/
namespace DatasetService.Json

open Text (Bytes)

mutual

/-- How many lists and objects stand around the innermost value, at most. -/
def Value.depth : Value → Nat
  | .null => 0
  | .bool _ => 0
  | .number _ => 0
  | .string _ => 0
  | .array items => depthOfItems items + 1
  | .object members => depthOfMembers members + 1

def depthOfItems : List Value → Nat
  | [] => 0
  | item :: items => max item.depth (depthOfItems items)

def depthOfMembers : List (String × Value) → Nat
  | [] => 0
  | (_, value) :: members => max value.depth (depthOfMembers members)

end

/-- A value all of whose numbers are sound. -/
inductive Value.Sound : Value → Prop
  | null : Sound .null
  | bool (value : Bool) : Sound (.bool value)
  | number {value : Number} (sound : value.Sound) : Sound (.number value)
  | string (value : String) : Sound (.string value)
  | array {items : List Value} (all : ∀ item ∈ items, Sound item) : Sound (.array items)
  | object {members : Members} (all : ∀ member ∈ members, Sound member.2) :
      Sound (.object members)

theorem depthOfItems_le_iff {items : List Value} {bound : Nat} :
    depthOfItems items ≤ bound ↔ ∀ item ∈ items, item.depth ≤ bound := by
  induction items with
  | nil => simp [depthOfItems]
  | cons item items ih => simp [depthOfItems, ih]

theorem depthOfMembers_le_iff {members : Members} {bound : Nat} :
    depthOfMembers members ≤ bound ↔ ∀ member ∈ members, member.2.depth ≤ bound := by
  induction members with
  | nil => simp [depthOfMembers]
  | cons member members ih =>
      obtain ⟨key, value⟩ := member
      simp [depthOfMembers, ih]

theorem depth_array_le_iff {items : List Value} {bound : Nat} :
    (Value.array items).depth ≤ bound + 1 ↔ ∀ item ∈ items, item.depth ≤ bound := by
  rw [Value.depth, Nat.add_le_add_iff_right, depthOfItems_le_iff]

theorem depth_object_le_iff {members : Members} {bound : Nat} :
    (Value.object members).depth ≤ bound + 1 ↔ ∀ member ∈ members, member.2.depth ≤ bound := by
  rw [Value.depth, Nat.add_le_add_iff_right, depthOfMembers_le_iff]

section members

theorem mem_of_mem_insertMember {key : String} {value : Value} {members : Members}
    {member : String × Value} (inside : member ∈ insertMember key value members) :
    member = (key, value) ∨ member ∈ members := by
  induction members with
  | nil => exact Or.inl (List.mem_singleton.mp inside)
  | cons first rest ih =>
      obtain ⟨other, old⟩ := first
      unfold insertMember at inside
      split at inside
      · rcases List.mem_cons.mp inside with new | later
        · exact Or.inl new
        · exact Or.inr (List.mem_cons_of_mem _ later)
      · split at inside
        · exact List.mem_cons.mp inside
        · rcases List.mem_cons.mp inside with old | later
          · exact Or.inr (old ▸ List.mem_cons_self)
          · exact (ih later).imp_right (List.mem_cons_of_mem _)

/-- Ordering members adds none. -/
theorem mem_of_mem_orderMembers {members : Members} {member : String × Value}
    (inside : member ∈ orderMembers members) : member ∈ members := by
  suffices known : ∀ ordered : Members,
      member ∈ members.foldl (fun ordered member => insertMember member.1 member.2 ordered)
          ordered →
        member ∈ ordered ∨ member ∈ members from (known [] inside).resolve_left List.not_mem_nil
  clear inside
  induction members with
  | nil => exact fun _ => Or.inl
  | cons first rest ih =>
      intro ordered inside
      rcases ih _ inside with earlier | later
      · rcases mem_of_mem_insertMember earlier with rfl | old
        · exact Or.inr List.mem_cons_self
        · exact Or.inl old
      · exact Or.inr (List.mem_cons_of_mem _ later)

end members

/-- A sound value that is not too deep. -/
structure Value.Within (limit : Nat) (value : Value) : Prop where
  sound : value.Sound
  depth : value.depth ≤ limit

namespace Value.Within

variable {limit : Nat}

theorem null : Within limit .null := ⟨.null, Nat.zero_le _⟩

theorem bool (value : Bool) : Within limit (.bool value) := ⟨.bool value, Nat.zero_le _⟩

theorem number {value : Number} (sound : value.Sound) : Within limit (.number value) :=
  ⟨.number sound, Nat.zero_le _⟩

theorem ofNat {value : Nat} (small : value < 2 ^ 64) : Within limit (.ofNat value) :=
  number ⟨(by decide : -(2 ^ 63 : Int) ≤ 0).trans (Int.natCast_nonneg value),
    Int.ofNat_lt.mpr small⟩

theorem string (value : String) : Within limit (.string value) := ⟨.string value, Nat.zero_le _⟩

theorem array {items : List Value} (all : ∀ item ∈ items, Within limit item) :
    Within (limit + 1) (.array items) :=
  ⟨.array fun item member => (all item member).sound,
    depth_array_le_iff.mpr fun item member => (all item member).depth⟩

theorem object {members : Members} (all : ∀ member ∈ members, Within limit member.2) :
    Within (limit + 1) (.object members) :=
  ⟨.object fun member inside => (all member inside).sound,
    depth_object_le_iff.mpr fun member inside => (all member inside).depth⟩

theorem ofMembers {members : Members} (all : ∀ member ∈ members, Within limit member.2) :
    Within (limit + 1) (Value.ofMembers members) :=
  object fun member inside => all member (mem_of_mem_orderMembers inside)

theorem mono {value : Value} {more : Nat} (within : Within limit value) (le : limit ≤ more) :
    Within more value :=
  ⟨within.sound, within.depth.trans le⟩

theorem item {items : List Value} (within : Within (limit + 1) (.array items)) {item : Value}
    (inside : item ∈ items) : Within limit item := by
  obtain ⟨sound, depth⟩ := within
  cases sound with
  | array all => exact ⟨all item inside, depth_array_le_iff.mp depth item inside⟩

theorem member {members : Members} (within : Within (limit + 1) (.object members))
    {member : String × Value} (inside : member ∈ members) : Within limit member.2 := by
  obtain ⟨sound, depth⟩ := within
  cases sound with
  | object all => exact ⟨all member inside, depth_object_le_iff.mp depth member inside⟩

end Value.Within

section readers

theorem within_readWord {limit : Nat} {value read : Value} {letters : List Char}
    {bytes rest : Bytes} (within : value.Within limit)
    (found : readWord value letters bytes = .ok (read, rest)) :
    read.Within limit := by
  induction letters generalizing bytes with
  | nil =>
      cases found
      exact within
  | cons letter letters ih =>
      cases bytes with
      | nil => cases found
      | cons byte bytes =>
          unfold readWord at found
          split at found
          · exact ih found
          · cases found

theorem within_readNumberWith {limit : Nat} {negative : Bool} {read : Value} {bytes rest : Bytes}
    (found : readNumberWith .full negative bytes = .ok (read, rest)) : read.Within limit := by
  unfold readNumberWith at found
  split at found
  · rename_i number others same
    cases found
    exact .number (sounds_readNumber negative bytes number _ same)
  · rename_i impossible _
    cases impossible
  · cases found

/-- A reader of values, and of what stands in lists and objects, goes no deeper than it may. -/
structure Bounded (fuel : Nat) : Prop where
  value : ∀ depth bytes read rest, readValue .full fuel depth bytes = .ok (read, rest) →
    read.Within (depth - 1)
  items : ∀ depth first bytes items rest,
    readItems .full fuel depth first bytes = .ok (items, rest) →
      ∀ item ∈ items, item.Within (depth - 1)
  members : ∀ depth first bytes members rest,
    readMembers .full fuel depth first bytes = .ok (members, rest) →
      ∀ member ∈ members, member.2.Within (depth - 1)

theorem bounded_value {fuel : Nat} (bounded : Bounded fuel) {depth : Nat} {bytes rest : Bytes}
    {read : Value} (found : readValue .full (fuel + 1) depth bytes = .ok (read, rest)) :
    read.Within (depth - 1) := by
  unfold readValue at found
  split at found
  · cases found
  · rename_i byte more _
    split at found
    · exact within_readWord .null found
    split at found
    · exact within_readWord (.bool true) found
    split at found
    · exact within_readWord (.bool false) found
    split at found
    · exact within_readNumberWith found
    split at found
    · exact within_readNumberWith found
    split at found
    · cases text : readString .full more with
      | error stop =>
          rw [text] at found
          cases found
      | ok pair =>
          rw [text] at found
          cases found
          exact .string pair.1
    split at found
    · split at found
      · cases found
      · rename_i deep
        obtain ⟨⟨items, others⟩, inside, same⟩ := exists_of_bind_eq_ok found
        cases same
        have some : 1 < depth := by simpa using deep
        obtain ⟨less, rfl⟩ : ∃ less, depth = less + 2 := ⟨depth - 2, by omega⟩
        exact .array (bounded.items _ _ _ _ _ inside)
    split at found
    · split at found
      · cases found
      · rename_i deep
        obtain ⟨⟨members, others⟩, inside, same⟩ := exists_of_bind_eq_ok found
        cases same
        have some : 1 < depth := by simpa using deep
        obtain ⟨less, rfl⟩ : ∃ less, depth = less + 2 := ⟨depth - 2, by omega⟩
        exact .ofMembers (bounded.members _ _ _ _ _ inside)
    · cases found

theorem bounded_items {fuel : Nat} (bounded : Bounded fuel) {depth : Nat} {first : Bool}
    {bytes rest : Bytes} {items : List Value}
    (found : readItems .full (fuel + 1) depth first bytes = .ok (items, rest)) :
    ∀ item ∈ items, item.Within (depth - 1) := by
  unfold readItems at found
  obtain ⟨turn, -, goesOn⟩ := exists_of_bind_eq_ok found
  cases turn with
  | done rest =>
      cases goesOn
      exact fun item member => absurd member List.not_mem_nil
  | element rest =>
      obtain ⟨⟨item, others⟩, one, goesOn⟩ := exists_of_bind_eq_ok goesOn
      obtain ⟨⟨more, last⟩, later, same⟩ := exists_of_bind_eq_ok goesOn
      cases same
      intro member inside
      rcases List.mem_cons.mp inside with rfl | behind
      · exact bounded.value _ _ _ _ one
      · exact bounded.items _ _ _ _ _ later member behind

theorem bounded_members {fuel : Nat} (bounded : Bounded fuel) {depth : Nat} {first : Bool}
    {bytes rest : Bytes} {members : Members}
    (found : readMembers .full (fuel + 1) depth first bytes = .ok (members, rest)) :
    ∀ member ∈ members, member.2.Within (depth - 1) := by
  unfold readMembers at found
  obtain ⟨turn, -, goesOn⟩ := exists_of_bind_eq_ok found
  cases turn with
  | done rest =>
      cases goesOn
      exact fun member inside => absurd inside List.not_mem_nil
  | element rest =>
      obtain ⟨⟨key, afterKey⟩, -, goesOn⟩ := exists_of_bind_eq_ok goesOn
      obtain ⟨⟨_, afterColon⟩, -, goesOn⟩ := exists_of_bind_eq_ok goesOn
      obtain ⟨⟨value, others⟩, one, goesOn⟩ := exists_of_bind_eq_ok goesOn
      obtain ⟨⟨more, last⟩, later, same⟩ := exists_of_bind_eq_ok goesOn
      cases same
      intro member inside
      rcases List.mem_cons.mp inside with rfl | behind
      · exact bounded.value _ _ _ _ one
      · exact bounded.members _ _ _ _ _ later member behind

theorem bounded (fuel : Nat) : Bounded fuel := by
  induction fuel with
  | zero =>
      constructor
      · intro depth bytes read rest found
        cases found
      · intro depth first bytes items rest found
        cases found
      · intro depth first bytes members rest found
        cases found
  | succ fuel ih =>
      exact ⟨fun _ _ _ _ => bounded_value ih, fun _ _ _ _ _ => bounded_items ih,
        fun _ _ _ _ _ => bounded_members ih⟩

/-- What is parsed is sound, and below the limit of depth. -/
theorem within_parse {bytes : Bytes} {value : Value} (parsed : parse bytes = .ok value) :
    value.Within 127 := by
  unfold parse readAll at parsed
  split at parsed
  · cases parsed
  · rename_i read rest found
    split at parsed
    · cases parsed
      exact (bounded _).value _ _ _ _ found
    · cases parsed

end readers

end DatasetService.Json
