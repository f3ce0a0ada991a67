set_option autoImplicit false

/- Windows onto lists: a limit and an offset, both counts of 64 bits. -/
namespace DatasetService

/-- The limit of a request that gives none, or one that is not positive. -/
def defaultLimit : Nat := 25

/-- The greatest signed integer of 64 bits. -/
def maxInt : Nat := 9223372036854775807

/-- The greatest count of 64 bits. -/
def maxCount : Nat := 18446744073709551615

structure Window where
  limit : Nat
  offset : Nat
deriving DecidableEq, Repr

namespace Window

/-- The window of a signed limit and offset: a limit that is not positive is the default,
and a negative offset is zero. -/
def ofSigned (limit offset : Int) : Window :=
  { limit := if limit ≤ 0 then defaultLimit else limit.toNat
    offset := offset.toNat }

/-- The same rules for counts, which first are bounded by the greatest signed integer. -/
def clamp (limit offset : Nat) : Window :=
  ofSigned (min limit maxInt : Nat) (min offset maxInt : Nat)

/-- The items of a list in the window. -/
def slice {α : Type} (window : Window) (items : List α) : List α :=
  (items.drop window.offset).take window.limit

theorem clamp_limit_pos (limit offset : Nat) : 0 < (clamp limit offset).limit := by
  simp only [clamp, ofSigned]
  split
  · decide
  · omega

theorem clamp_offset (limit offset : Nat) : (clamp limit offset).offset = min offset maxInt := by
  unfold clamp ofSigned
  exact Int.toNat_natCast _

end Window
end DatasetService
