set_option autoImplicit false

/- Indices of character sets: which character stands at which place. -/
namespace DatasetService.Text.Charset

/-- Lines of characters. A full stop stands where there is no character, and places at the end
of a line may be left out. -/
abbrev Index := List String

/-- How many places a line of an index has. -/
def lineWidth : Nat := 64

def Index.char? (index : Index) (place : Nat) : Option Char :=
  ((index[place / lineWidth]?).bind fun line => line.toList[place % lineWidth]?).filter (· != '.')

end DatasetService.Text.Charset
