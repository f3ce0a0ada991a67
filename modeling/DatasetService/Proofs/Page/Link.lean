import DatasetService.Binding.Binder
import DatasetService.Proofs.Number.ReadBack
import DatasetService.Proofs.Text.Percent

set_option autoImplicit false

/- Links between pages. The token of a window within bounds is given by division, its link is
read back as the parameters that it was written from, and their numbers are read as they are. -/
namespace DatasetService

namespace Window

/-- A window is full where the list goes on to its end. -/
theorem slice_full_iff {α : Type} (window : Window) (items : List α) (positive : 0 < window.limit) :
    window.limit ≤ (window.slice items).length ↔
      window.offset + window.limit ≤ items.length := by
  rw [slice, List.length_take, List.length_drop]
  omega

/-- A window that is not full holds all the rest. -/
theorem slice_of_not_full {α : Type} {window : Window} {items : List α}
    (short : ¬ window.limit ≤ (window.slice items).length) :
    window.slice items = items.drop window.offset := by
  rw [slice, List.length_take] at short
  rw [slice, List.take_of_length_le (by omega)]

theorem slice_map {α β : Type} (window : Window) (items : List α) (change : α → β) :
    window.slice (items.map change) = (window.slice items).map change := by
  rw [slice, slice, ← List.map_drop, ← List.map_take]

theorem slice_append_drop {α : Type} (window : Window) (items : List α) :
    window.slice items ++ items.drop (window.offset + window.limit) =
      items.drop window.offset := by
  rw [slice, ← List.drop_drop, List.take_append_drop]

/-- What a window holds, and what comes after it if it is full, is all the rest. -/
theorem slice_append_rest {α : Type} (window : Window) (items : List α) :
    (window.slice items ++ if window.limit ≤ (window.slice items).length then
      items.drop (window.offset + window.limit) else []) = items.drop window.offset := by
  split
  · exact window.slice_append_drop items
  · rename_i short
    rw [List.append_nil, slice_of_not_full short]

/-- The page after a full window starts within the list. -/
theorem next_le_of_full {α : Type} (window : Window) (items : List α) (positive : 0 < window.limit)
    (full : window.limit ≤ (window.slice items).length) :
    (window.offset / window.limit + 1) * window.limit ≤ items.length := by
  have inside := (window.slice_full_iff items positive).mp full
  have before : window.offset / window.limit * window.limit ≤ window.offset :=
    Nat.div_mul_le_self _ _
  rw [Nat.add_mul, Nat.one_mul]
  omega

/-- A window within bounds is kept. -/
theorem clamp_of_bounded {limit offset : Nat} (positive : 0 < limit) (limitFits : limit ≤ maxInt)
    (offsetFits : offset ≤ maxInt) : clamp limit offset = { limit, offset } := by
  have large : ¬ ((limit : Nat) : Int) ≤ 0 := by omega
  simp only [clamp, ofSigned, Nat.min_eq_left limitFits, Nat.min_eq_left offsetFits, large,
    if_false, Int.toNat_natCast]

end Window

namespace PageToken

/-- The token of the page that holds an offset. -/
theorem ofWindow_of_bounded {limit offset : Nat} (positive : 0 < limit) (limitFits : limit ≤ maxInt)
    (offsetFits : offset ≤ maxInt) :
    ofWindow limit offset =
      { page := offset / limit + 1, pageSize := limit, limit,
        offset := offset / limit * limit } := by
  simp only [ofWindow, Window.clamp_of_bounded positive limitFits offsetFits]

/-- The token of a page by its number, counted from zero. -/
def numbered (limit index : Nat) (orderBy : Option String) : PageToken :=
  { page := index + 1, pageSize := limit, limit, offset := index * limit, orderBy }

theorem withOrder_ofWindow {limit offset : Nat} (orderBy : Option String) (positive : 0 < limit)
    (limitFits : limit ≤ maxInt) (offsetFits : offset ≤ maxInt) :
    (ofWindow limit offset).withOrder orderBy = numbered limit (offset / limit) orderBy := by
  rw [ofWindow_of_bounded positive limitFits offsetFits]
  rfl

/-- The page after a page starts where that one ends. -/
theorem next_numbered {limit index : Nat} (orderBy : Option String) (positive : 0 < limit)
    (limitFits : limit ≤ maxInt) (nextFits : (index + 1) * limit ≤ maxInt) :
    (numbered limit index orderBy).next = numbered limit (index + 1) orderBy := by
  have within : maxInt ≤ maxCount := by decide
  have sum : index * limit + limit = (index + 1) * limit := by rw [Nat.add_mul, Nat.one_mul]
  simp only [numbered, withOrder, next, sum, Nat.min_eq_left (Nat.le_trans nextFits within),
    ofWindow_of_bounded positive limitFits nextFits, Nat.mul_div_cancel _ positive]

/-- The parameters of a link, by name. -/
def pairs (token : PageToken) : List (String × String) :=
  [("limit", toString token.limit), ("offset", toString token.offset)] ++
    (token.orderBy.map fun orderBy => ("order_by", orderBy)).toList

theorem not_mem_toString {c : Char} (mark : c.isDigit = false) (value : Nat) :
    c ∉ (toString value).toList := by
  intro member
  rw [Nat.toString_eq_repr, Nat.toList_repr] at member
  have digit := Literal.isDigit_of_mem_toDigits member
  rw [mark] at digit
  cases digit

/-- The parameters of a link as they are spelled in it. -/
def spelledPairs (token : PageToken) : List (List Char × List Char) :=
  [("limit".toList, (toString token.limit).toList),
    ("offset".toList, (toString token.offset).toList)] ++
    (token.orderBy.map fun orderBy => ("order_by".toList, Text.percentEncode orderBy.toList)).toList

theorem query_toList (token : PageToken) :
    token.query.toList = Text.joinWith '&' (token.spelledPairs.map Text.formPiece) := by
  cases order : token.orderBy with
  | none => simp [query, spelledPairs, order, Text.joinWith, Text.formPiece]
  | some orderBy => simp [query, spelledPairs, order, Text.joinWith, Text.formPiece]

theorem name_of_mem_spelledPairs {token : PageToken} {pair : List Char × List Char}
    (member : pair ∈ token.spelledPairs) :
    pair.1 ∈ ["limit".toList, "offset".toList, "order_by".toList] := by
  simp only [spelledPairs, List.mem_append, List.mem_cons, List.not_mem_nil, or_false,
    Option.mem_toList, Option.map_eq_some_iff] at member
  rcases member with (rfl | rfl) | ⟨orderBy, -, rfl⟩ <;> simp

/-- No mark but the percent sign stands in a value of a link. -/
theorem not_mem_of_mem_spelledPairs {token : PageToken} {pair : List Char × List Char} {mark : Char}
    (unlettered : mark.isAlphanum = false) (other : mark ≠ '%')
    (member : pair ∈ token.spelledPairs) : mark ∉ pair.2 := by
  have digit : mark.isDigit = false := by
    simp only [Char.isAlphanum, Bool.or_eq_false_iff] at unlettered
    exact unlettered.2
  simp only [spelledPairs, List.mem_append, List.mem_cons, List.not_mem_nil, or_false,
    Option.mem_toList, Option.map_eq_some_iff] at member
  rcases member with (rfl | rfl) | ⟨orderBy, -, rfl⟩
  · exact not_mem_toString digit _
  · exact not_mem_toString digit _
  · exact Text.not_mem_percentEncode _ unlettered other

/-- Nothing in a link's parameters begins a fragment. -/
theorem not_mem_query (token : PageToken) : '#' ∉ token.query.toList := by
  have names : ∀ name ∈ ["limit".toList, "offset".toList, "order_by".toList], '#' ∉ name := by
    decide
  intro member
  rw [query_toList] at member
  rcases Text.mem_of_mem_joinWith '&' _ _ member with mark | ⟨piece, isPiece, inside⟩
  · cases mark
  · obtain ⟨pair, isPair, rfl⟩ := List.mem_map.mp isPiece
    rcases List.mem_append.mp inside with inName | inValue
    · exact names _ (name_of_mem_spelledPairs isPair) inName
    · rcases List.mem_cons.mp inValue with mark | inValue
      · cases mark
      · exact not_mem_of_mem_spelledPairs (by decide) (by decide) isPair inValue

/-- The text of a link is read as its parameters. -/
theorem formPairs_query (token : PageToken) :
    Text.formPairs (Text.bytesOf token.query) = token.pairs := by
  have number (value : Nat) :
      Text.formText (Text.encode (toString value).toList) = toString value :=
    Text.formText_plain (not_mem_toString (by decide) value) (not_mem_toString (by decide) value)
  have limit : Text.formText (Text.encode "limit".toList) = "limit" :=
    Text.formText_plain (by decide) (by decide)
  have offset : Text.formText (Text.encode "offset".toList) = "offset" :=
    Text.formText_plain (by decide) (by decide)
  have order : Text.formText (Text.encode "order_by".toList) = "order_by" :=
    Text.formText_plain (by decide) (by decide)
  have names : ∀ name ∈ ["limit".toList, "offset".toList, "order_by".toList],
      '&' ∉ name ∧ '=' ∉ name := by decide
  rw [Text.bytesOf, query_toList, Text.formPairs_joined _ (by simp [spelledPairs])
    (fun pair member => names _ (name_of_mem_spelledPairs member))
    (fun pair member => not_mem_of_mem_spelledPairs (by decide) (by decide) member)]
  cases given : token.orderBy with
  | none => simp only [spelledPairs, pairs, given, Option.map_none, Option.toList_none,
      List.append_nil, List.map_cons, List.map_nil, limit, offset, number]
  | some orderBy => simp only [spelledPairs, pairs, given, Option.map_some, Option.toList_some,
      List.map_append, List.map_cons, List.map_nil, limit, offset, order, number,
      Text.formText_percentEncode]

end PageToken

namespace Binding

/-- An integer of 64 bits is read from its text. -/
theorem integerOfText?_integer {value : Int} (low : Literal.minSigned ≤ value)
    (high : value ≤ Literal.maxSigned) : integerOfText? (toString value) = some value := by
  have plain : ∀ c ∈ (toString value).toList, Text.isBlank c = false := by
    intro c member
    rcases Literal.isDigit_of_mem_toString member with digit | rfl
    · exact Text.isBlank_of_isDigit digit
    · decide
  rw [integerOfText?, Text.trim_of_free plain, Literal.signed?_toString low high]

/-- A count within bounds is read from its digits. -/
theorem integerOfText?_toString {value : Nat} (fits : value ≤ maxInt) :
    integerOfText? (toString value) = some (value : Int) := by
  unfold maxInt at fits
  have same : toString value = toString (value : Int) := rfl
  rw [same]
  refine integerOfText?_integer ?_ ?_
  · unfold Literal.minSigned
    omega
  · unfold Literal.maxSigned
    omega

end Binding
end DatasetService
