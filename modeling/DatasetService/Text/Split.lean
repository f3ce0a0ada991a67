set_option autoImplicit false

/- Cutting a sequence at separators and putting it together again. Cutting never
returns the empty list: a sequence without separators is one piece. -/
namespace DatasetService.Text

variable {α : Type}

/-- The pieces between the elements that satisfy `isSeparator`. -/
def splitWhere (isSeparator : α → Bool) : List α → List (List α)
  | [] => [[]]
  | item :: rest =>
      if isSeparator item then
        [] :: splitWhere isSeparator rest
      else
        match splitWhere isSeparator rest with
        | [] => [[item]]
        | piece :: pieces => (item :: piece) :: pieces

/-- The pieces between occurrences of one character. -/
def splitAt (separator : Char) (text : List Char) : List (List Char) :=
  splitWhere (· == separator) text

/-- Pieces with one separator between neighbours. -/
def joinWith (separator : α) : List (List α) → List α
  | [] => []
  | [piece] => piece
  | piece :: next :: pieces => piece ++ separator :: joinWith separator (next :: pieces)

/-- The parts before and after the first element that satisfies the test. -/
def splitFirst (test : α → Bool) : List α → Option (List α × List α)
  | [] => none
  | item :: rest =>
      if test item then some ([], rest)
      else (splitFirst test rest).map fun parts => (item :: parts.1, parts.2)

/-- The parts before and after the last element that satisfies the test. -/
def splitLast (test : α → Bool) (items : List α) : Option (List α × List α) :=
  (splitFirst test items.reverse).map fun parts => (parts.2.reverse, parts.1.reverse)

/-- What follows `start`, if the sequence begins with it. -/
def dropStart? [BEq α] (start items : List α) : Option (List α) :=
  if start.isPrefixOf items then some (items.drop start.length) else none

/-- What precedes `ending`, if the sequence ends with it. -/
def dropEnding? [BEq α] (ending items : List α) : Option (List α) :=
  (dropStart? ending.reverse items.reverse).map List.reverse

/-- The parts before the first occurrence of `pattern` and from it on. -/
def findSlice [BEq α] (pattern : List α) : List α → Option (List α × List α)
  | [] => if pattern.isEmpty then some ([], []) else none
  | item :: rest =>
      if pattern.isPrefixOf (item :: rest) then some ([], item :: rest)
      else (findSlice pattern rest).map fun parts => (item :: parts.1, parts.2)

theorem splitWhere_ne_nil (isSeparator : α → Bool) (items : List α) :
    splitWhere isSeparator items ≠ [] := by
  cases items with
  | nil => simp [splitWhere]
  | cons item rest =>
      simp only [splitWhere]
      split
      · simp
      · split <;> simp

/-- Joining the pieces at one separator gives the sequence back. -/
theorem joinWith_splitAt (separator : Char) (text : List Char) :
    joinWith separator (splitAt separator text) = text := by
  induction text with
  | nil => rfl
  | cons c rest ih =>
      simp only [splitAt, splitWhere] at ih ⊢
      have nonempty := splitWhere_ne_nil (fun x => x == separator) rest
      by_cases h : c == separator
      · have hc : c = separator := by simpa using h
        subst hc
        simp only [beq_self_eq_true, if_true]
        cases pieces : splitWhere (fun x => x == c) rest with
        | nil => exact absurd pieces nonempty
        | cons piece more =>
            rw [pieces] at ih
            simp [joinWith, ih]
      · simp only [h]
        cases pieces : splitWhere (fun x => x == separator) rest with
        | nil => exact absurd pieces nonempty
        | cons piece more =>
            rw [pieces] at ih
            cases more <;> simp_all [joinWith]

end DatasetService.Text
