import DatasetService.Text.Blank
import DatasetService.Text.Split

set_option autoImplicit false

/- The longest first run of a class of elements, and the pieces between separators. A text
has one reading as a run and what follows it, and one as pieces. -/
namespace DatasetService.Text

variable {α : Type}

/-- A run of the class does not go on into `rest`. -/
def Halts (test : α → Bool) (rest : List α) : Prop := ∀ item ∈ rest.head?, test item = false

@[simp] theorem halts_nil (test : α → Bool) : Halts test [] := by
  intro item member
  cases member

@[simp] theorem halts_cons (test : α → Bool) (item : α) (rest : List α) :
    Halts test (item :: rest) ↔ test item = false := by
  simp only [Halts, List.head?_cons, Option.mem_some_iff, forall_eq']

theorem halts_dropWhile (test : α → Bool) (items : List α) :
    Halts test (items.dropWhile test) := by
  intro item member
  have stopped := List.head?_dropWhile_not test items
  rw [Option.mem_def.mp member] at stopped
  simpa using stopped

/-- A run and what follows it are the only parts of a text with these properties. -/
theorem run_eq_iff (test : α → Bool) (items run rest : List α) :
    items.takeWhile test = run ∧ items.dropWhile test = rest ↔
      items = run ++ rest ∧ (∀ item ∈ run, test item = true) ∧ Halts test rest := by
  constructor
  · rintro ⟨rfl, rfl⟩
    refine ⟨List.takeWhile_append_dropWhile.symm, ?_, halts_dropWhile test items⟩
    exact List.all_eq_true.mp List.all_takeWhile
  · rintro ⟨rfl, all, halts⟩
    rw [List.takeWhile_append_of_pos all, List.dropWhile_append_of_pos all]
    cases rest with
    | nil => simp
    | cons item rest =>
        have stopped : ¬ test item = true := by simpa using halts
        simp [stopped]

theorem splitWhere_of_none (isSeparator : α → Bool) (piece : List α)
    (free : ∀ item ∈ piece, isSeparator item = false) :
    splitWhere isSeparator piece = [piece] := by
  induction piece with
  | nil => rfl
  | cons item rest ih =>
      have first := free item (by simp)
      have others : ∀ other ∈ rest, isSeparator other = false :=
        fun other member => free other (by simp [member])
      simp [splitWhere, first, ih others]

theorem splitWhere_piece (isSeparator : α → Bool) (piece : List α) (separator : α)
    (rest : List α) (free : ∀ item ∈ piece, isSeparator item = false)
    (separates : isSeparator separator = true) :
    splitWhere isSeparator (piece ++ separator :: rest) =
      piece :: splitWhere isSeparator rest := by
  induction piece with
  | nil => simp [splitWhere, separates]
  | cons item others ih =>
      have first := free item (by simp)
      have tail := ih fun other member => free other (by simp [member])
      simp [splitWhere, first, tail]

/-- A separator ends the pieces before it, and those after it are pieces by themselves. -/
theorem splitWhere_append (isSeparator : α → Bool) (items : List α) (separator : α)
    (rest : List α) (separates : isSeparator separator = true) :
    splitWhere isSeparator (items ++ separator :: rest) =
      splitWhere isSeparator items ++ splitWhere isSeparator rest := by
  induction items with
  | nil => simp [splitWhere, separates]
  | cons item others ih =>
      rw [List.cons_append, splitWhere, ih, splitWhere]
      by_cases separated : isSeparator item = true
      · simp only [separated, if_true, List.cons_append]
      · obtain ⟨piece, pieces, equal⟩ :=
          List.exists_cons_of_ne_nil (splitWhere_ne_nil isSeparator others)
        simp only [separated, Bool.false_eq_true, if_false, equal, List.cons_append]

/-- The pieces hold the elements that are no separators, and those only. -/
theorem mem_of_mem_splitWhere (isSeparator : α → Bool) (items piece : List α) (item : α)
    (isPiece : piece ∈ splitWhere isSeparator items) (member : item ∈ piece) :
    item ∈ items ∧ isSeparator item = false := by
  induction items generalizing piece with
  | nil =>
      simp only [splitWhere, List.mem_singleton] at isPiece
      subst isPiece
      cases member
  | cons first rest ih =>
      simp only [splitWhere] at isPiece
      by_cases separates : isSeparator first = true
      · simp only [separates, if_true, List.mem_cons] at isPiece
        rcases isPiece with rfl | isPiece
        · cases member
        · have found := ih piece isPiece member
          exact ⟨List.mem_cons_of_mem _ found.1, found.2⟩
      · have other : isSeparator first = false := by simpa using separates
        obtain ⟨head, pieces, equal⟩ :=
          List.exists_cons_of_ne_nil (splitWhere_ne_nil isSeparator rest)
        rw [equal] at ih isPiece
        simp only [other, Bool.false_eq_true, if_false, List.mem_cons] at isPiece
        rcases isPiece with rfl | isPiece
        · rcases List.mem_cons.mp member with rfl | member
          · exact ⟨List.mem_cons_self, other⟩
          · have found := ih head (by simp) member
            exact ⟨List.mem_cons_of_mem _ found.1, found.2⟩
        · have found := ih piece (by simp [isPiece]) member
          exact ⟨List.mem_cons_of_mem _ found.1, found.2⟩

theorem mem_of_mem_joinWith (separator : α) (pieces : List (List α)) (item : α)
    (member : item ∈ joinWith separator pieces) :
    item = separator ∨ ∃ piece ∈ pieces, item ∈ piece := by
  induction pieces with
  | nil => cases member
  | cons piece rest ih =>
      cases rest with
      | nil => exact Or.inr ⟨piece, by simp, member⟩
      | cons next more =>
          simp only [joinWith, List.mem_append, List.mem_cons] at member
          rcases member with inside | same | later
          · exact Or.inr ⟨piece, by simp, inside⟩
          · exact Or.inl same
          · rcases ih later with same | ⟨other, isPiece, inside⟩
            · exact Or.inl same
            · exact Or.inr ⟨other, List.mem_cons_of_mem _ isPiece, inside⟩

/-- Cutting undoes joining, where no piece has a separator in it. -/
theorem splitWhere_joinWith (isSeparator : α → Bool) (separator : α) (pieces : List (List α))
    (separates : isSeparator separator = true) (nonempty : pieces ≠ [])
    (free : ∀ piece ∈ pieces, ∀ item ∈ piece, isSeparator item = false) :
    splitWhere isSeparator (joinWith separator pieces) = pieces := by
  induction pieces with
  | nil => exact absurd rfl nonempty
  | cons piece rest ih =>
      have plain := free piece List.mem_cons_self
      cases rest with
      | nil => exact splitWhere_of_none isSeparator piece plain
      | cons next more =>
          have tail := ih (List.cons_ne_nil _ _) fun other member =>
            free other (List.mem_cons_of_mem _ member)
          rw [joinWith, splitWhere_piece isSeparator piece separator _ plain separates, tail]

theorem free_of_not_mem {mark : Char} {text : List Char} (absent : mark ∉ text) :
    ∀ c ∈ text, (c == mark) = false := by
  intro c member
  have other : c ≠ mark := fun equal => absent (equal ▸ member)
  simpa using other

/-- What follows the last separator is a piece. -/
theorem splitAt_append {separator : Char} (before : List Char) {piece : List Char}
    (free : separator ∉ piece) :
    splitAt separator (before ++ separator :: piece) = splitAt separator before ++ [piece] := by
  have last := splitWhere_of_none (· == separator) piece (free_of_not_mem free)
  rw [splitAt, splitWhere_append (· == separator) before separator piece (by simp), last]
  rfl

theorem splitAt_joinWith (separator : Char) (pieces : List (List Char)) (nonempty : pieces ≠ [])
    (free : ∀ piece ∈ pieces, separator ∉ piece) :
    splitAt separator (joinWith separator pieces) = pieces := by
  refine splitWhere_joinWith _ separator pieces (by simp) nonempty ?_
  intro piece isPiece
  exact free_of_not_mem (free piece isPiece)

/-- The first piece goes on to the first separator. -/
theorem head?_splitAt (separator : Char) (text : List Char) :
    (splitAt separator text).head? = some (text.takeWhile (· != separator)) := by
  induction text with
  | nil => rfl
  | cons c rest ih =>
      obtain ⟨piece, pieces, equal⟩ :=
        List.exists_cons_of_ne_nil (splitWhere_ne_nil (· == separator) rest)
      simp only [splitAt, equal, List.head?_cons, Option.some.injEq] at ih
      by_cases separates : c = separator
      · simp [splitAt, splitWhere, separates]
      · simp [splitAt, splitWhere, separates, equal, ih]

theorem splitFirst_piece (test : α → Bool) (piece : List α) (mark : α) (rest : List α)
    (free : ∀ item ∈ piece, test item = false) (marks : test mark = true) :
    splitFirst test (piece ++ mark :: rest) = some (piece, rest) := by
  induction piece with
  | nil => simp [splitFirst, marks]
  | cons item others ih =>
      have first := free item List.mem_cons_self
      have tail := ih fun other member => free other (List.mem_cons_of_mem _ member)
      simp [splitFirst, first, tail]

theorem eq_append_of_splitFirst {test : α → Bool} {items before after : List α}
    (found : splitFirst test items = some (before, after)) :
    ∃ mark, items = before ++ mark :: after ∧ test mark = true ∧
      ∀ item ∈ before, test item = false := by
  induction items generalizing before with
  | nil => cases found
  | cons item rest ih =>
      rw [splitFirst] at found
      by_cases marks : test item = true
      · rw [if_pos marks] at found
        cases found
        exact ⟨item, rfl, marks, by simp⟩
      · rw [if_neg marks] at found
        obtain ⟨⟨others, _⟩, later, same⟩ := Option.map_eq_some_iff.mp found
        cases same
        obtain ⟨mark, rfl, stops, free⟩ := ih later
        refine ⟨mark, rfl, stops, fun other member => ?_⟩
        rcases List.mem_cons.mp member with rfl | member
        · simpa using marks
        · exact free other member

/-- The last of the elements that satisfy the test has one place in a sequence. -/
theorem splitLast_eq_some_iff (test : α → Bool) (items before after : List α) :
    splitLast test items = some (before, after) ↔
      ∃ mark, items = before ++ mark :: after ∧ test mark = true ∧
        ∀ item ∈ after, test item = false := by
  constructor
  · intro found
    obtain ⟨⟨ending, start⟩, first, same⟩ := Option.map_eq_some_iff.mp found
    cases same
    obtain ⟨mark, reversed, marks, free⟩ := eq_append_of_splitFirst first
    refine ⟨mark, ?_, marks, fun item member => free item (List.mem_reverse.mp member)⟩
    rw [← List.reverse_reverse items, reversed]
    simp
  · rintro ⟨mark, rfl, marks, free⟩
    have first : splitFirst test (before ++ mark :: after).reverse =
        some (after.reverse, before.reverse) := by
      rw [List.reverse_append, List.reverse_cons, List.append_assoc]
      exact splitFirst_piece test _ mark _
        (fun item member => free item (List.mem_reverse.mp member)) marks
    rw [splitLast, first]
    simp

theorem joinWith_cons_cons (separator : α) (first next : List α) (more : List (List α)) :
    joinWith separator (first :: next :: more) =
      first ++ separator :: joinWith separator (next :: more) := rfl

theorem joinWith_append (separator : α) {first second : List (List α)} (left : first ≠ [])
    (right : second ≠ []) :
    joinWith separator (first ++ second) =
      joinWith separator first ++ separator :: joinWith separator second := by
  induction first with
  | nil => exact absurd rfl left
  | cons piece rest ih =>
      cases rest with
      | nil =>
          obtain ⟨next, more, rfl⟩ := List.exists_cons_of_ne_nil right
          rfl
      | cons next more =>
          have tail := ih (List.cons_ne_nil _ _)
          rw [List.cons_append] at tail
          rw [List.cons_append, List.cons_append, joinWith_cons_cons, tail, joinWith_cons_cons,
            List.append_assoc, List.cons_append]

/-- The last piece of a text goes on with what is put behind the text. -/
theorem joinWith_concat_append (separator : α) (pieces : List (List α)) (last more : List α) :
    joinWith separator (pieces ++ [last]) ++ more =
      joinWith separator (pieces ++ [last ++ more]) := by
  cases pieces with
  | nil => rfl
  | cons piece rest =>
      have before : piece :: rest ≠ [] := List.cons_ne_nil piece rest
      rw [joinWith_append separator before (by simp), List.append_assoc,
        joinWith_append separator before (by simp)]
      rfl

theorem halts_append {test : α → Bool} {items rest : List α} (nonempty : items ≠ [])
    (halts : Halts test items) : Halts test (items ++ rest) := by
  cases items with
  | nil => exact absurd rfl nonempty
  | cons item others => simpa using halts

theorem joinWith_ne_nil (separator : α) (piece : List α) (pieces : List (List α))
    (nonempty : piece ≠ []) : joinWith separator (piece :: pieces) ≠ [] := by
  cases pieces with
  | nil => exact nonempty
  | cons next more => simp [joinWith_cons_cons]

/-- A text of pieces begins and ends as its pieces do. -/
theorem halts_joinWith (test : α → Bool) (separator : α) (pieces : List (List α))
    (full : ∀ piece ∈ pieces, piece ≠ [])
    (free : ∀ piece ∈ pieces, ∀ item ∈ piece, test item = false) :
    Halts test (joinWith separator pieces) ∧ Halts test (joinWith separator pieces).reverse := by
  have inside : ∀ piece ∈ pieces, ∀ items : List α, (∀ item ∈ items, item ∈ piece) →
      Halts test items := by
    intro piece isPiece items within item member
    exact free piece isPiece item (within item (List.mem_of_mem_head? member))
  induction pieces with
  | nil => exact ⟨halts_nil test, halts_nil test⟩
  | cons piece rest ih =>
      have first := inside piece List.mem_cons_self
      cases rest with
      | nil =>
          exact ⟨first piece fun item member => member,
            first piece.reverse fun item member => List.mem_reverse.mp member⟩
      | cons next more =>
          have nonempty := full piece List.mem_cons_self
          have tail := (ih (fun other member => full other (List.mem_cons_of_mem _ member))
            (fun other member => free other (List.mem_cons_of_mem _ member))
            (fun other member => inside other (List.mem_cons_of_mem _ member))).2
          have rest := joinWith_ne_nil separator next more (full next (by simp))
          rw [joinWith_cons_cons, List.reverse_append, List.reverse_cons, List.append_assoc]
          refine ⟨?_, halts_append (by simpa using rest) tail⟩
          exact halts_append nonempty (first piece fun item member => member)

theorem dropWhile_of_halts (test : α → Bool) (items : List α) (halts : Halts test items) :
    items.dropWhile test = items :=
  ((run_eq_iff test items [] items).mpr ⟨rfl, by simp, halts⟩).2

/-- The longest final run of the class is dropped. -/
theorem dropEndWhile_append {test : α → Bool} {items run : List α}
    (all : ∀ item ∈ run, test item = true) (halts : Halts test items.reverse) :
    dropEndWhile test (items ++ run) = items := by
  have drops : ∀ item ∈ run.reverse, test item = true :=
    fun item member => all item (List.mem_reverse.mp member)
  rw [dropEndWhile, List.reverse_append, List.dropWhile_append_of_pos drops,
    dropWhile_of_halts _ _ halts, List.reverse_reverse]

theorem halts_of_free {test : α → Bool} {items : List α}
    (free : ∀ item ∈ items, test item = false) : Halts test items :=
  fun item member => free item (List.mem_of_mem_head? member)

theorem isBlank_of_isDigit {c : Char} (digit : c.isDigit = true) : isBlank c = false := by
  have numbers := Char.isDigit_iff_toNat.mp digit
  change 48 ≤ c.toNat ∧ c.toNat ≤ 57 at numbers
  simp only [isBlank, blankRanges, List.any_cons, List.any_nil, Bool.or_false,
    Bool.or_eq_false_iff, Bool.and_eq_false_imp, decide_eq_true_eq, decide_eq_false_iff_not]
  omega

/-- Nothing is trimmed off a text without blanks. -/
theorem trim_of_free {text : List Char} (free : ∀ c ∈ text, isBlank c = false) :
    trim text = text := by
  have start := halts_of_free free
  have ending : Halts isBlank text.reverse :=
    halts_of_free fun c member => free c (List.mem_reverse.mp member)
  have kept := dropEndWhile_append (List.forall_mem_nil _) ending
  rw [List.append_nil] at kept
  rw [trim, trimStart, dropWhile_of_halts _ _ start, trimEnd, kept]

theorem mem_dropWhile {test : α → Bool} {items : List α} {item : α} (member : item ∈ items)
    (stops : test item = false) : item ∈ items.dropWhile test := by
  rw [← List.takeWhile_append_dropWhile (p := test) (l := items), List.mem_append] at member
  rcases member with taken | rest
  · rw [List.all_eq_true.mp List.all_takeWhile item taken] at stops
    cases stops
  · exact rest

/-- What is no blank stays when a text is trimmed. -/
theorem mem_trim {text : List Char} {c : Char} (member : c ∈ text) (graphic : isBlank c = false) :
    c ∈ trim text := by
  have start := List.mem_reverse.mpr (mem_dropWhile member graphic)
  exact List.mem_reverse.mpr (mem_dropWhile start graphic)

theorem dropStart?_eq_some_iff [BEq α] [LawfulBEq α] (start items rest : List α) :
    dropStart? start items = some rest ↔ items = start ++ rest := by
  unfold dropStart?
  constructor
  · intro dropped
    split at dropped
    · rename_i begins
      obtain ⟨tail, rfl⟩ := List.isPrefixOf_iff_prefix.mp begins
      rw [List.drop_left] at dropped
      cases dropped
      rfl
    · cases dropped
  · rintro rfl
    simp

theorem dropEnding?_eq_some_iff [BEq α] [LawfulBEq α] (ending items rest : List α) :
    dropEnding? ending items = some rest ↔ items = rest ++ ending := by
  simp only [dropEnding?, Option.map_eq_some_iff, dropStart?_eq_some_iff]
  constructor
  · rintro ⟨reversed, same, rfl⟩
    rw [← List.reverse_reverse items, same, List.reverse_append, List.reverse_reverse]
  · rintro rfl
    exact ⟨rest.reverse, List.reverse_append, List.reverse_reverse rest⟩

end DatasetService.Text
