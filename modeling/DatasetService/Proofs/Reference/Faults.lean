import DatasetService.Proofs.Reference.Stops
import DatasetService.Proofs.Text.Utf8

set_option autoImplicit false

/- The faults of texts that are no references, as errors tell them. An error points at the character
after the longest start that some reference has, or at the end of a text that some reference begins
with. Only an empty segment of a selector is told by the whole selector, once all of it has been
read. -/
namespace DatasetService.Reference

/-- The text of some reference begins so. -/
def Begun (start : List Char) : Prop := ∃ rest reference, parseChars (start ++ rest) = .ok reference

section selector

variable {reference : Reference} (selectable : reference.Selectable)
include selectable

/-- What follows a dataset or a version and a slash is read if it is a selector. -/
theorem exists_parseChars_selector_iff (text : List Char) :
    (∃ result, parseChars (reference.text.toList ++ '/' :: text) = .ok result) ↔
      SelectorPath text := by
  simp only [parseChars_selector selectable, parseTail_eq_ok_iff _ _ _ _ selectable.whole]
  constructor
  · rintro ⟨result, written, path, -⟩
    cases selected : result.selector with
    | none => simp [selected] at written
    | some selector =>
        rw [selected, optionalPart_selector, List.cons.injEq] at written
        rw [written.2]
        exact path selector (by simp [selected])
  · intro path
    exact ⟨{ reference with selector := some (String.ofList text) }, by simp, by simpa using path,
      rfl⟩

theorem begun_selector_iff (start : List Char) :
    Begun (reference.text.toList ++ '/' :: start) ↔ ∃ more, SelectorPath (start ++ more) := by
  simp only [Begun, List.append_assoc, List.cons_append, exists_parseChars_selector_iff selectable]

end selector

theorem word_letter : Word PathChar ['a'] := by
  refine ⟨by simp, fun c member => ?_⟩
  rw [List.mem_singleton.mp member, ← isPathChar_iff]
  decide

/-- All segments but the last are closed by a slash. A start goes on to a selector if none of them
is empty. -/
theorem exists_selectorPath_iff {start : List Char} (chars : ∀ c ∈ start, isSelectorChar c = true) :
    (∃ more, SelectorPath (start ++ more)) ↔ [] ∉ (Text.splitAt '/' start).dropLast := by
  have some : Text.splitAt '/' start ≠ [] := Text.splitWhere_ne_nil _ start
  have joined := Text.joinWith_splitAt '/' start
  have inPath : ∀ piece ∈ Text.splitAt '/' start, ∀ c ∈ piece, PathChar c := by
    intro piece member c inside
    obtain ⟨inText, noSlash⟩ := Text.mem_of_mem_splitWhere _ start piece c member inside
    exact ((isSelectorChar_iff c).mp (chars c inText)).resolve_right (by simpa using noSlash)
  rw [← List.dropLast_concat_getLast some] at joined inPath
  generalize (Text.splitAt '/' start).dropLast = closed at joined inPath
  generalize (Text.splitAt '/' start).getLast some = last at joined inPath
  have unslashed : ∀ piece ∈ closed, '/' ∉ piece := fun piece member slash =>
    slash_not_pathChar (inPath piece (List.mem_append_left _ member) '/' slash)
  constructor
  · rintro ⟨more, path⟩ empty
    have before : closed ≠ [] := List.ne_nil_of_mem empty
    rw [selectorPath_iff, ← joined, Text.joinWith_concat_append,
      Text.joinWith_append '/' before (by simp), Text.splitAt,
      Text.splitWhere_append _ _ _ _ (by simp), ← Text.splitAt,
      Text.splitAt_joinWith '/' closed before unslashed] at path
    exact path.2 [] (List.mem_append_left _ empty) rfl
  · intro full
    refine ⟨['a'], closed ++ [last ++ ['a']], by simp, fun piece member => ?_, ?_⟩
    · rcases List.mem_append.mp member with inClosed | isLast
      · exact ⟨fun empty => full (empty ▸ inClosed), inPath piece (List.mem_append_left _ inClosed)⟩
      · rw [List.mem_singleton.mp isLast]
        refine ⟨by simp, fun c inside => ?_⟩
        rcases List.mem_append.mp inside with inLast | letter
        · exact inPath last (by simp) c inLast
        · exact word_letter.2 c letter
    · rw [← joined, Text.joinWith_concat_append]

/-- A version path that has been begun can be ended. -/
theorem PathStops.exists_versionPath {start : List Char} {next : Option Char} {gap : Gap}
    (stops : PathStops start next gap) : ∃ more, VersionPath (start ++ more) := by
  cases stops with
  | missing => exact ⟨['a'], .segment word_letter⟩
  | opened => exact ⟨['a', '/', 'a'], .pair word_letter word_letter⟩
  | half word => exact ⟨['/', 'a'], by simpa using VersionPath.pair word word_letter⟩
  | second word => exact ⟨['a'], by simpa using VersionPath.pair word word_letter⟩

theorem Selectable.begun {reference : Reference} (selectable : reference.Selectable)
    {start : List Char} (more : List Char) (text : start ++ more = reference.text.toList) :
    Begun start :=
  ⟨more, reference, (parseChars_eq_ok_iff _ _).mpr ⟨text, selectable.wellFormed⟩⟩

/-- Before any selector a reader stops at the start of some reference. -/
theorem HeadStops.begun {start : List Char} {next : Option Char} {gap : Gap}
    (stops : HeadStops start next gap) : Begun start := by
  have letter : Word IdentifierChar "a".toList := by
    refine ⟨by simp, fun c member => ?_⟩
    have first : c = 'a' := by simpa using member
    rw [first, ← isIdentifierChar_iff]
    decide
  have alone {user : List Char} (word : Word IdentifierChar user)
      (other : String.ofList user ≠ ownerAlias) :
      parseChars user = .ok { username := String.ofList user } :=
    (parseChars_eq_ok_iff _ _).mpr
      ⟨by simp [Reference.text_toList], by simpa using word, other, Or.inl ⟨rfl, rfl, rfl⟩⟩
  cases stops with
  | user => exact ⟨['a'], _, alone letter (by decide)⟩
  | userEnd word other => exact ⟨[], _, by rw [List.append_nil]; exact alone word other⟩
  | name word other =>
      have selectable := selectable_of_words "a" none word other letter (by simp)
      refine selectable.begun ['a'] ?_
      rw [selectable.text_toList]
      simp
  | @version user name start _ _ word other named stops =>
      obtain ⟨more, version⟩ := stops.exists_versionPath
      have selectable := selectable_of_words (String.ofList name)
        (some (String.ofList (start ++ more))) word other (by simpa using named)
        (by simpa using version)
      refine selectable.begun more ?_
      rw [selectable.text_toList]
      simp
  | @nameEnd user name _ word other named =>
      have selectable := selectable_of_words (String.ofList name) none word other
        (by simpa using named) (by simp)
      refine selectable.begun [] ?_
      rw [selectable.text_toList]
      simp
  | @versionEnd user name path _ word other named version =>
      have selectable := selectable_of_words (String.ofList name) (some (String.ofList path)) word
        other (by simpa using named) (by simpa using version)
      refine selectable.begun [] ?_
      rw [selectable.text_toList]
      simp

/-- The kinds of faults. -/
inductive Fault
  /-- The user is the alias of the caller. -/
  | reserved
  /-- A character stands where no reference has it. -/
  | character
  /-- A selector has an empty segment. -/
  | segment
  /-- The text ends too early. -/
  | ending
deriving DecidableEq

def Error.fault : Error → Fault
  | .reservedUsername _ => .reserved
  | .unexpectedCharacter _ _ _ => .character
  | .malformed _ _ .selectorSegment => .segment
  | .malformed _ _ _ => .ending

/-- A selector has been begun after a dataset or a version, and one of its segments has been closed
while it was empty. -/
def Gapped (start : List Char) : Prop :=
  ∃ reference selector, Selectable reference ∧ start = reference.text.toList ++ '/' :: selector ∧
    [] ∈ (Text.splitAt '/' selector).dropLast

/-- A fault of a text as an error tells it. -/
def Fault.Explains (fault : Fault) (text : String) (error : Error) : Prop :=
  match fault with
  | .reserved =>
      error = .reservedUsername ownerAlias ∧
        ∃ rest, text = ownerAlias ++ rest ∧ ∀ c ∈ rest.toList.head?, ¬ IdentifierChar c
  | .character =>
      ∃ before fragment character, text = before ++ fragment ∧
        before.utf8ByteSize < text.utf8ByteSize ∧ fragment.toList.head? = some character ∧
        error = .unexpectedCharacter fragment before.utf8ByteSize character ∧
        ¬ Begun (before.toList ++ [character]) ∧ (Begun before.toList ↔ ¬ Gapped before.toList)
  | .segment =>
      ∃ reference fragment, Selectable reference ∧ text = reference.text ++ "/" ++ fragment ∧
        error = .malformed fragment (reference.text ++ "/").utf8ByteSize .selectorSegment ∧
        fragment ≠ "" ∧ (∀ c ∈ fragment.toList, PathChar c ∨ c = '/') ∧
        [] ∈ Text.splitAt '/' fragment.toList
  | .ending =>
      ∃ gap, gap ≠ .selectorSegment ∧ error = .malformed text text.utf8ByteSize gap ∧
        ∃ rest, rest ≠ "" ∧ ∃ reference, parse (text ++ rest) = .ok reference

theorem Fault.Explains.fault_eq {fault : Fault} {text : String} {error : Error}
    (explains : fault.Explains text error) : fault = error.fault := by
  cases fault with
  | reserved =>
      obtain ⟨rfl, -⟩ := explains
      rfl
  | character =>
      obtain ⟨before, fragment, character, -, -, -, rfl, -⟩ := explains
      rfl
  | segment =>
      obtain ⟨reference, fragment, -, -, rfl, -⟩ := explains
      rfl
  | ending =>
      obtain ⟨gap, other, rfl, -⟩ := explains
      cases gap <;> first | rfl | contradiction

/-- Positions count the bytes of the text before them. -/
theorem offset_append (start rest : List Char) :
    offset (start ++ rest) rest = (String.ofList start).utf8ByteSize := by
  rw [offset, Text.byteLength_append, Nat.add_sub_cancel, ← Text.byteLength_toList,
    String.toList_ofList]

/-- No reference has a text with an empty segment that is closed. -/
theorem not_begun_of_gapped {start : List Char} (gapped : Gapped start) : ¬ Begun start := by
  obtain ⟨reference, selector, selectable, rfl, empty⟩ := gapped
  rw [begun_selector_iff selectable]
  rintro ⟨more, path⟩
  have chars : ∀ c ∈ selector, isSelectorChar c = true := fun c member =>
    ((selectorPath_iff _).mp path).1 c (List.mem_append_left _ member)
  exact (exists_selectorPath_iff chars).mp ⟨more, path⟩ empty

theorem HeadStops.gap_ne {start : List Char} {next : Option Char} {gap : Gap}
    (stops : HeadStops start next gap) : gap ≠ .selectorSegment := by
  cases stops with
  | version word other named stops => cases stops <;> simp
  | _ => simp

/-- A reader that stops tells where the text is no longer the start of a reference. -/
theorem explains_stop {text : String} {start rest : List Char} {gap : Gap}
    (written : text.toList = start ++ rest) (other : gap ≠ .selectorSegment)
    (refused : ∀ reference, parse text ≠ .ok reference) (begun : ¬ Gapped start → Begun start)
    (ends : rest = [] → Begun start) (blocked : ∀ c ∈ rest.head?, ¬ Begun (start ++ [c])) :
    (stop text.toList rest gap).fault.Explains text (stop text.toList rest gap) := by
  cases rest with
  | nil =>
      have kind : (stop text.toList [] gap).fault = .ending := by
        cases gap <;> first | rfl | contradiction
      obtain ⟨more, reference, read⟩ := ends rfl
      rw [List.append_nil] at written
      rw [kind]
      refine ⟨gap, other, ?_, String.ofList more, ?_, reference, ?_⟩
      · rw [stop, String.ofList_toList, Text.byteLength_toList]
      · intro empty
        rw [String.ofList_eq_empty_iff] at empty
        rw [empty, List.append_nil, ← written] at read
        exact refused reference read
      · rw [parse, String.toList_append, written, String.toList_ofList]
        exact read
  | cons c more =>
      have whole : text = String.ofList start ++ String.ofList (c :: more) := by
        rw [← String.toList_inj, written, String.toList_append, String.toList_ofList,
          String.toList_ofList]
      refine ⟨String.ofList start, String.ofList (c :: more), c, whole, ?_, by simp, ?_, ?_, ?_⟩
      · have room := Char.utf8Size_pos c
        rw [whole, String.utf8ByteSize_append, String.utf8ByteSize_ofList (c :: more),
          String.utf8Len_cons]
        omega
      · rw [stop, written, offset_append]
      · rw [String.toList_ofList]
        exact blocked c rfl
      · rw [String.toList_ofList]
        exact ⟨fun begins gapped => not_begun_of_gapped gapped begins, begun⟩

/-- The error of a text that is refused is explained by one fault, and by no other: the alias as a
user, a character that no reference has there, an empty segment, or an early end. -/
theorem one_fault_explains {text : String} {error : Error} (refused : parse text = .error error) :
    ∃! fault : Fault, fault.Explains text error := by
  refine ⟨error.fault, ?_, fun fault explains => explains.fault_eq⟩
  have unread : ∀ reference, parse text ≠ .ok reference := by
    intro reference read
    rw [refused] at read
    cases read
  rcases cases_of_parseChars refused with ⟨rfl, rest, written, halts⟩ |
    ⟨start, rest, gap, written, stops, rfl⟩ | ⟨reference, after, selectable, written, missing⟩
  · refine ⟨rfl, String.ofList rest, ?_, ?_⟩
    · rw [← String.toList_inj, written, String.toList_append, String.toList_ofList]
    · simp only [String.toList_ofList, ← isIdentifierChar_iff]
      intro c member
      rw [halts c member]
      decide
  · have begun := stops.begun
    refine explains_stop written stops.gap_ne unread (fun _ => begun) (fun _ => begun) ?_
    rintro c next ⟨more, reference, read⟩
    rw [Option.mem_def.mp next] at stops
    rw [List.append_assoc] at read
    rw [parseChars_of_headStops ([c] ++ more) stops] at read
    cases read
  · rcases cases_of_parseSelector missing with ⟨start, rest, rfl, chars, halts, unfinished, rfl⟩ |
      ⟨nonempty, chars, empty, rfl⟩
    · have onward := (begun_selector_iff selectable start).trans (exists_selectorPath_iff chars)
      have cut : text.toList = (reference.text.toList ++ '/' :: start) ++ rest := by simp [written]
      refine explains_stop cut (by simp) unread (fun whole => ?_) ?_ ?_
      · exact onward.mpr fun empty => whole ⟨reference, start, selectable, rfl, empty⟩
      · intro ended
        rw [onward, unfinished.resolve_right (absurd ended)]
        exact List.not_mem_nil
      · intro c next
        rw [List.append_assoc, List.cons_append, begun_selector_iff selectable]
        rintro ⟨more, path⟩
        have read := ((selectorPath_iff _).mp path).1 c (by simp)
        rw [halts c next] at read
        cases read
    · refine ⟨reference, String.ofList after, selectable, ?_, ?_, ?_, ?_, ?_⟩
      · rw [← String.toList_inj, written]
        simp
      · have cut : text.toList = (reference.text.toList ++ ['/']) ++ after := by simp [written]
        rw [cut, offset_append, String.ofList_append, String.ofList_toList]
      · rwa [ne_eq, String.ofList_eq_empty_iff]
      · simpa only [String.toList_ofList, ← isSelectorChar_iff] using chars
      · rwa [String.toList_ofList]

/-- A character of two bytes is told whole, at the place where it begins. -/
theorem accent_is_told_whole :
    parse "peer/dé" = .error (.unexpectedCharacter "é" 6 'é') ∧
      ∃! fault : Fault, fault.Explains "peer/dé" (.unexpectedCharacter "é" 6 'é') := by
  have refused : parse "peer/dé" = .error (.unexpectedCharacter "é" 6 'é') := by decide
  exact ⟨refused, one_fault_explains refused⟩

end DatasetService.Reference
