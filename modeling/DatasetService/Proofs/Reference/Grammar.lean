import DatasetService.Proofs.Text.Runs
import DatasetService.Reference.Parser
import Mathlib

set_option autoImplicit false

/- The grammar of references, and that reading accepts exactly the texts of well-formed
references. A reader takes its part as long as it goes; the grammar says of the part and of
what follows it that no longer part was possible. -/
namespace DatasetService.Reference

/-- Letters and digits of ASCII, the low line and the hyphen. -/
def IdentifierChar (c : Char) : Prop :=
  ('A' ≤ c ∧ c ≤ 'Z') ∨ ('a' ≤ c ∧ c ≤ 'z') ∨ ('0' ≤ c ∧ c ≤ '9') ∨ c = '_' ∨ c = '-'

/-- The characters of versions and selectors: those of names, and the point. -/
def PathChar (c : Char) : Prop := IdentifierChar c ∨ c = '.'

def Word (accepts : Char → Prop) (text : List Char) : Prop :=
  text ≠ [] ∧ ∀ c ∈ text, accepts c

/-- What may stand after `@`. -/
inductive VersionPath : List Char → Prop
  | segment {segment : List Char} (word : Word PathChar segment) : VersionPath segment
  | pair {first second : List Char} (left : Word PathChar first) (right : Word PathChar second) :
      VersionPath ('/' :: first ++ '/' :: second)

/-- Segments with slashes between them. -/
def SelectorPath (text : List Char) : Prop :=
  ∃ segments : List (List Char), segments ≠ [] ∧ (∀ segment ∈ segments, Word PathChar segment) ∧
    text = Text.joinWith '/' segments

/-- The references that have a text: those of a user alone, and those of a dataset with or
without a version and a selector. -/
structure WellFormed (reference : Reference) : Prop where
  user : Word IdentifierChar reference.username.toList
  notOwner : reference.username ≠ ownerAlias
  parts :
    reference.name = "" ∧ reference.path = none ∧ reference.selector = none ∨
    Word IdentifierChar reference.name.toList ∧
      (∀ path ∈ reference.path, VersionPath path.toList) ∧
      (∀ selector ∈ reference.selector, SelectorPath selector.toList)

theorem isIdentifierChar_iff (c : Char) : isIdentifierChar c = true ↔ IdentifierChar c := by
  simp only [isIdentifierChar, Char.isAlphanum, Char.isAlpha, Char.isUpper, Char.isLower,
    Char.isDigit, IdentifierChar, Bool.or_eq_true, Bool.and_eq_true, decide_eq_true_eq,
    beq_iff_eq, ge_iff_le, Char.le_def]
  tauto

theorem isPathChar_iff (c : Char) : isPathChar c = true ↔ PathChar c := by
  simp only [isPathChar, PathChar, Bool.or_eq_true, isIdentifierChar_iff, beq_iff_eq]

theorem isSelectorChar_iff (c : Char) : isSelectorChar c = true ↔ PathChar c ∨ c = '/' := by
  simp only [isSelectorChar, Bool.or_eq_true, isPathChar_iff, beq_iff_eq]

theorem slash_not_pathChar : ¬ PathChar '/' := by
  rw [← isPathChar_iff]
  decide

theorem Word.inPath {word : List Char} (isWord : Word IdentifierChar word) : Word PathChar word :=
  ⟨isWord.1, fun c member => Or.inl (isWord.2 c member)⟩

theorem Word.unslashed {word : List Char} (isWord : Word PathChar word) : '/' ∉ word :=
  fun slash => slash_not_pathChar (isWord.2 '/' slash)

theorem Word.free {word : List Char} (isWord : Word PathChar word) :
    ∀ c ∈ word, (c == '/') = false := by
  intro c member
  have other : c ≠ '/' := fun slash => isWord.unslashed (slash ▸ member)
  simpa using other

/-- A reader of words takes a word off a text exactly where the text begins with it and the
word cannot go on. -/
theorem Word.run_iff {accepts : Char → Prop} {test : Char → Bool}
    (same : ∀ c, test c = true ↔ accepts c) (text word rest : List Char) :
    (text.takeWhile test = word ∧ text.dropWhile test = rest) ∧ word ≠ [] ↔
      text = word ++ rest ∧ Word accepts word ∧ Text.Halts test rest := by
  rw [Text.run_eq_iff]
  simp only [Word, same]
  tauto

/-- A selector has the characters of one, and no piece of it is empty. -/
theorem selectorPath_iff (text : List Char) :
    SelectorPath text ↔
      (∀ c ∈ text, isSelectorChar c = true) ∧ ∀ piece ∈ Text.splitAt '/' text, piece ≠ [] := by
  constructor
  · rintro ⟨segments, nonempty, words, rfl⟩
    have pieces : Text.splitAt '/' (Text.joinWith '/' segments) = segments :=
      Text.splitAt_joinWith '/' segments nonempty
        fun segment member => (words segment member).unslashed
    constructor
    · intro c member
      rw [isSelectorChar_iff]
      rcases Text.mem_of_mem_joinWith '/' segments c member with slash | ⟨piece, isPiece, inside⟩
      · exact Or.inr slash
      · exact Or.inl ((words piece isPiece).2 c inside)
    · rw [pieces]
      exact fun segment member => (words segment member).1
  · rintro ⟨chars, pieces⟩
    refine ⟨Text.splitAt '/' text, Text.splitWhere_ne_nil _ text, ?_,
      (Text.joinWith_splitAt '/' text).symm⟩
    intro piece member
    refine ⟨pieces piece member, fun c inside => ?_⟩
    have found := Text.mem_of_mem_splitWhere _ text piece c member inside
    have other : c ≠ '/' := by simpa using found.2
    exact ((isSelectorChar_iff c).mp (chars c found.1)).resolve_right other

theorem not_selectorPath_nil : ¬ SelectorPath [] := by
  rw [selectorPath_iff]
  rintro ⟨-, pieces⟩
  exact pieces [] (by simp [Text.splitAt, Text.splitWhere]) rfl

theorem parseSelector_eq_ok_iff (input text selector : List Char) :
    parseSelector input text = .ok selector ↔ selector = text ∧ SelectorPath text := by
  unfold parseSelector
  by_cases whole : ∀ c ∈ text, isSelectorChar c = true
  · have run := (Text.run_eq_iff isSelectorChar text text []).mpr ⟨by simp, whole, by simp⟩
    rw [run.1, run.2]
    cases text with
    | nil => simp [not_selectorPath_nil]
    | cons c rest =>
        by_cases gap : (Text.splitAt '/' (c :: rest)).any List.isEmpty = true
        · have none : ¬ SelectorPath (c :: rest) := by
            rw [selectorPath_iff]
            rintro ⟨-, pieces⟩
            obtain ⟨piece, member, empty⟩ := List.any_eq_true.mp gap
            exact pieces piece member (List.isEmpty_iff.mp empty)
          simp [gap, none]
        · have path : SelectorPath (c :: rest) := by
            rw [selectorPath_iff]
            refine ⟨whole, fun piece member empty => gap ?_⟩
            exact List.any_eq_true.mpr ⟨piece, member, List.isEmpty_iff.mpr empty⟩
          simp [gap, path, eq_comm]
  · have none : ¬ SelectorPath text := by
      rw [selectorPath_iff]
      exact fun both => whole both.1
    have stopped : text.dropWhile isSelectorChar ≠ [] := by
      intro empty
      exact whole (List.dropWhile_eq_nil_iff.mp empty)
    obtain ⟨c, rest, dropped⟩ := List.exists_cons_of_ne_nil stopped
    rw [dropped]
    cases text.takeWhile isSelectorChar with
    | nil => simp [none]
    | cons first more => simp [none]

theorem Word.not_slash {rest : List Char} : ¬ Word PathChar ('/' :: rest) :=
  fun word => word.unslashed List.mem_cons_self

/-- A version path is read exactly where the text begins with it and it cannot go on. -/
theorem parsePath_eq_ok_iff (input text path rest : List Char) :
    parsePath input text = .ok (path, rest) ↔
      text = path ++ rest ∧ VersionPath path ∧ Text.Halts isPathChar rest := by
  constructor
  · intro read
    unfold parsePath at read
    split at read
    · rename_i after
      dsimp only at read
      split at read
      · rename_i c more later first slash
        obtain ⟨text, left, -⟩ := (Word.run_iff isPathChar_iff _ _ _).mp ⟨⟨first, slash⟩, by simp⟩
        split at read
        · cases read
        · rename_i last
          cases read
          obtain ⟨-, right, halts⟩ := (Word.run_iff isPathChar_iff _ _ _).mp ⟨⟨rfl, rfl⟩, last⟩
          rw [first]
          refine ⟨?_, .pair left right, halts⟩
          simp [text]
      · cases read
    · split at read
      · cases read
      · rename_i nonempty
        cases read
        exact (Word.run_iff isPathChar_iff _ _ _).mp ⟨⟨rfl, rfl⟩, nonempty⟩ |>.imp_right
          (And.imp_left .segment)
  · rintro ⟨rfl, path, halts⟩
    unfold parsePath
    cases path with
    | segment word =>
        obtain ⟨⟨taken, dropped⟩, nonempty⟩ :=
          (Word.run_iff isPathChar_iff _ path rest).mpr ⟨rfl, word, halts⟩
        obtain ⟨c, more, rfl⟩ := List.exists_cons_of_ne_nil nonempty
        have first : c ≠ '/' := fun slash => Word.not_slash (slash ▸ word)
        split
        · rename_i equal
          exact absurd (List.head_eq_of_cons_eq equal) first
        · rw [taken, dropped]
    | @pair left right leftWord rightWord =>
        have slash : Text.Halts isPathChar ('/' :: (right ++ rest)) := by
          rw [Text.halts_cons]
          decide
        obtain ⟨⟨taken, dropped⟩, nonempty⟩ :=
          (Word.run_iff isPathChar_iff _ left _).mpr ⟨rfl, leftWord, slash⟩
        obtain ⟨⟨taken', dropped'⟩, nonempty'⟩ :=
          (Word.run_iff isPathChar_iff _ right rest).mpr ⟨rfl, rightWord, halts⟩
        obtain ⟨c, more, rfl⟩ := List.exists_cons_of_ne_nil nonempty
        obtain ⟨c', more', rfl⟩ := List.exists_cons_of_ne_nil nonempty'
        simp only [List.cons_append, List.append_assoc] at taken dropped taken' dropped' ⊢
        simp only [taken, dropped, taken', dropped', List.cons_append]

@[simp] theorem optionalPart_none (mark : String) : optionalPart mark none = "" := rfl

@[simp] theorem optionalPart_version (path : String) :
    (optionalPart "@" (some path)).toList = '@' :: path.toList := by
  rw [optionalPart, String.toList_append]
  rfl

@[simp] theorem optionalPart_selector (selector : String) :
    (optionalPart "/" (some selector)).toList = '/' :: selector.toList := by
  rw [optionalPart, String.toList_append]
  rfl

theorem parseTail_eq_ok_iff (input text : List Char) (reference result : Reference)
    (bare : reference.selector = none) :
    parseTail input text reference = .ok result ↔
      text = (optionalPart "/" result.selector).toList ∧
      (∀ selector ∈ result.selector, SelectorPath selector.toList) ∧
      result = { reference with selector := result.selector } := by
  constructor
  · intro read
    unfold parseTail at read
    split at read
    · cases read
      refine ⟨?_, ?_, rfl⟩ <;> simp [bare]
    · rename_i after
      split at read
      · cases read
      · rename_i selector found
        cases read
        obtain ⟨rfl, path⟩ := (parseSelector_eq_ok_iff input after selector).mp found
        simp [path]
    · cases read
  · rintro ⟨rfl, path, equal⟩
    rw [equal]
    cases selected : result.selector with
    | none =>
        simp only [parseTail, optionalPart_none, String.toList_empty]
        rw [← bare]
    | some selector =>
        have read := (parseSelector_eq_ok_iff input selector.toList selector.toList).mpr
          ⟨rfl, path selector (by simp [selected])⟩
        simp [parseTail, read]

theorem halts_tail {test : Char → Bool} (selector : Option String) (stops : test '/' = false) :
    Text.Halts test (optionalPart "/" selector).toList := by
  cases selector with
  | none => simp
  | some selector => simpa using stops

theorem halts_version {test : Char → Bool} (path : Option String) (rest : List Char)
    (stops : test '@' = false) (halts : Text.Halts test rest) :
    Text.Halts test ((optionalPart "@" path).toList ++ rest) := by
  cases path with
  | none => simpa using halts
  | some path => simpa using stops

theorem parseName_eq_ok_iff (input text : List Char) (username : String) (result : Reference) :
    parseName input text username = .ok result ↔
      text = result.name.toList ++ ((optionalPart "@" result.path).toList ++
        (optionalPart "/" result.selector).toList) ∧
      result.username = username ∧ Word IdentifierChar result.name.toList ∧
      (∀ path ∈ result.path, VersionPath path.toList) ∧
      (∀ selector ∈ result.selector, SelectorPath selector.toList) := by
  constructor
  · intro read
    unfold parseName at read
    generalize taken : text.takeWhile isIdentifierChar = word at read
    generalize dropped : text.dropWhile isIdentifierChar = rest at read
    split at read
    · cases read
    · rename_i nonempty
      obtain ⟨rfl, name, -⟩ :=
        (Word.run_iff isIdentifierChar_iff text word rest).mp ⟨⟨taken, dropped⟩, nonempty⟩
      dsimp only at read
      split at read
      · split at read
        · cases read
        · rename_i path after found
          obtain ⟨rfl, version, -⟩ := (parsePath_eq_ok_iff input _ path after).mp found
          obtain ⟨rfl, selector, equal⟩ := (parseTail_eq_ok_iff input _ _ result rfl).mp read
          rw [equal]
          exact ⟨by simp, rfl, by simpa using name, by simpa using version, selector⟩
      · obtain ⟨rfl, selector, equal⟩ := (parseTail_eq_ok_iff input _ _ result rfl).mp read
        rw [equal]
        exact ⟨by simp, rfl, by simpa using name, by simp, selector⟩
  · rintro ⟨rfl, rfl, name, version, selector⟩
    obtain ⟨⟨taken, dropped⟩, nonempty⟩ := (Word.run_iff isIdentifierChar_iff _ _ _).mpr
      ⟨rfl, name, halts_version result.path _ (by decide) (halts_tail result.selector (by decide))⟩
    unfold parseName
    rw [taken, dropped]
    split
    · contradiction
    · cases versioned : result.path with
      | none =>
          have read := (parseTail_eq_ok_iff input (optionalPart "/" result.selector).toList
            { username := result.username, name := String.ofList result.name.toList } result
            rfl).mpr ⟨rfl, selector, by rw [← versioned, String.ofList_toList]⟩
          split
          · rename_i rest marked
            exfalso
            cases selected : result.selector <;> simp [selected] at marked
          · simpa using read
      | some path =>
          have found := (parsePath_eq_ok_iff input
            (path.toList ++ (optionalPart "/" result.selector).toList) _ _).mpr
            ⟨rfl, version path (by simp [versioned]), halts_tail result.selector (by decide)⟩
          have read := (parseTail_eq_ok_iff input (optionalPart "/" result.selector).toList
            { username := result.username, name := String.ofList result.name.toList
              path := some (String.ofList path.toList) } result rfl).mpr
            ⟨rfl, selector, by rw [String.ofList_toList, String.ofList_toList, ← versioned]⟩
          simp only [optionalPart_version, List.cons_append, found]
          exact read

/-- The text of a reference, part by part. -/
theorem text_toList (reference : Reference) :
    reference.text.toList = reference.username.toList ++
      ((if reference.name = "" then [] else '/' :: reference.name.toList) ++
        ((optionalPart "@" reference.path).toList ++
          (optionalPart "/" reference.selector).toList)) := by
  unfold text slug hasName
  by_cases named : reference.name = ""
  · simp [named]
  · simp [named]

theorem parseChars_eq_ok_iff (input : List Char) (reference : Reference) :
    parseChars input = .ok reference ↔ input = reference.text.toList ∧ reference.WellFormed := by
  rw [text_toList]
  constructor
  · intro read
    unfold parseChars at read
    generalize taken : input.takeWhile isIdentifierChar = word at read
    generalize dropped : input.dropWhile isIdentifierChar = rest at read
    split at read
    · cases read
    · rename_i nonempty
      obtain ⟨rfl, user, -⟩ :=
        (Word.run_iff isIdentifierChar_iff input word rest).mp ⟨⟨taken, dropped⟩, nonempty⟩
      dsimp only at read
      split at read
      · cases read
      · rename_i other
        split at read
        · cases read
          exact ⟨by simp, ⟨by simpa using user, other, Or.inl ⟨rfl, rfl, rfl⟩⟩⟩
        · obtain ⟨rfl, username, name, version, selector⟩ :=
            (parseName_eq_ok_iff _ _ _ reference).mp read
          have named : reference.name ≠ "" := fun empty => name.1 (by simp [empty])
          rw [← username] at other
          have same : word = reference.username.toList := by rw [username, String.toList_ofList]
          rw [same] at user ⊢
          exact ⟨by simp [named], ⟨user, other, Or.inr ⟨name, version, selector⟩⟩⟩
        · cases read
  · rintro ⟨rfl, user, other, parts⟩
    rcases parts with ⟨name, path, selector⟩ | ⟨name, version, selector⟩
    · obtain ⟨⟨taken, dropped⟩, nonempty⟩ :=
        (Word.run_iff isIdentifierChar_iff _ reference.username.toList []).mpr
          ⟨rfl, user, Text.halts_nil _⟩
      have alone : ({ username := reference.username } : Reference) = reference := by
        cases reference
        simp_all
      simp only [name, path, selector, if_true, optionalPart_none, String.toList_empty,
        List.append_nil] at taken dropped ⊢
      unfold parseChars
      rw [taken, dropped]
      split
      · contradiction
      · simp only [String.ofList_toList, other, if_false, alone]
    · have named : reference.name ≠ "" := fun empty => name.1 (by simp [empty])
      obtain ⟨⟨taken, dropped⟩, nonempty⟩ :=
        (Word.run_iff isIdentifierChar_iff _ reference.username.toList
          ('/' :: (reference.name.toList ++ ((optionalPart "@" reference.path).toList ++
            (optionalPart "/" reference.selector).toList)))).mpr
          ⟨rfl, user, by rw [Text.halts_cons]; decide⟩
      simp only [named, if_false, List.cons_append]
      unfold parseChars
      rw [taken, dropped]
      split
      · contradiction
      · simp only [String.ofList_toList, other, if_false]
        exact (parseName_eq_ok_iff _ _ _ reference).mpr ⟨rfl, rfl, name, version, selector⟩

/-- Reading undoes writing a well-formed reference. -/
theorem parseChars_text (reference : Reference) (wellFormed : reference.WellFormed) :
    parseChars reference.text.toList = .ok reference :=
  (parseChars_eq_ok_iff _ reference).mpr ⟨rfl, wellFormed⟩

theorem VersionPath.chars {path : List Char} (version : VersionPath path) :
    ∀ c ∈ path, PathChar c ∨ c = '/' := by
  intro c member
  cases version with
  | segment word => exact Or.inl (word.2 c member)
  | pair left right =>
      simp only [List.cons_append, List.mem_cons, List.mem_append] at member
      rcases member with slash | first | slash | second
      · exact Or.inr slash
      · exact Or.inl (left.2 c first)
      · exact Or.inr slash
      · exact Or.inl (right.2 c second)

theorem SelectorPath.chars {selector : List Char} (path : SelectorPath selector) :
    ∀ c ∈ selector, PathChar c ∨ c = '/' := by
  intro c member
  exact (isSelectorChar_iff c).mp (((selectorPath_iff selector).mp path).1 c member)

theorem mem_optionalPart {start : String} {part : Option String} {c : Char}
    (member : c ∈ (optionalPart start part).toList) :
    c ∈ start.toList ∨ ∃ text ∈ part, c ∈ text.toList := by
  cases part with
  | none => simp at member
  | some text => simpa [optionalPart] using member

theorem WellFormed.selectorPath {reference : Reference} (wellFormed : reference.WellFormed) :
    ∀ selector ∈ reference.selector, SelectorPath selector.toList := by
  rcases wellFormed.parts with ⟨-, -, none⟩ | ⟨-, -, paths⟩
  · simp [none]
  · exact paths

/-- The text of a reference has the characters of names and versions, and the marks between
its parts. -/
theorem WellFormed.chars {reference : Reference} (wellFormed : reference.WellFormed) :
    ∀ c ∈ reference.text.toList, PathChar c ∨ c = '/' ∨ c = '@' := by
  have selected := wellFormed.selectorPath
  obtain ⟨user, -, parts⟩ := wellFormed
  have name : ∀ c ∈ reference.name.toList, PathChar c := by
    intro c member
    rcases parts with ⟨none, -, -⟩ | ⟨word, -, -⟩
    · simp [none] at member
    · exact Or.inl (word.2 c member)
  have version : ∀ path ∈ reference.path, VersionPath path.toList := by
    rcases parts with ⟨-, none, -⟩ | ⟨-, version, -⟩
    · simp [none]
    · exact version
  intro c member
  rw [text_toList] at member
  simp only [List.mem_append] at member
  rcases member with inUser | inName | inPath | inSelector
  · exact Or.inl (Or.inl (user.2 c inUser))
  · split at inName
    · cases inName
    · rcases List.mem_cons.mp inName with slash | inside
      · exact Or.inr (Or.inl slash)
      · exact Or.inl (name c inside)
  · rcases mem_optionalPart inPath with mark | ⟨path, given, inside⟩
    · exact Or.inr (Or.inr (by simpa using mark))
    · exact ((version path given).chars c inside).imp_right Or.inl
  · rcases mem_optionalPart inSelector with mark | ⟨selector, given, inside⟩
    · exact Or.inr (Or.inl (by simpa using mark))
    · exact ((selected selector given).chars c inside).imp_right Or.inl

/-- The reader accepts the texts of well-formed references and nothing else, and returns the
reference that the text is of. So no two of them have one text. -/
theorem parse_accepts_grammar :
    (∀ (text : String) (reference : Reference),
      parse text = .ok reference ↔ text = reference.text ∧ reference.WellFormed) ∧
    Set.InjOn Reference.text {reference | reference.WellFormed} := by
  constructor
  · intro text reference
    rw [parse, parseChars_eq_ok_iff, String.toList_inj]
  · intro first firstWell second secondWell same
    have read := parseChars_text first firstWell
    rw [same, parseChars_text second secondWell] at read
    exact (Except.ok.inj read).symm

end DatasetService.Reference
