import DatasetService.Proofs.Reference.Grammar

set_option autoImplicit false

/- Where a reader of references stops. It has read a start of a reference, and what comes next goes
on with no reference that begins so; of the rest of the text it has not looked at anything. Of what
follows the slash before a selector it reads all that a selector may have. -/
namespace DatasetService.Reference

/-- What has been read of a version path, and what comes next, where a reader stops for want of
`gap`. -/
inductive PathStops : List Char → Option Char → Gap → Prop
  | missing {next : Option Char} (halts : ∀ c ∈ next, isPathChar c = false)
      (noSlash : next ≠ some '/') : PathStops [] next .versionPath
  | opened {next : Option Char} (halts : ∀ c ∈ next, isPathChar c = false) :
      PathStops ['/'] next .versionPathEnd
  | half {segment : List Char} {next : Option Char} (word : Word PathChar segment)
      (halts : ∀ c ∈ next, isPathChar c = false) (noSlash : next ≠ some '/') :
      PathStops ('/' :: segment) next .versionPathEnd
  | second {segment : List Char} {next : Option Char} (word : Word PathChar segment)
      (halts : ∀ c ∈ next, isPathChar c = false) :
      PathStops ('/' :: segment ++ ['/']) next .versionPathEnd

theorem parsePath_of_stops (input : List Char) {start rest : List Char} {gap : Gap}
    (stops : PathStops start rest.head? gap) :
    parsePath input (start ++ rest) = .error (stop input rest gap) := by
  generalize follows : rest.head? = next at stops
  cases stops with
  | missing halts noSlash =>
      subst follows
      have ⟨taken, _⟩ := (Text.run_eq_iff isPathChar rest [] rest).mpr ⟨rfl, by simp, halts⟩
      unfold parsePath
      split
      · rename_i slash
        rw [List.nil_append] at slash
        simp [slash] at noSlash
      · rw [List.nil_append, taken]
  | opened halts =>
      subst follows
      have ⟨taken, dropped⟩ := (Text.run_eq_iff isPathChar rest [] rest).mpr ⟨rfl, by simp, halts⟩
      simp only [parsePath, List.cons_append, List.nil_append, taken, dropped]
  | @half segment _ word halts noSlash =>
      subst follows
      obtain ⟨⟨taken, dropped⟩, nonempty⟩ :=
        (Word.run_iff isPathChar_iff _ segment rest).mpr ⟨rfl, word, halts⟩
      simp only [parsePath, List.cons_append, taken, dropped]
      split
      · simp at noSlash
      · rfl
  | @second segment _ word halts =>
      subst follows
      have slash : Text.Halts isPathChar ('/' :: rest) := by
        rw [Text.halts_cons]
        decide
      obtain ⟨⟨taken, dropped⟩, nonempty⟩ :=
        (Word.run_iff isPathChar_iff _ segment ('/' :: rest)).mpr ⟨rfl, word, slash⟩
      have ⟨empty, _⟩ := (Text.run_eq_iff isPathChar rest [] rest).mpr ⟨rfl, by simp, halts⟩
      obtain ⟨c, more, rfl⟩ := List.exists_cons_of_ne_nil nonempty
      simp only [List.cons_append] at taken dropped
      simp only [parsePath, List.cons_append, List.append_assoc, List.nil_append, taken, dropped,
        empty]

theorem stops_of_parsePath {input text : List Char} {error : Error}
    (refused : parsePath input text = .error error) :
    ∃ start rest gap, text = start ++ rest ∧ PathStops start rest.head? gap ∧
      error = stop input rest gap := by
  unfold parsePath at refused
  split at refused
  · rename_i after
    dsimp only at refused
    have halts := Text.halts_dropWhile isPathChar after
    generalize taken : after.takeWhile isPathChar = segment at refused
    generalize dropped : after.dropWhile isPathChar = rest at refused halts
    split at refused
    · rename_i c more later
      obtain ⟨rfl, word, -⟩ :=
        (Word.run_iff isPathChar_iff after (c :: more) _).mp ⟨⟨taken, dropped⟩, by simp⟩
      split at refused
      · rename_i none
        cases refused
        have stay := (Text.run_eq_iff isPathChar later [] _).mp ⟨none, rfl⟩
        refine ⟨'/' :: (c :: more) ++ ['/'], later, _, by simp, .second word ?_, rfl⟩
        rw [stay.1]
        exact stay.2.2
      · cases refused
    · rename_i other
      cases refused
      cases segment with
      | nil =>
          obtain ⟨rfl, -, -⟩ := (Text.run_eq_iff isPathChar after [] rest).mp ⟨taken, dropped⟩
          exact ⟨['/'], _, _, rfl, .opened halts, rfl⟩
      | cons c more =>
          obtain ⟨rfl, word, -⟩ :=
            (Word.run_iff isPathChar_iff after (c :: more) rest).mp ⟨⟨taken, dropped⟩, by simp⟩
          refine ⟨'/' :: c :: more, rest, _, by simp, .half word halts ?_, rfl⟩
          intro slash
          obtain ⟨tail, rfl⟩ := List.head?_eq_some_iff.mp slash
          exact other c more tail rfl rfl
  · rename_i unslashed
    split at refused
    · rename_i none
      cases refused
      have stay := (Text.run_eq_iff isPathChar text [] _).mp ⟨none, rfl⟩
      refine ⟨[], text, _, rfl, .missing ?_ ?_, rfl⟩
      · rw [stay.1]
        exact stay.2.2
      · intro slash
        obtain ⟨tail, rfl⟩ := List.head?_eq_some_iff.mp slash
        exact unslashed tail rfl
    · cases refused

/-- A dataset, or one version of it: what a selector is of. -/
structure Selectable (reference : Reference) : Prop where
  wellFormed : reference.WellFormed
  named : reference.name ≠ ""
  whole : reference.selector = none

/-- What has been read of a reference, and what comes next, where a reader stops before any selector
for want of `gap`. -/
inductive HeadStops : List Char → Option Char → Gap → Prop
  | user {next : Option Char} (halts : ∀ c ∈ next, isIdentifierChar c = false) :
      HeadStops [] next .emptyReference
  | userEnd {user : List Char} {c : Char} (word : Word IdentifierChar user)
      (other : String.ofList user ≠ ownerAlias) (halts : isIdentifierChar c = false)
      (noSlash : c ≠ '/') : HeadStops user (some c) .datasetName
  | name {user : List Char} {next : Option Char} (word : Word IdentifierChar user)
      (other : String.ofList user ≠ ownerAlias) (halts : ∀ c ∈ next, isIdentifierChar c = false) :
      HeadStops (user ++ ['/']) next .datasetName
  | version {user name start : List Char} {next : Option Char} {gap : Gap}
      (word : Word IdentifierChar user) (other : String.ofList user ≠ ownerAlias)
      (named : Word IdentifierChar name) (stops : PathStops start next gap) :
      HeadStops (user ++ '/' :: (name ++ '@' :: start)) next gap
  | nameEnd {user name : List Char} {c : Char} (word : Word IdentifierChar user)
      (other : String.ofList user ≠ ownerAlias) (named : Word IdentifierChar name)
      (halts : isIdentifierChar c = false) (noMark : c ≠ '@') (noSlash : c ≠ '/') :
      HeadStops (user ++ '/' :: name) (some c) .selector
  | versionEnd {user name path : List Char} {c : Char} (word : Word IdentifierChar user)
      (other : String.ofList user ≠ ownerAlias) (named : Word IdentifierChar name)
      (version : VersionPath path) (halts : isPathChar c = false) (noSlash : c ≠ '/') :
      HeadStops (user ++ '/' :: (name ++ '@' :: path)) (some c) .selector

theorem parseChars_user {user : List Char} (word : Word IdentifierChar user)
    (other : String.ofList user ≠ ownerAlias) (rest : List Char) :
    parseChars (user ++ '/' :: rest) =
      parseName (user ++ '/' :: rest) rest (String.ofList user) := by
  obtain ⟨⟨taken, dropped⟩, nonempty⟩ :=
    (Word.run_iff isIdentifierChar_iff _ user ('/' :: rest)).mpr
      ⟨rfl, word, by rw [Text.halts_cons]; decide⟩
  unfold parseChars
  rw [taken, dropped]
  split
  · contradiction
  · simp only [other, if_false]

section name

variable {name : List Char} (word : Word IdentifierChar name) (input : List Char)
  (username : String)
include word

theorem parseName_version (rest : List Char) :
    parseName input (name ++ '@' :: rest) username =
      match parsePath input rest with
      | .error error => .error error
      | .ok (path, rest) =>
          parseTail input rest
            { username, name := String.ofList name, path := some (String.ofList path) } := by
  obtain ⟨⟨taken, dropped⟩, nonempty⟩ :=
    (Word.run_iff isIdentifierChar_iff _ name ('@' :: rest)).mpr
      ⟨rfl, word, by rw [Text.halts_cons]; decide⟩
  unfold parseName
  rw [taken, dropped]
  split
  · contradiction
  · rfl

theorem parseName_plain (rest : List Char) (halts : Text.Halts isIdentifierChar rest)
    (unmarked : rest.head? ≠ some '@') :
    parseName input (name ++ rest) username =
      parseTail input rest { username, name := String.ofList name } := by
  obtain ⟨⟨taken, dropped⟩, nonempty⟩ :=
    (Word.run_iff isIdentifierChar_iff _ name rest).mpr ⟨rfl, word, halts⟩
  unfold parseName
  rw [taken, dropped]
  split
  · contradiction
  · dsimp only
    split
    · simp at unmarked
    · rfl

end name

theorem parseTail_end (input : List Char) {c : Char} (noSlash : c ≠ '/') (rest : List Char)
    (reference : Reference) :
    parseTail input (c :: rest) reference = .error (stop input (c :: rest) .selector) := by
  unfold parseTail
  split
  · contradiction
  · rename_i slash
    exact absurd (List.head_eq_of_cons_eq slash) noSlash
  · rfl

/-- A reader that stops has looked at no more than the next character. -/
theorem parseChars_of_headStops {start : List Char} {gap : Gap} (rest : List Char)
    (stops : HeadStops start rest.head? gap) :
    parseChars (start ++ rest) = .error (stop (start ++ rest) rest gap) := by
  generalize follows : rest.head? = next at stops
  cases stops with
  | user halts =>
      subst follows
      have ⟨taken, _⟩ := (Text.run_eq_iff isIdentifierChar rest [] rest).mpr ⟨rfl, by simp, halts⟩
      rw [List.nil_append, parseChars, taken]
  | @userEnd _ c word other halts noSlash =>
      obtain ⟨tail, rfl⟩ := List.head?_eq_some_iff.mp follows
      obtain ⟨⟨taken, dropped⟩, nonempty⟩ :=
        (Word.run_iff isIdentifierChar_iff _ start (c :: tail)).mpr
          ⟨rfl, word, by rwa [Text.halts_cons]⟩
      unfold parseChars
      rw [taken, dropped]
      split
      · contradiction
      · simp only [other, if_false]
        split
        · contradiction
        · rename_i slash
          exact absurd (List.head_eq_of_cons_eq slash) noSlash
        · rfl
  | @name user _ word other halts =>
      subst follows
      have ⟨taken, _⟩ := (Text.run_eq_iff isIdentifierChar rest [] rest).mpr ⟨rfl, by simp, halts⟩
      rw [List.append_assoc, List.cons_append, List.nil_append, parseChars_user word other,
        parseName, taken]
  | @version user name start _ _ word other named stops =>
      subst follows
      simp only [List.append_assoc, List.cons_append, parseChars_user word other,
        parseName_version named, parsePath_of_stops _ stops]
  | @nameEnd user name c word other named halts noMark noSlash =>
      obtain ⟨tail, rfl⟩ := List.head?_eq_some_iff.mp follows
      have plain := parseName_plain named (user ++ '/' :: (name ++ c :: tail)) (String.ofList user)
        (c :: tail) (by rwa [Text.halts_cons]) (by simpa using noMark)
      simp only [List.append_assoc, List.cons_append, parseChars_user word other, plain,
        parseTail_end _ noSlash]
  | @versionEnd user name path c word other named version halts noSlash =>
      obtain ⟨tail, rfl⟩ := List.head?_eq_some_iff.mp follows
      have read := (parsePath_eq_ok_iff (user ++ '/' :: (name ++ '@' :: (path ++ c :: tail)))
        (path ++ c :: tail) path (c :: tail)).mpr ⟨rfl, version, by rwa [Text.halts_cons]⟩
      simp only [List.append_assoc, List.cons_append, parseChars_user word other,
        parseName_version named, read, parseTail_end _ noSlash]

theorem Selectable.text_toList {reference : Reference} (selectable : reference.Selectable) :
    reference.text.toList = reference.username.toList ++ '/' :: (reference.name.toList ++
      (optionalPart "@" reference.path).toList) := by
  rw [Reference.text_toList, if_neg selectable.named, selectable.whole, optionalPart_none,
    String.toList_empty, List.append_nil, List.cons_append]

theorem Selectable.words {reference : Reference} (selectable : reference.Selectable) :
    Word IdentifierChar reference.username.toList ∧
      String.ofList reference.username.toList ≠ ownerAlias ∧
      Word IdentifierChar reference.name.toList ∧
      ∀ path ∈ reference.path, VersionPath path.toList := by
  obtain ⟨⟨user, other, parts⟩, named, -⟩ := selectable
  rw [String.ofList_toList]
  rcases parts with ⟨unnamed, -, -⟩ | ⟨name, version, -⟩
  · exact absurd unnamed named
  · exact ⟨user, other, name, version⟩

theorem selectable_of_words {user : List Char} (name : String) (path : Option String)
    (word : Word IdentifierChar user) (other : String.ofList user ≠ ownerAlias)
    (named : Word IdentifierChar name.toList) (version : ∀ found ∈ path, VersionPath found.toList) :
    Selectable { username := String.ofList user, name, path } where
  wellFormed :=
    { user := by simpa using word
      notOwner := other
      parts := Or.inr ⟨named, version, by simp⟩ }
  named := by
    intro empty
    change name = "" at empty
    exact named.1 (by rw [empty, String.toList_empty])
  whole := rfl

/-- After a dataset or a version and a slash, all depends on the selector. -/
theorem parseChars_selector {reference : Reference} (selectable : reference.Selectable)
    (text : List Char) :
    parseChars (reference.text.toList ++ '/' :: text) =
      parseTail (reference.text.toList ++ '/' :: text) ('/' :: text) reference := by
  obtain ⟨user, other, name, version⟩ := selectable.words
  have slash : isIdentifierChar '/' = false := by decide
  have made : reference =
      { username := reference.username, name := reference.name, path := reference.path } := by
    rw [← selectable.whole]
  rw [selectable.text_toList, made]
  cases versioned : reference.path with
  | none =>
      have plain := parseName_plain name (reference.username.toList ++ '/' ::
        (reference.name.toList ++ '/' :: text)) reference.username ('/' :: text)
        (by rwa [Text.halts_cons]) (by simp)
      simp only [optionalPart_none, String.toList_empty, List.append_nil, List.append_assoc,
        List.cons_append, parseChars_user user other, String.ofList_toList, plain]
  | some path =>
      have read := (parsePath_eq_ok_iff (reference.username.toList ++ '/' ::
        (reference.name.toList ++ '@' :: (path.toList ++ '/' :: text)))
        (path.toList ++ '/' :: text) path.toList ('/' :: text)).mpr
        ⟨rfl, version path (by simp [versioned]), by rw [Text.halts_cons]; decide⟩
      simp only [optionalPart_version, List.append_assoc, List.cons_append,
        parseChars_user user other, String.ofList_toList, parseName_version name, read]

/-- What may stand between the dataset and the selector. -/
theorem parseTail_eq_error {input text : List Char} {reference : Reference} {error : Error}
    (refused : parseTail input text reference = .error error) :
    (∃ c rest, text = c :: rest ∧ c ≠ '/' ∧ error = stop input text .selector) ∨
      ∃ rest, text = '/' :: rest ∧ parseSelector input rest = .error error := by
  unfold parseTail at refused
  split at refused
  · cases refused
  · rename_i rest
    split at refused
    · rename_i cause found
      cases refused
      exact Or.inr ⟨rest, rfl, found⟩
    · cases refused
  · rename_i nonempty unslashed
    cases refused
    obtain ⟨c, rest, rfl⟩ := List.exists_cons_of_ne_nil nonempty
    exact Or.inl ⟨c, rest, rfl, fun slash => unslashed rest (by rw [slash]), rfl⟩

section user

variable {user : List Char} (word : Word IdentifierChar user)
  (other : String.ofList user ≠ ownerAlias)
include word other

/-- A reader of what follows a user stops before any selector, or it finds no selector after the
slash that begins one. -/
theorem cases_of_parseName {input text : List Char} {username : String} {error : Error}
    (refused : parseName input text username = .error error) :
    (∃ start rest gap, text = start ++ rest ∧ HeadStops (user ++ '/' :: start) rest.head? gap ∧
      error = stop input rest gap) ∨
    ∃ (name : String) (path : Option String) (rest : List Char),
      text = name.toList ++ ((optionalPart "@" path).toList ++ '/' :: rest) ∧
      Word IdentifierChar name.toList ∧ (∀ version ∈ path, VersionPath version.toList) ∧
      parseSelector input rest = .error error := by
  unfold parseName at refused
  have halts := Text.halts_dropWhile isIdentifierChar text
  generalize taken : text.takeWhile isIdentifierChar = name at refused
  generalize dropped : text.dropWhile isIdentifierChar = after at refused halts
  split at refused
  · cases refused
    obtain ⟨rfl, -, -⟩ := (Text.run_eq_iff isIdentifierChar text [] after).mp ⟨taken, dropped⟩
    exact Or.inl ⟨[], _, _, rfl, .name word other halts, rfl⟩
  · rename_i nonempty
    obtain ⟨rfl, named, -⟩ :=
      (Word.run_iff isIdentifierChar_iff text name after).mp ⟨⟨taken, dropped⟩, nonempty⟩
    have isName : Word IdentifierChar (String.ofList name).toList := by simpa using named
    dsimp only at refused
    split at refused
    · rename_i versioned
      split at refused
      · rename_i cause found
        cases refused
        obtain ⟨start, rest, gap, rfl, stops, rfl⟩ := stops_of_parsePath found
        exact Or.inl ⟨name ++ '@' :: start, rest, gap, by simp,
          .version word other named stops, rfl⟩
      · rename_i path rest found
        obtain ⟨rfl, version, ended⟩ := (parsePath_eq_ok_iff input _ path rest).mp found
        rcases parseTail_eq_error refused with ⟨c, tail, rfl, noSlash, rfl⟩ | ⟨tail, rfl, missing⟩
        · have unread : isPathChar c = false := by simpa using ended
          exact Or.inl ⟨name ++ '@' :: path, c :: tail, _, by simp,
            .versionEnd word other named version unread noSlash, rfl⟩
        · exact Or.inr ⟨String.ofList name, some (String.ofList path), tail, by simp, isName,
            by simpa using version, missing⟩
    · rename_i unmarked
      rcases parseTail_eq_error refused with ⟨c, tail, rfl, noSlash, rfl⟩ | ⟨tail, rfl, missing⟩
      · have unread : isIdentifierChar c = false := by simpa using halts
        have noMark : c ≠ '@' := fun mark => unmarked tail (by rw [mark])
        exact Or.inl ⟨name, c :: tail, _, rfl, .nameEnd word other named unread noMark noSlash, rfl⟩
      · exact Or.inr ⟨String.ofList name, none, tail, by simp, isName, by simp, missing⟩

end user

/-- A reader that finds no reference has found the alias of the caller, or has stopped before any
selector, or has found no selector after a slash. -/
theorem cases_of_parseChars {input : List Char} {error : Error}
    (refused : parseChars input = .error error) :
    (error = .reservedUsername ownerAlias ∧
      ∃ rest, input = ownerAlias.toList ++ rest ∧ Text.Halts isIdentifierChar rest) ∨
    (∃ start rest gap, input = start ++ rest ∧ HeadStops start rest.head? gap ∧
      error = stop input rest gap) ∨
    ∃ reference text, Selectable reference ∧ input = reference.text.toList ++ '/' :: text ∧
      parseSelector input text = .error error := by
  unfold parseChars at refused
  have halts := Text.halts_dropWhile isIdentifierChar input
  generalize taken : input.takeWhile isIdentifierChar = user at refused
  generalize dropped : input.dropWhile isIdentifierChar = rest at refused halts
  split at refused
  · cases refused
    obtain ⟨rfl, -, -⟩ := (Text.run_eq_iff isIdentifierChar input [] rest).mp ⟨taken, dropped⟩
    exact Or.inr (Or.inl ⟨[], _, _, rfl, .user halts, rfl⟩)
  · rename_i nonempty
    obtain ⟨rfl, word, -⟩ :=
      (Word.run_iff isIdentifierChar_iff input user rest).mp ⟨⟨taken, dropped⟩, nonempty⟩
    dsimp only at refused
    split at refused
    · rename_i owner
      cases refused
      refine Or.inl ⟨by rw [owner], rest, ?_, halts⟩
      rw [← owner, String.toList_ofList]
    · rename_i other
      refine Or.inr ?_
      split at refused
      · cases refused
      · rename_i text
        rcases cases_of_parseName word other refused with ⟨start, rest, gap, rfl, stops, rfl⟩ |
          ⟨name, path, text, rfl, named, version, found⟩
        · exact Or.inl ⟨user ++ '/' :: start, rest, gap, by simp, stops, rfl⟩
        · have selectable := selectable_of_words _ _ word other named version
          refine Or.inr ⟨_, text, selectable, ?_, found⟩
          rw [selectable.text_toList]
          simp
      · rename_i nonempty unslashed
        cases refused
        obtain ⟨c, tail, rfl⟩ := List.exists_cons_of_ne_nil nonempty
        refine Or.inl ⟨user, c :: tail, _, rfl, ?_, rfl⟩
        exact .userEnd word other (by simpa using halts) fun slash => unslashed tail (by rw [slash])

/-- A reader of a selector stops at what no selector has, or before the first character, or it has
read a selector with an empty segment. -/
theorem cases_of_parseSelector {input text : List Char} {error : Error}
    (refused : parseSelector input text = .error error) :
    (∃ start rest, text = start ++ rest ∧ (∀ c ∈ start, isSelectorChar c = true) ∧
      Text.Halts isSelectorChar rest ∧ (start = [] ∨ rest ≠ []) ∧
      error = stop input rest .selector) ∨
    text ≠ [] ∧ (∀ c ∈ text, isSelectorChar c = true) ∧ [] ∈ Text.splitAt '/' text ∧
      error = .malformed (String.ofList text) (offset input text) .selectorSegment := by
  unfold parseSelector at refused
  generalize taken : text.takeWhile isSelectorChar = selector at refused
  generalize dropped : text.dropWhile isSelectorChar = rest at refused
  obtain ⟨rfl, chars, halts⟩ := (Text.run_eq_iff isSelectorChar text selector rest).mp
    ⟨taken, dropped⟩
  dsimp only at refused
  split at refused
  · cases refused
    exact Or.inl ⟨[], rest, rfl, by simp, halts, Or.inl rfl, rfl⟩
  · rename_i nonempty
    cases refused
    exact Or.inl ⟨selector, _, rfl, chars, halts, Or.inr (by simp), rfl⟩
  · rename_i nonempty
    split at refused
    · rename_i gap
      cases refused
      obtain ⟨piece, member, empty⟩ := List.any_eq_true.mp gap
      rw [List.isEmpty_iff.mp empty] at member
      refine Or.inr ⟨by simpa using nonempty, by simpa using chars, by simpa using member, ?_⟩
      simp
    · cases refused

end DatasetService.Reference
