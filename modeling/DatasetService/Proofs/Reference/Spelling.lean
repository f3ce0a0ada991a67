import DatasetService.Proofs.Reference.Slug
import DatasetService.Reference.Transport

set_option autoImplicit false

/- The spellings of a reference in a request path. Slashes around it and a query after it do not
count. A version of two segments may be marked by `at`; so a reference with a segment `at` of its
own is taken for another one, or for none. -/
namespace DatasetService.Reference

theorem cutAtMarker_eq_none_iff (segments : List (List Char)) :
    cutAtMarker segments = none ↔ versionMarker ∉ segments := by
  induction segments with
  | nil => simp [cutAtMarker]
  | cons segment rest ih =>
      by_cases marks : segment = versionMarker
      · simp [cutAtMarker, marks]
      · simp [cutAtMarker, marks, Ne.symm marks, ih]

theorem eq_append_of_cutAtMarker {segments before after : List (List Char)}
    (cut : cutAtMarker segments = some (before, after)) :
    segments = before ++ versionMarker :: after := by
  induction segments generalizing before after with
  | nil => cases cut
  | cons segment rest ih =>
      by_cases marks : segment = versionMarker
      · simp only [cutAtMarker, marks, if_true, Option.some.injEq, Prod.mk.injEq] at cut
        obtain ⟨rfl, rfl⟩ := cut
        rw [marks, List.nil_append]
      · simp only [cutAtMarker, marks, if_false, Option.map_eq_some_iff] at cut
        obtain ⟨⟨first, last⟩, found, same⟩ := cut
        obtain ⟨rfl, rfl⟩ := Prod.mk.inj same
        rw [ih found, List.cons_append]

/-- A slash, or nothing. -/
def slashIf (given : Bool) : List Char := if given then ['/'] else []

/-- What follows `@`: nothing, or a slash and segments. -/
def versionText (segments : List (List Char)) : List Char :=
  match Text.joinWith '/' segments with
  | [] => []
  | text => '/' :: text

theorem length_versionText_le (segments : List (List Char)) :
    (versionText segments).length ≤ (Text.joinWith '/' segments).length + 1 := by
  unfold versionText
  split
  · exact Nat.zero_le _
  · exact Nat.le_refl _

/-- The text of segments, with the first `at` after the user and the name put as `@`. -/
def markedText (segments : List (List Char)) : List Char :=
  match cutAtMarker (segments.drop 2) with
  | none => Text.joinWith '/' segments
  | some (before, after) =>
      Text.joinWith '/' (segments.take 2 ++ before) ++ '@' :: versionText after

theorem segments_of_cut {segments before after : List (List Char)}
    (cut : cutAtMarker (segments.drop 2) = some (before, after)) :
    segments = segments.take 2 ++ before ++ versionMarker :: after := by
  rw [List.append_assoc, ← eq_append_of_cutAtMarker cut, List.take_append_drop]

/-- Versions are marked segment by segment, whether or not a slash comes before. -/
theorem markVersion_segments {segments : List (List Char)} (nonempty : segments ≠ [])
    (free : ∀ segment ∈ segments, '/' ∉ segment)
    (rooted : Text.Halts (· == '/') (Text.joinWith '/' segments)) (leading : Bool) :
    markVersion (slashIf leading ++ Text.joinWith '/' segments) =
      slashIf leading ++ markedText segments := by
  have pieces := Text.splitAt_joinWith '/' segments nonempty free
  unfold markVersion
  split
  rename_i start body cut
  have parts : start = slashIf leading ∧ body = Text.joinWith '/' segments := by
    cases leading with
    | true =>
        obtain ⟨rfl, rfl⟩ := Prod.mk.inj cut
        exact ⟨rfl, rfl⟩
    | false =>
        split at cut
        · rename_i rest slash
          have begins : Text.joinWith '/' segments = '/' :: rest := slash
          rw [begins, Text.halts_cons] at rooted
          exact absurd rooted (by decide)
        · obtain ⟨rfl, rfl⟩ := Prod.mk.inj cut
          exact ⟨rfl, rfl⟩
  obtain ⟨rfl, rfl⟩ := parts
  rw [pieces]
  dsimp only
  unfold markedText versionText
  cases cutAtMarker (segments.drop 2) with
  | none => rfl
  | some parts =>
      obtain ⟨before, after⟩ := parts
      dsimp only
      cases Text.joinWith '/' after with
      | nil => rw [List.append_assoc]
      | cons c rest => simp only [List.append_assoc, List.cons_append, List.nil_append]

/-- The mark stands where a slash stood, so that the text begins as before. -/
theorem halts_markedText {segments : List (List Char)}
    (rooted : Text.Halts (· == '/') (Text.joinWith '/' segments)) :
    Text.Halts (· == '/') (markedText segments) := by
  unfold markedText
  split
  · exact rooted
  · rename_i before after cut
    have whole := segments_of_cut cut
    by_cases none : segments.take 2 ++ before = []
    · rw [none]
      simp [Text.joinWith]
    · rw [whole, Text.joinWith_append '/' none (List.cons_ne_nil _ _)] at rooted
      generalize Text.joinWith '/' (segments.take 2 ++ before) = start at rooted ⊢
      cases start with
      | nil => simp
      | cons c rest => simpa using rooted

/-- The mark is shorter than the segment that it stands for. -/
theorem length_markedText {segments : List (List Char)} (named : 2 ≤ segments.length)
    (marks : versionMarker ∈ segments.drop 2) :
    (markedText segments).length + 2 ≤ (Text.joinWith '/' segments).length := by
  unfold markedText
  split
  · rename_i cut
    exact absurd marks ((cutAtMarker_eq_none_iff _).mp cut)
  · rename_i before after cut
    have whole := segments_of_cut cut
    have start : segments.take 2 ++ before ≠ [] := by
      intro none
      have length := congrArg List.length none
      simp only [List.length_append, List.length_take, List.length_nil] at length
      omega
    have text : Text.joinWith '/' segments =
        Text.joinWith '/' (segments.take 2 ++ before) ++
          '/' :: Text.joinWith '/' (versionMarker :: after) := by
      rw [← Text.joinWith_append '/' start (List.cons_ne_nil _ _), ← whole]
    have rest := length_versionText_le after
    have two : versionMarker.length = 2 := rfl
    rw [text]
    cases after with
    | nil => simp [Text.joinWith, versionText, two]
    | cons next more =>
        simp only [Text.joinWith_cons_cons, List.length_append, List.length_cons]
        omega

theorem dropLeadingSlash_slashIf (leading : Bool) {text : List Char}
    (rooted : Text.Halts (· == '/') text) : dropLeadingSlash (slashIf leading ++ text) = text := by
  cases leading with
  | true => rfl
  | false =>
      unfold dropLeadingSlash
      split
      · rename_i rest slash
        have begins : text = '/' :: rest := slash
        rw [begins, Text.halts_cons] at rooted
        exact absurd rooted (by decide)
      · rfl

theorem dropTrailingSlash_slashIf (trailing : Bool) {text : List Char}
    (ended : Text.Halts (· == '/') text.reverse) :
    dropTrailingSlash (text ++ slashIf trailing) = text := by
  unfold dropTrailingSlash
  cases trailing with
  | true => simp [slashIf]
  | false =>
      have plain : text ++ slashIf false = text := List.append_nil text
      rw [plain]
      split
      · rename_i slash
        have last : text.reverse.head? = some '/' := by rw [List.head?_reverse, slash]
        exact absurd (ended '/' last) (by decide)
      · rfl

theorem length_dropTrailingSlash_le (text : List Char) :
    (dropTrailingSlash text).length ≤ text.length := by
  unfold dropTrailingSlash
  split
  · rw [List.length_dropLast]
    exact Nat.sub_le _ _
  · exact Nat.le_refl _

theorem dropQuery_append {text : List Char} (unasked : '?' ∉ text) (query : Option String) :
    dropQuery (text ++ (optionalPart "?" query).toList) = text := by
  refine ((Text.run_eq_iff _ _ _ (optionalPart "?" query).toList).mpr ⟨rfl, ?_, ?_⟩).1
  · intro c member
    have other : c ≠ '?' := fun mark => unasked (mark ▸ member)
    simpa using other
  · cases query with
    | none => simp
    | some query => simp [optionalPart]

/-- A text as a path may spell it: with a slash before it or none, with a slash after it or none,
and with a query or none. -/
def spelled (leading trailing : Bool) (query : Option String) (text : String) : String :=
  (if leading then "/" else "") ++ text ++ (if trailing then "/" else "") ++ optionalPart "?" query

theorem spelled_toList (leading trailing : Bool) (query : Option String) (text : String) :
    (spelled leading trailing query text).toList =
      (slashIf leading ++ text.toList ++ slashIf trailing) ++ (optionalPart "?" query).toList := by
  cases leading <;> cases trailing <;> simp [spelled, slashIf]

/-- A slash after a text is one more segment, which is empty. -/
def trailingSegments (trailing : Bool) : List (List Char) := if trailing then [[]] else []

theorem joinWith_trailing {segments : List (List Char)} (nonempty : segments ≠ [])
    (trailing : Bool) :
    Text.joinWith '/' (segments ++ trailingSegments trailing) =
      Text.joinWith '/' segments ++ slashIf trailing := by
  cases trailing with
  | true =>
      have one : trailingSegments true ≠ [] := List.cons_ne_nil _ _
      rw [Text.joinWith_append '/' nonempty one]
      rfl
  | false => simp [trailingSegments, slashIf]

/-- What is read of a spelling: its segments with the version marked, and no slash at the ends. -/
theorem normalizeChars_spelled {segments : List (List Char)} {text : String}
    (nonempty : segments ≠ []) (free : ∀ segment ∈ segments, '/' ∉ segment)
    (joined : text.toList = Text.joinWith '/' segments)
    (rooted : Text.Halts (· == '/') text.toList) (filled : text.toList ≠ [])
    (unasked : '?' ∉ text.toList) (leading trailing : Bool) (query : Option String) :
    normalizeChars (spelled leading trailing query text).toList =
      dropTrailingSlash (markedText (segments ++ trailingSegments trailing)) := by
  have whole : text.toList ++ slashIf trailing =
      Text.joinWith '/' (segments ++ trailingSegments trailing) := by
    rw [joinWith_trailing nonempty, joined]
  have begins : Text.Halts (· == '/')
      (Text.joinWith '/' (segments ++ trailingSegments trailing)) := by
    rw [← whole]
    exact Text.halts_append filled rooted
  have unsplit : ∀ segment ∈ segments ++ trailingSegments trailing, '/' ∉ segment := by
    intro segment member
    rcases List.mem_append.mp member with inText | added
    · exact free segment inText
    · cases trailing with
      | true => simp [List.mem_singleton.mp added]
      | false => cases added
  have noQuery : '?' ∉ slashIf leading ++ text.toList ++ slashIf trailing := by
    cases leading <;> cases trailing <;> simpa [slashIf] using unasked
  rw [normalizeChars, spelled_toList, dropQuery_append noQuery, List.append_assoc, whole,
    markVersion_segments (by simp [nonempty]) unsplit begins,
    dropLeadingSlash_slashIf leading (halts_markedText begins)]

theorem Word.halts {word : List Char} (isWord : Word PathChar word) :
    Text.Halts (· == '/') word ∧ Text.Halts (· == '/') word.reverse :=
  ⟨Text.halts_of_free isWord.free,
    Text.halts_of_free fun c member => isWord.free c (List.mem_reverse.mp member)⟩

/-- A version ends with a character of a segment. -/
theorem VersionPath.ended {path : List Char} (version : VersionPath path) :
    path ≠ [] ∧ Text.Halts (· == '/') path.reverse := by
  cases version with
  | segment word => exact ⟨word.1, word.halts.2⟩
  | @pair first second left right =>
      refine ⟨by simp, ?_⟩
      rw [List.reverse_append, List.reverse_cons, List.append_assoc]
      exact Text.halts_append (by simpa using right.1) right.halts.2

theorem SelectorPath.ended {selector : List Char} (path : SelectorPath selector) :
    selector ≠ [] ∧ Text.Halts (· == '/') selector.reverse := by
  obtain ⟨segments, nonempty, words, rfl⟩ := path
  obtain ⟨first, rest, rfl⟩ := List.exists_cons_of_ne_nil nonempty
  have full := fun segment member => (words segment member).1
  exact ⟨Text.joinWith_ne_nil '/' _ _ (full first List.mem_cons_self),
    (Text.halts_joinWith (· == '/') '/' _ full fun segment member => (words segment member).free).2⟩

theorem halts_reverse_append {start ending : List Char} (nonempty : ending ≠ [])
    (ended : Text.Halts (· == '/') ending.reverse) :
    Text.Halts (· == '/') (start ++ ending).reverse := by
  rw [List.reverse_append]
  exact Text.halts_append (by simpa using nonempty) ended

section text

variable {reference : Reference} (wellFormed : reference.WellFormed)
include wellFormed

theorem WellFormed.text_ne_nil : reference.text.toList ≠ [] := by
  rw [text_toList]
  exact List.append_ne_nil_of_left_ne_nil wellFormed.user.1 _

/-- The text of a reference begins and ends with a character of a segment. -/
theorem WellFormed.text_halts : Text.Halts (· == '/') reference.text.toList ∧
    Text.Halts (· == '/') reference.text.toList.reverse := by
  constructor
  · rw [text_toList]
    exact Text.halts_append wellFormed.user.1 wellFormed.user.inPath.halts.1
  · have slug : Text.Halts (· == '/') reference.slug.toList.reverse := by
      cases named : reference.hasName with
      | true => exact (wellFormed.slug_halts named).2
      | false =>
          rw [Reference.slug, named, if_neg Bool.false_ne_true]
          exact wellFormed.user.inPath.halts.2
    rw [text, String.toList_append, String.toList_append]
    cases selected : reference.selector with
    | some selector =>
        have path := wellFormed.selectorPath selector selected
        rw [optionalPart_selector, ← List.singleton_append, ← List.append_assoc]
        exact halts_reverse_append path.ended.1 path.ended.2
    | none =>
        rw [optionalPart_none, String.toList_empty, List.append_nil]
        cases versioned : reference.path with
        | some path =>
            have version : VersionPath path.toList := by
              rcases wellFormed.parts with ⟨-, none, -⟩ | ⟨-, versions, -⟩
              · rw [versioned] at none
                cases none
              · exact versions path versioned
            rw [optionalPart_version, ← List.singleton_append, ← List.append_assoc]
            exact halts_reverse_append version.ended.1 version.ended.2
        | none => simpa using slug

/-- No other mark stands in the text of a reference. -/
theorem WellFormed.not_mem_text {mark : Char} (other : isPathChar mark = false)
    (unslashed : mark ≠ '/') (unversioned : mark ≠ '@') : mark ∉ reference.text.toList := by
  intro member
  rcases wellFormed.chars mark member with inSegment | slash | version
  · rw [(isPathChar_iff mark).mpr inSegment] at other
    cases other
  · exact unslashed slash
  · exact unversioned version

theorem WellFormed.not_asked : '?' ∉ reference.text.toList :=
  wellFormed.not_mem_text (by decide) (by decide) (by decide)

end text

theorem ofPath_eq_ok_iff (raw : String) (reference : Reference) :
    ofPath raw = .ok reference ↔
      normalizeChars raw.toList = reference.text.toList ∧ reference.WellFormed := by
  rw [ofPath, parse, normalizePath, String.toList_ofList, parseChars_eq_ok_iff]

/-- A segment `at` makes a text shorter, and no other one is changed. -/
theorem dropTrailingSlash_markedText_iff {segments : List (List Char)} {text : List Char}
    (nonempty : segments ≠ []) (joined : text = Text.joinWith '/' segments)
    (ended : Text.Halts (· == '/') text.reverse) (trailing : Bool) :
    dropTrailingSlash (markedText (segments ++ trailingSegments trailing)) = text ↔
      versionMarker ∉ segments.drop 2 := by
  have whole : Text.joinWith '/' (segments ++ trailingSegments trailing) =
      text ++ slashIf trailing := by
    rw [joinWith_trailing nonempty, joined]
  constructor
  · intro same marks
    have many : 2 ≤ segments.length := by
      have some := List.length_pos_of_mem marks
      rw [List.length_drop] at some
      omega
    have still : versionMarker ∈ (segments ++ trailingSegments trailing).drop 2 := by
      rw [List.drop_append_of_le_length many]
      exact List.mem_append_left _ marks
    have shorter := length_markedText (by simp only [List.length_append]; omega) still
    have cut := length_dropTrailingSlash_le (markedText (segments ++ trailingSegments trailing))
    have one : (slashIf trailing).length ≤ 1 := by cases trailing <;> decide
    rw [same] at cut
    rw [whole, List.length_append] at shorter
    omega
  · intro unmarked
    have unchanged : versionMarker ∉ (segments ++ trailingSegments trailing).drop 2 := by
      intro marks
      rw [List.drop_append] at marks
      rcases List.mem_append.mp marks with inText | added
      · exact unmarked inText
      · have empty := List.mem_of_mem_drop added
        cases trailing with
        | true => cases List.mem_singleton.mp empty
        | false => cases empty
    rw [markedText, (cutAtMarker_eq_none_iff _).mpr unchanged]
    dsimp only
    rw [whole, dropTrailingSlash_slashIf trailing ended]

/-- The first `at` after a user and a name stands for `@`, whatever they are and whatever
follows. -/
theorem markedText_marked (username name : List Char) {segments : List (List Char)}
    (filled : Text.joinWith '/' segments ≠ []) :
    markedText (username :: name :: versionMarker :: segments) =
      username ++ '/' :: (name ++ '@' :: '/' :: Text.joinWith '/' segments) := by
  have cut : cutAtMarker (versionMarker :: segments) = some ([], segments) := by
    rw [cutAtMarker, if_pos rfl]
  have version : versionText segments = '/' :: Text.joinWith '/' segments := by
    unfold versionText
    split
    · contradiction
    · rfl
  have start : (username :: name :: versionMarker :: segments).drop 2 =
      versionMarker :: segments := rfl
  rw [markedText, start, cut]
  dsimp only
  rw [version]
  simp [Text.joinWith]

theorem splitAt_ne_nil (text : List Char) : Text.splitAt '/' text ≠ [] :=
  Text.splitWhere_ne_nil _ text

theorem splitAt_free (text : List Char) : ∀ segment ∈ Text.splitAt '/' text, '/' ∉ segment := by
  intro segment member slash
  have other := (Text.mem_of_mem_splitWhere _ text segment '/' member slash).2
  simp at other

/-- What is read of a spelling with `at`, where a slash follows `@` in the text of a reference. -/
theorem normalizeChars_marked {reference : Reference} (wellFormed : reference.WellFormed)
    (named : reference.hasName = true) {rest : List Char} (filled : rest ≠ [])
    (text : reference.text.toList =
      reference.username.toList ++ '/' :: (reference.name.toList ++ '@' :: '/' :: rest))
    {marked : String}
    (written : marked.toList = reference.username.toList ++ '/' ::
      (reference.name.toList ++ '/' :: (versionMarker ++ '/' :: rest)))
    (leading trailing : Bool) (query : Option String) :
    normalizeChars (spelled leading trailing query marked).toList = reference.text.toList := by
  let segments :=
    [reference.username.toList, reference.name.toList, versionMarker] ++ Text.splitAt '/' rest
  have joined : marked.toList = Text.joinWith '/' segments := by
    rw [Text.joinWith_append '/' (List.cons_ne_nil _ _) (splitAt_ne_nil rest),
      Text.joinWith_splitAt, written]
    simp [Text.joinWith]
  have free : ∀ segment ∈ segments, '/' ∉ segment := by
    have words := wellFormed.slug_words named
    intro segment member
    rcases List.mem_append.mp member with first | later
    · simp only [List.mem_cons, List.not_mem_nil, or_false] at first
      rcases first with rfl | rfl | rfl
      · exact (words _ (by simp)).inPath.unslashed
      · exact (words _ (by simp)).inPath.unslashed
      · decide
    · exact splitAt_free rest segment later
  have rooted : Text.Halts (· == '/') marked.toList := by
    rw [written]
    exact Text.halts_append wellFormed.user.1 wellFormed.user.inPath.halts.1
  have begun : marked.toList ≠ [] := by
    rw [written]
    exact List.append_ne_nil_of_left_ne_nil wellFormed.user.1 _
  have unasked : '?' ∉ marked.toList := by
    have absent := wellFormed.not_asked
    rw [text] at absent
    rw [written]
    simp only [List.mem_append, List.mem_cons, not_or, versionMarker] at absent ⊢
    simpa using absent
  have after : Text.joinWith '/' (Text.splitAt '/' rest ++ trailingSegments trailing) =
      rest ++ slashIf trailing := by
    rw [joinWith_trailing (splitAt_ne_nil rest), Text.joinWith_splitAt]
  have following : Text.joinWith '/' (Text.splitAt '/' rest ++ trailingSegments trailing) ≠ [] := by
    rw [after]
    exact List.append_ne_nil_of_left_ne_nil filled _
  have version := markedText_marked reference.username.toList reference.name.toList following
  have whole : reference.username.toList ++ '/' ::
      (reference.name.toList ++ '@' :: '/' :: (rest ++ slashIf trailing)) =
        reference.text.toList ++ slashIf trailing := by
    rw [text]
    simp
  rw [after, whole] at version
  rw [normalizeChars_spelled (List.cons_ne_nil _ _) free joined rooted begun unasked]
  exact (congrArg dropTrailingSlash version).trans
    (dropTrailingSlash_slashIf trailing wellFormed.text_halts.2)

/-- A word without a slash goes as far as the next slash or the end. -/
theorem cut_at_slash {word rest : List Char} (free : '/' ∉ word)
    (halts : Text.Halts (· != '/') rest) :
    (word ++ rest).takeWhile (· != '/') = word ∧ (word ++ rest).dropWhile (· != '/') = rest := by
  refine (Text.run_eq_iff _ _ word rest).mpr ⟨rfl, fun c member => ?_, halts⟩
  have other : c ≠ '/' := fun slash => free (slash ▸ member)
  simpa using other

/-- The alias counts only where it is the whole first segment. -/
theorem substituteOwner_eq (owner text : List Char) :
    substituteOwner owner text =
      if text.takeWhile (· != '/') = ownerAlias.toList then owner ++ text.dropWhile (· != '/')
      else text := by
  have unslashed : '/' ∉ ownerAlias.toList := by decide
  unfold substituteOwner
  split
  · rename_i dropped
    obtain ⟨taken, rest⟩ := cut_at_slash unslashed (Text.halts_nil _)
    rw [(Text.dropStart?_eq_some_iff _ _ _).mp dropped, taken, rest, if_pos rfl, List.append_nil]
  · rename_i more dropped
    have halts : Text.Halts (· != '/') ('/' :: more) := (Text.halts_cons _ _ _).mpr rfl
    obtain ⟨taken, rest⟩ := cut_at_slash unslashed halts
    rw [(Text.dropStart?_eq_some_iff _ _ _).mp dropped, taken, rest, if_pos rfl]
  · rename_i notAlone notFirst
    refine (if_neg fun first => ?_).symm
    obtain ⟨whole, -, halts⟩ := (Text.run_eq_iff _ _ _ _).mp ⟨first, rfl⟩
    have dropped : Text.dropStart? ownerAlias.toList text =
        some (text.dropWhile (· != '/')) := (Text.dropStart?_eq_some_iff _ _ _).mpr whole
    cases rest : text.dropWhile (· != '/') with
    | nil => exact notAlone (rest ▸ dropped)
    | cons c more =>
        rw [rest, Text.halts_cons] at halts
        obtain rfl : c = '/' := by simpa using halts
        exact notFirst more (rest ▸ dropped)

/-- The alias of the caller is no other user, so that no owner takes the place of one. -/
theorem substituteOwner_of_user {user rest : List Char} (free : '/' ∉ user)
    (other : user ≠ ownerAlias.toList) (owner : List Char) :
    substituteOwner owner (user ++ '/' :: rest) = user ++ '/' :: rest := by
  have halts : Text.Halts (· != '/') ('/' :: rest) := (Text.halts_cons _ _ _).mpr rfl
  rw [substituteOwner_eq, (cut_at_slash free halts).1, if_neg other]

/-- A spelling with `at` is read alike, whoever asks for it. -/
theorem resolve_marked {reference : Reference} (wellFormed : reference.WellFormed)
    (named : reference.hasName = true) {rest : List Char} (filled : rest ≠ [])
    (text : reference.text.toList =
      reference.username.toList ++ '/' :: (reference.name.toList ++ '@' :: '/' :: rest))
    {marked : String}
    (written : marked.toList = reference.username.toList ++ '/' ::
      (reference.name.toList ++ '/' :: (versionMarker ++ '/' :: rest)))
    (owner : Option String) : resolve marked owner = .ok reference := by
  have normalized := normalizeChars_marked wellFormed named filled text written false false none
  have plain : spelled false false none marked = marked := by
    simp [spelled, optionalPart]
  rw [plain] at normalized
  have read := parseChars_text reference wellFormed
  unfold resolve
  rw [normalized]
  cases owner.filter (· != "") with
  | none => exact read
  | some owner =>
      dsimp only
      rw [text, substituteOwner_of_user wellFormed.user.inPath.unslashed
        (fun same => wellFormed.notOwner (String.toList_inj.mp same)), ← text, read]

section slug

variable {reference : Reference} (wellFormed : reference.WellFormed)
  (named : reference.hasName = true)
include wellFormed named

/-- The text of a dataset is no other path in disguise. -/
theorem normalizeChars_slug : normalizeChars reference.slug.toList = reference.slug.toList := by
  have halts := wellFormed.slug_halts named
  have joined := slug_toList named
  have unasked : '?' ∉ reference.slug.toList :=
    wellFormed.not_mem_slug named (by decide) (by decide)
  have plain : spelled false false none reference.slug = reference.slug := by
    simp [spelled, optionalPart]
  have read := normalizeChars_spelled (List.cons_ne_nil _ _)
    (fun piece member => (wellFormed.slug_words named piece member).inPath.unslashed) joined halts.1
    (wellFormed.slug_ne_nil named) unasked false false none
  rw [plain] at read
  rw [read]
  exact (dropTrailingSlash_markedText_iff (List.cons_ne_nil _ _) joined halts.2 false).mpr (by simp)

theorem substituteOwner_slug (owner : List Char) :
    substituteOwner owner reference.slug.toList = reference.slug.toList := by
  have written : reference.slug.toList =
      reference.username.toList ++ '/' :: reference.name.toList := slug_toList named
  rw [written]
  exact substituteOwner_of_user wellFormed.user.inPath.unslashed
    (fun same => wellFormed.notOwner (String.toList_inj.mp same)) owner

/-- The text of a dataset is read as the dataset, whoever asks for it. -/
theorem resolve_slug (owner : Option String) :
    resolve reference.slug owner = .ok reference.dataset := by
  have read := parseChars_text reference.dataset wellFormed.dataset
  rw [text_dataset] at read
  simp only [resolve, normalizeChars_slug wellFormed named]
  cases owner.filter (· != "") with
  | none => exact read
  | some owner =>
      dsimp only
      rw [substituteOwner_slug wellFormed named, read]

end slug

/-- A reference is read from every spelling of its text, exactly if the text has no segment `at`
from the third on. Where its version is a pair of segments, it is read as well from every spelling
with `at` before the pair, whatever the segments are. -/
theorem ofPath_spelled (reference : Reference) (wellFormed : reference.WellFormed)
    (leading trailing : Bool) (query : Option String) :
    (ofPath (spelled leading trailing query reference.text) = .ok reference ↔
      "at".toList ∉ (Text.splitAt '/' reference.text.toList).drop 2) ∧
    ∀ first second, reference.path = some ("/" ++ first ++ "/" ++ second) →
      ofPath (spelled leading trailing query
        (reference.username ++ "/" ++ reference.name ++ "/at/" ++ first ++ "/" ++ second ++
          optionalPart "/" reference.selector)) = .ok reference := by
  constructor
  · have nonempty := splitAt_ne_nil reference.text.toList
    have joined := (Text.joinWith_splitAt '/' reference.text.toList).symm
    rw [ofPath_eq_ok_iff, normalizeChars_spelled nonempty (splitAt_free _) joined
      wellFormed.text_halts.1 wellFormed.text_ne_nil wellFormed.not_asked]
    refine (and_iff_left wellFormed).trans ?_
    exact dropTrailingSlash_markedText_iff nonempty joined wellFormed.text_halts.2 trailing
  · intro first second versioned
    have name : reference.name ≠ "" := by
      rcases wellFormed.parts with ⟨-, none, -⟩ | ⟨word, -, -⟩
      · rw [versioned] at none
        cases none
      · exact fun empty => word.1 (by simp [empty])
    have named : reference.hasName = true := by simpa [hasName] using name
    let rest :=
      first.toList ++ '/' :: (second.toList ++ (optionalPart "/" reference.selector).toList)
    have text : reference.text.toList =
        reference.username.toList ++ '/' :: (reference.name.toList ++ '@' :: '/' :: rest) := by
      rw [text_toList, if_neg name, versioned, optionalPart_version]
      simp [rest]
    have filled : rest ≠ [] := by simp [rest]
    rw [ofPath_eq_ok_iff, normalizeChars_marked wellFormed named filled text
      (by simp [rest, versionMarker])]
    exact ⟨rfl, wellFormed⟩

/-- A dataset of the name `at`, with a version and a selector that hold segments `at`. -/
def manyMarks : Reference :=
  { username := "at", name := "at", path := some "/at/v1", selector := some "at/at" }

theorem wellFormed_manyMarks : manyMarks.WellFormed :=
  ((parseChars_eq_ok_iff manyMarks.text.toList manyMarks).mp (by decide)).2

/-- With `at` before its version a reference is read whose own text is not. -/
theorem manyMarks_spelled :
    manyMarks.WellFormed ∧ ofPath "/at/at@/at/v1/at/at/?page=2" ≠ .ok manyMarks ∧
      ofPath "/at/at/at/at/v1/at/at/?page=2" = .ok manyMarks := by
  obtain ⟨canonical, marked⟩ :=
    ofPath_spelled manyMarks wellFormed_manyMarks true true (some "page=2")
  refine ⟨wellFormed_manyMarks, fun read => canonical.mp read (by decide), ?_⟩
  exact marked "at" "v1" rfl

end DatasetService.Reference
