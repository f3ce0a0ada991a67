import DatasetService.Proofs.Reference.Grammar
import DatasetService.Store.Query

set_option autoImplicit false

/- The text of a query, and its other spellings. Reading any of them gives the query back, unless
its limit is too large. -/
namespace DatasetService.Query

/-- A query as it is written: keywords in capitals, and one space between words. -/
def text (query : Query) : String :=
  "SELECT * FROM " ++ query.reference.text ++
    match query.limit with
    | none => ""
    | some count => " LIMIT " ++ toString count

def limitWords : Option Nat → List (List Char)
  | none => []
  | some count => ["LIMIT".toList, Nat.toDigits 10 count]

def words (query : Query) : List (List Char) :=
  "SELECT".toList :: ['*'] :: "FROM".toList :: query.reference.text.toList ::
    limitWords query.limit

theorem text_toList (query : Query) : query.text.toList = Text.joinWith ' ' query.words := by
  cases limit : query.limit with
  | none => simp [text, words, limit, limitWords, Text.joinWith]
  | some count => simp [text, words, limit, limitWords, Text.joinWith, Nat.toString_eq_repr]

/-- A character of a word. No semicolon is taken off the end of a text of these. -/
def isPlain (c : Char) : Bool := !Text.isBlank c && c != ';'

theorem unblank_of_isPlain {c : Char} (plain : isPlain c = true) : Text.isBlank c = false := by
  simp only [isPlain, Bool.and_eq_true, Bool.not_eq_true'] at plain
  exact plain.1

theorem unmarked_of_isPlain {c : Char} (plain : isPlain c = true) : (c == ';') = false := by
  simp only [isPlain, Bool.and_eq_true, bne_iff_ne] at plain
  simpa using plain.2

theorem isPlain_of_graphic {c : Char} (low : 32 < c.toNat) (high : c.toNat < 127)
    (other : c ≠ ';') : isPlain c = true := by
  have graphic : Text.isBlank c = false := by
    simp only [Text.isBlank, Text.blankRanges, List.any_cons, List.any_nil, Bool.or_false,
      Bool.or_eq_false_iff, Bool.and_eq_false_imp, decide_eq_true_eq, decide_eq_false_iff_not]
    omega
  simp [isPlain, graphic, other]

theorem graphic_of_pathChar {c : Char} (accepted : Reference.PathChar c) :
    32 < c.toNat ∧ c.toNat < 127 ∧ c ≠ ';' := by
  have numbers : 32 < c.toNat ∧ c.toNat < 127 ∧ c.toNat ≠ 59 := by
    rcases accepted with (⟨low, high⟩ | ⟨low, high⟩ | ⟨low, high⟩ | rfl | rfl) | rfl
    · change 65 ≤ c.toNat at low
      change c.toNat ≤ 90 at high
      omega
    · change 97 ≤ c.toNat at low
      change c.toNat ≤ 122 at high
      omega
    · change 48 ≤ c.toNat at low
      change c.toNat ≤ 57 at high
      omega
    · decide
    · decide
    · decide
  exact ⟨numbers.1, numbers.2.1, fun semicolon => numbers.2.2 (by rw [semicolon]; rfl)⟩

theorem isPlain_of_pathChar {c : Char} (accepted : Reference.PathChar c) : isPlain c = true := by
  obtain ⟨low, high, other⟩ := graphic_of_pathChar accepted
  exact isPlain_of_graphic low high other

theorem isPlain_of_isDigit {c : Char} (digit : c.isDigit = true) : isPlain c = true := by
  have numbers := Char.isDigit_iff_toNat.mp digit
  change 48 ≤ c.toNat ∧ c.toNat ≤ 57 at numbers
  refine isPlain_of_graphic (by omega) (by omega) ?_
  rintro rfl
  cases digit

theorem isPlain_of_mem_text {reference : Reference} (wellFormed : reference.WellFormed) {c : Char}
    (member : c ∈ reference.text.toList) : isPlain c = true := by
  rcases wellFormed.chars c member with accepted | rfl | rfl
  · exact isPlain_of_pathChar accepted
  · decide
  · decide

theorem text_ne_nil {reference : Reference} (wellFormed : reference.WellFormed) :
    reference.text.toList ≠ [] := by
  have nonempty := wellFormed.user.1
  rw [Reference.text_toList]
  simp [nonempty]

/-- A word of a query: no blank or semicolon is in it. -/
structure IsWord (word : List Char) : Prop where
  nonempty : word ≠ []
  plain : ∀ c ∈ word, isPlain c = true

theorem isWord_of_all {word : List Char} (nonempty : word ≠ []) (all : word.all isPlain = true) :
    IsWord word :=
  ⟨nonempty, List.all_eq_true.mp all⟩

section words

/-- A keyword in letters of any case. -/
def Cased (keyword : String) (word : List Char) : Prop :=
  List.Forall₂ (fun small c => c = small ∨ c = small.toUpper) keyword.toList word

instance (keyword : String) (word : List Char) : Decidable (Cased keyword word) :=
  inferInstanceAs (Decidable (List.Forall₂ _ _ _))

/-- A letter that is read alike as it is and as a capital. -/
def isSmall (c : Char) : Bool :=
  isPlain c && isPlain c.toUpper && c.toLower == c && c.toUpper.toLower == c

variable {keyword : String} {word : List Char}

theorem Cased.isKeyword (cased : Cased keyword word) (small : keyword.toList.all isSmall = true) :
    isKeyword keyword word = true := by
  suffices same : Text.lower word = keyword.toList by rw [Query.isKeyword, same, beq_self_eq_true]
  unfold Cased at cased
  generalize keyword.toList = letters at cased small
  induction cased with
  | nil => rfl
  | cons first _ ih =>
      simp only [List.all_cons, isSmall, Bool.and_eq_true, beq_iff_eq] at small
      obtain ⟨⟨⟨-, own⟩, capital⟩, others⟩ := small
      rw [Text.lower, List.map_cons]
      rcases first with rfl | rfl
      · rw [own]
        exact congrArg _ (ih others)
      · rw [capital]
        exact congrArg _ (ih others)

theorem Cased.isWord (cased : Cased keyword word) (small : keyword.toList.all isSmall = true)
    (nonempty : keyword.toList ≠ []) : IsWord word := by
  constructor
  · intro none
    apply nonempty
    rw [← List.length_eq_zero_iff, List.Forall₂.length_eq cased, none, List.length_nil]
  · unfold Cased at cased
    clear nonempty
    generalize keyword.toList = letters at cased small
    induction cased with
    | nil => exact fun c member => absurd member List.not_mem_nil
    | cons first _ ih =>
        simp only [List.all_cons, isSmall, Bool.and_eq_true] at small
        obtain ⟨⟨⟨⟨own, capital⟩, -⟩, -⟩, others⟩ := small
        refine List.forall_mem_cons.mpr ⟨?_, ih others⟩
        rcases first with rfl | rfl
        · exact own
        · exact capital

/-- The words of a query. -/
inductive Worded (query : Query) : List (List Char) → Prop
  | whole {select source : List Char} (selects : Cased "select" select)
      (sources : Cased "from" source) (unlimited : query.limit = none) :
      Worded query [select, ['*'], source, query.reference.text.toList]
  | limited {select source limit : List Char} {count : Nat} (selects : Cased "select" select)
      (sources : Cased "from" source) (limits : Cased "limit" limit)
      (limited : query.limit = some count) :
      Worded query
        [select, ['*'], source, query.reference.text.toList, limit, Nat.toDigits 10 count]

variable {query : Query} {words : List (List Char)}

theorem Worded.isWord (worded : Worded query words) (wellFormed : query.reference.WellFormed) :
    ∀ word ∈ words, IsWord word := by
  have star : IsWord ['*'] := isWord_of_all (by decide) (by decide +kernel)
  have table : IsWord query.reference.text.toList :=
    ⟨text_ne_nil wellFormed, fun c inside => isPlain_of_mem_text wellFormed inside⟩
  cases worded with
  | whole selects sources unlimited =>
      have select := selects.isWord (by decide +kernel) (by decide)
      have source := sources.isWord (by decide +kernel) (by decide)
      simpa using ⟨select, star, source, table⟩
  | limited selects sources limits limited =>
      have select := selects.isWord (by decide +kernel) (by decide)
      have source := sources.isWord (by decide +kernel) (by decide)
      have limit := limits.isWord (by decide +kernel) (by decide)
      have digits (count : Nat) : IsWord (Nat.toDigits 10 count) :=
        ⟨Nat.toDigits_ne_nil, fun c inside =>
          isPlain_of_isDigit (Literal.isDigit_of_mem_toDigits inside)⟩
      simpa using ⟨select, star, source, table, limit, digits _⟩

theorem clauses_worded (worded : Worded query words) :
    clauses words =
      if query.limit.all (· ≤ Literal.maxCount) then
        .ok (query.reference.text.toList, query.limit)
      else .error unsupported := by
  cases worded with
  | whole selects sources unlimited =>
      have select := selects.isKeyword (by decide +kernel)
      have source := sources.isKeyword (by decide +kernel)
      simp only [clauses, select, source, unlimited, Bool.and_self, if_true, Option.all_none]
  | @limited _ _ _ count selects sources limits limited =>
      have select := selects.isKeyword (by decide +kernel)
      have source := sources.isKeyword (by decide +kernel)
      have limit := limits.isKeyword (by decide +kernel)
      have read := Literal.count?_toDigits count
      simp only [clauses, select, source, limit, limited, Bool.and_self, if_true, read,
        Option.all_some, decide_eq_true_eq]
      by_cases small : count ≤ Literal.maxCount
      · simp only [small, if_true]
      · simp only [small, if_false]

end words

section spacing

/-- Words in a row, with blanks between them. -/
inductive Spaced : List (List Char) → List Char → Prop
  | last (word : List Char) : Spaced [word] word
  | next {words : List (List Char)} {text : List Char} (word gap : List Char)
      (nonempty : gap ≠ []) (blank : Text.isBlankText gap = true) (others : Spaced words text) :
      Spaced (word :: words) (word ++ (gap ++ text))

theorem spaced_joinWith {words : List (List Char)} (nonempty : words ≠ []) :
    Spaced words (Text.joinWith ' ' words) := by
  induction words with
  | nil => exact absurd rfl nonempty
  | cons word rest ih =>
      cases rest with
      | nil => exact .last word
      | cons next more =>
          have others := ih (List.cons_ne_nil _ _)
          exact .next word [' '] (List.cons_ne_nil _ _) (by decide) others

variable {words : List (List Char)} {inner gap rest text word : List Char}

/-- A text begins and ends as its words do. -/
theorem Spaced.halts (spaced : Spaced words inner) (areWords : ∀ word ∈ words, IsWord word)
    {test : Char → Bool} (stops : ∀ c, isPlain c = true → test c = false) :
    inner ≠ [] ∧ Text.Halts test inner ∧ Text.Halts test inner.reverse := by
  have free : ∀ word ∈ words, ∀ c ∈ word, test c = false :=
    fun word isWord c inside => stops c ((areWords word isWord).plain c inside)
  induction spaced with
  | last word =>
      have isWord := areWords word List.mem_cons_self
      have plain := free word List.mem_cons_self
      refine ⟨isWord.nonempty, Text.halts_of_free plain, Text.halts_of_free ?_⟩
      exact fun c inside => plain c (List.mem_reverse.mp inside)
  | next word gap nonempty blank others ih =>
      have isWord := areWords word List.mem_cons_self
      obtain ⟨more, -, ending⟩ := ih (fun other member => areWords other (.tail _ member))
        (fun other member => free other (.tail _ member))
      have start := Text.halts_of_free (free word List.mem_cons_self)
      refine ⟨by simp [isWord.nonempty], Text.halts_append isWord.nonempty start, ?_⟩
      rw [← List.append_assoc, List.reverse_append]
      exact Text.halts_append (by simpa using more) ending

/-- The words of a text. -/
def pieces (text : List Char) : List (List Char) :=
  (Text.splitWhere Text.isBlank text).filter (! ·.isEmpty)

theorem pieces_gap (blank : Text.isBlankText gap = true) (text : List Char) :
    pieces (gap ++ text) = pieces text := by
  induction gap with
  | nil => rfl
  | cons c gap ih =>
      simp only [Text.isBlankText, List.all_cons, Bool.and_eq_true] at blank
      rw [← ih blank.2]
      simp [pieces, Text.splitWhere, blank.1]

theorem IsWord.unblank (isWord : IsWord word) : ∀ c ∈ word, Text.isBlank c = false :=
  fun c inside => unblank_of_isPlain (isWord.plain c inside)

theorem pieces_word (isWord : IsWord word) (nonempty : gap ≠ [])
    (blank : Text.isBlankText gap = true) (text : List Char) :
    pieces (word ++ (gap ++ text)) = word :: pieces text := by
  rw [← pieces_gap blank text]
  cases gap with
  | nil => exact absurd rfl nonempty
  | cons c gap =>
      simp only [Text.isBlankText, List.all_cons, Bool.and_eq_true] at blank
      have parts := Text.splitWhere_piece Text.isBlank word c (gap ++ text) isWord.unblank blank.1
      have full := isWord.nonempty
      simp [pieces, parts, Text.splitWhere, full, blank.1]

theorem pieces_last (isWord : IsWord word) (blank : Text.isBlankText rest = true) :
    pieces (word ++ rest) = [word] := by
  cases rest with
  | nil =>
      have full := isWord.nonempty
      simp [pieces, Text.splitWhere_of_none _ _ isWord.unblank, full]
  | cons c rest =>
      have parted := pieces_word isWord (List.cons_ne_nil c rest) blank []
      rwa [List.append_nil] at parted

theorem pieces_spaced (spaced : Spaced words inner) (areWords : ∀ word ∈ words, IsWord word)
    (blank : Text.isBlankText rest = true) : pieces (inner ++ rest) = words := by
  induction spaced with
  | last word => exact pieces_last (areWords word List.mem_cons_self) blank
  | next word gap nonempty isGap others ih =>
      rw [List.append_assoc, List.append_assoc,
        pieces_word (areWords word List.mem_cons_self) nonempty isGap,
        ih fun other member => areWords other (.tail _ member)]

end spacing

section spelling

/-- A way to write a query: keywords in any case, blanks between the words and around them, and
semicolons at the end. -/
inductive Spelling (query : Query) (text : String) : Prop
  | intro {words : List (List Char)} {inner : List Char} (before between after : List Char)
      (marks : Nat)
      (worded : Worded query words) (spaced : Spaced words inner)
      (blankBefore : Text.isBlankText before = true)
      (blankBetween : Text.isBlankText between = true)
      (blankAfter : Text.isBlankText after = true)
      (whole : text.toList =
        before ++ (inner ++ between ++ List.replicate marks ';' ++ after))

variable {query : Query} {text : String} {words : List (List Char)}
  {before inner between after : List Char}

theorem unmarked_of_blank (blank : Text.isBlankText between = true) :
    ∀ c ∈ between, (c == ';') = false := by
  intro c inside
  have isBlank := List.all_eq_true.mp blank c inside
  cases same : c == ';' with
  | false => rfl
  | true =>
      rw [eq_of_beq same] at isBlank
      cases isBlank

/-- The semicolons are taken off the end. -/
theorem dropMarks_spaced (spaced : Spaced words inner) (areWords : ∀ word ∈ words, IsWord word)
    (blank : Text.isBlankText between = true) (marks : Nat) :
    Text.dropEndWhile (· == ';') (inner ++ between ++ List.replicate marks ';') =
      inner ++ between := by
  have ending := (spaced.halts areWords fun c => unmarked_of_isPlain).2.2
  refine Text.dropEndWhile_append (fun c member => by simp [List.eq_of_mem_replicate member]) ?_
  rw [List.reverse_append]
  have unmarked := unmarked_of_blank blank
  cases last : between.reverse with
  | nil => exact ending
  | cons c rest =>
      exact (Text.halts_cons _ _ _).mpr (unmarked c (List.mem_reverse.mp (by simp [last])))

/-- The blanks around a spelling are taken off. Those before the semicolons are left, if there is
any semicolon. -/
theorem trim_spaced (spaced : Spaced words inner) (areWords : ∀ word ∈ words, IsWord word)
    (blankBefore : Text.isBlankText before = true) (blankBetween : Text.isBlankText between = true)
    (blankAfter : Text.isBlankText after = true) (marks : Nat) :
    Text.trim (before ++ (inner ++ between ++ List.replicate marks ';' ++ after)) =
      if marks = 0 then inner else inner ++ between ++ List.replicate marks ';' := by
  obtain ⟨full, start, ending⟩ := spaced.halts areWords fun c => unblank_of_isPlain
  have starts :
      Text.Halts Text.isBlank (inner ++ between ++ List.replicate marks ';' ++ after) := by
    simp only [List.append_assoc]
    exact Text.halts_append full start
  rw [Text.trim, Text.trimStart, List.dropWhile_append_of_pos (List.all_eq_true.mp blankBefore),
    Text.dropWhile_of_halts _ _ starts, Text.trimEnd]
  cases marks with
  | zero =>
      have blanks : ∀ c ∈ between ++ after, Text.isBlank c = true := fun c member =>
        (List.mem_append.mp member).elim (List.all_eq_true.mp blankBetween c)
          (List.all_eq_true.mp blankAfter c)
      rw [if_pos rfl, List.replicate_zero, List.append_nil, List.append_assoc,
        Text.dropEndWhile_append blanks ending]
  | succ marks =>
      have ends : Text.Halts Text.isBlank
          (inner ++ between ++ List.replicate (marks + 1) ';').reverse := by
        rw [List.replicate_succ', ← List.append_assoc, List.reverse_append]
        exact (Text.halts_cons _ _ _).mpr (by decide)
      rw [if_neg (Nat.succ_ne_zero marks),
        Text.dropEndWhile_append (List.all_eq_true.mp blankAfter) ends]

/-- What is left of a spelling are its words, and blanks that stood before semicolons. -/
theorem prune_spaced (spaced : Spaced words inner) (areWords : ∀ word ∈ words, IsWord word)
    (blankBefore : Text.isBlankText before = true) (blankBetween : Text.isBlankText between = true)
    (blankAfter : Text.isBlankText after = true) (marks : Nat) :
    ∃ rest, Text.isBlankText rest = true ∧
      Text.dropEndWhile (· == ';')
        (Text.trim (before ++ (inner ++ between ++ List.replicate marks ';' ++ after))) =
          inner ++ rest := by
  rw [trim_spaced spaced areWords blankBefore blankBetween blankAfter marks]
  by_cases unmarked : marks = 0
  · have none : Text.isBlankText [] = true := rfl
    have bare := dropMarks_spaced spaced areWords none 0
    rw [List.replicate_zero, List.append_nil, List.append_nil] at bare
    refine ⟨[], none, ?_⟩
    rw [if_pos unmarked, bare, List.append_nil]
  · refine ⟨between, blankBetween, ?_⟩
    rw [if_neg unmarked, dropMarks_spaced spaced areWords blankBetween]

/-- The words of a spelling are read one by one. -/
theorem worded_tokens (spelling : Spelling query text) (wellFormed : query.reference.WellFormed) :
    Worded query (tokens text) := by
  cases spelling with
  | @intro words inner before between after marks worded spaced blankBefore blankBetween
      blankAfter whole =>
      have areWords := worded.isWord wellFormed
      obtain ⟨rest, blank, kept⟩ :=
        prune_spaced spaced areWords blankBefore blankBetween blankAfter marks
      rw [← whole] at kept
      have split : tokens text = words :=
        (congrArg pieces kept).trans (pieces_spaced spaced areWords blank)
      rwa [split]

/-- Every spelling of a query is read as the query. A limit of more than 64 bits is not read. -/
theorem parse_spelling (spelling : Spelling query text) (wellFormed : query.reference.WellFormed)
    (named : query.reference.hasName = true) :
    parse text =
      if query.limit.all (· ≤ Literal.maxCount) then .ok query else .error unsupported := by
  have read := Reference.parseChars_text query.reference wellFormed
  rw [parse, clauses_worded (worded_tokens spelling wellFormed)]
  split
  · simp only [bind, Except.bind, read, named, if_true]
    rfl
  · rfl

theorem worded_words (query : Query) : Worded query query.words := by
  cases limit : query.limit with
  | none =>
      rw [words, limit]
      exact .whole (by decide) (by decide) limit
  | some count =>
      rw [words, limit]
      exact .limited (by decide) (by decide) (by decide) limit

theorem spelling_text (query : Query) : Spelling query query.text := by
  have spaced : Spaced query.words _ := spaced_joinWith (List.cons_ne_nil _ _)
  have none : Text.isBlankText [] = true := rfl
  refine .intro [] [] [] 0 (worded_words query) spaced none none none ?_
  simp [text_toList]

theorem parse_text (query : Query) (wellFormed : query.reference.WellFormed)
    (named : query.reference.hasName = true) :
    parse query.text =
      if query.limit.all (· ≤ Literal.maxCount) then .ok query else .error unsupported :=
  parse_spelling (spelling_text query) wellFormed named

end spelling

end DatasetService.Query
