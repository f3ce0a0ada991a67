import DatasetService.Proofs.Reference.Spelling

set_option autoImplicit false

/- The owner in place of the alias. What follows the alias in a path stays as it is written, and
the owner's name comes before it. A name without a slash is the user of what is read; one with a
slash is read as a user and the name of a dataset. -/
namespace DatasetService.Reference

/-- What the text of a reference says after the user. -/
def remainder (reference : Reference) : List Char :=
  (if reference.name = "" then [] else '/' :: reference.name.toList) ++
    ((optionalPart "@" reference.path).toList ++ (optionalPart "/" reference.selector).toList)

section parts

variable {reference : Reference} (wellFormed : reference.WellFormed)
include wellFormed

theorem WellFormed.unnamed_or_named :
    reference.remainder = [] ∨ reference.hasName = true ∧
      reference.remainder = '/' :: (reference.name.toList ++
        ((optionalPart "@" reference.path).toList ++
          (optionalPart "/" reference.selector).toList)) := by
  rcases wellFormed.parts with ⟨unnamed, path, selector⟩ | ⟨word, -, -⟩
  · exact Or.inl (by simp [remainder, unnamed, path, selector])
  · have named : reference.name ≠ "" := fun empty => word.1 (by simp [empty])
    exact Or.inr ⟨by simpa [hasName] using named, by simp [remainder, named]⟩

theorem WellFormed.halts_remainder : Text.Halts (· != '/') reference.remainder := by
  rcases wellFormed.unnamed_or_named with none | ⟨-, named⟩
  · rw [none]
    exact Text.halts_nil _
  · rw [named]
    exact (Text.halts_cons _ _ _).mpr rfl

variable {owner rest : List Char} (halts : Text.Halts (· != '/') rest)
  (text : reference.text.toList = owner ++ rest)
include halts text

/-- Without a slash the owner is the user, and the rest is what follows the user. -/
theorem WellFormed.user_of_unslashed (free : '/' ∉ owner) :
    reference.username.toList = owner ∧ reference.remainder = rest := by
  have cut := cut_at_slash free halts
  have whole : reference.text.toList = reference.username.toList ++ reference.remainder :=
    text_toList reference
  have user := cut_at_slash wellFormed.user.inPath.unslashed wellFormed.halts_remainder
  rw [← text, whole, user.1, user.2] at cut
  exact cut

/-- With a slash the owner goes on after the user: it is the text of a dataset, with or without
the beginning of what follows. -/
theorem WellFormed.slug_of_slashed (slash : '/' ∈ owner) : reference.hasName = true ∧
    ∃ tail, owner = reference.slug.toList ++ tail ∧
      (optionalPart "@" reference.path).toList ++ (optionalPart "/" reference.selector).toList =
        tail ++ rest := by
  have user : '/' ∉ reference.username.toList := wellFormed.user.inPath.unslashed
  have whole : reference.text.toList = reference.username.toList ++ reference.remainder :=
    text_toList reference
  rw [whole] at text
  rcases List.append_eq_append_iff.mp text with ⟨more, written, later⟩ | ⟨more, written, -⟩
  · rcases wellFormed.unnamed_or_named with none | ⟨named, parts⟩
    · -- A user alone has no slash in the text.
      rw [none] at later
      obtain ⟨rfl, -⟩ := List.append_eq_nil_iff.mp later.symm
      rw [written, List.append_nil] at slash
      exact absurd slash user
    have name : '/' ∉ reference.name.toList := (wellFormed.name_word named).inPath.unslashed
    have slug : reference.slug.toList =
        reference.username.toList ++ '/' :: reference.name.toList := slug_toList named
    rw [parts] at later
    refine ⟨named, ?_⟩
    cases more with
    | nil =>
        rw [written, List.append_nil] at slash
        exact absurd slash user
    | cons c more =>
        rw [List.cons_append] at later
        obtain ⟨rfl, after⟩ := List.cons.inj later
        rcases List.append_eq_append_iff.mp after with ⟨tail, rfl, ends⟩ | ⟨cut, word, ends⟩
        · refine ⟨tail, ?_, ends⟩
          rw [written, slug, List.append_assoc, List.cons_append]
        · -- The name does not go on into what follows the owner, which is nothing or a slash.
          cases cut with
          | nil =>
              rw [List.append_nil] at word
              refine ⟨[], ?_, ends.symm⟩
              rw [written, slug, word, List.append_nil]
          | cons mark cut =>
              rw [ends] at halts
              obtain rfl : mark = '/' := by simpa using halts
              exact absurd (word ▸ List.mem_append_right more List.mem_cons_self) name
  · exact absurd (written ▸ List.mem_append_left more slash) user

end parts

/-- Another user in front of the same remainder makes another reference alike. -/
theorem WellFormed.withUser {reference : Reference} (wellFormed : reference.WellFormed)
    {user : String} (word : Word IdentifierChar user.toList) (other : user ≠ ownerAlias) :
    parseChars (user.toList ++ reference.remainder) = .ok { reference with username := user } := by
  rw [parseChars_eq_ok_iff]
  exact ⟨(text_toList { reference with username := user }).symm, word, other, wellFormed.parts⟩

theorem resolve_owner {owner : String} (given : owner ≠ "") (raw : String) :
    resolve raw (some owner) =
      parseChars (substituteOwner owner.toList (normalizeChars raw.toList)) := by
  simp [resolve, Option.filter, given]

/-- An owner takes the place of the alias, if that is the first segment of a path, and otherwise
the path is read as if nobody asked. What is read then is the text of the owner with what follows
the alias behind it, and there is no more to it: an owner without a slash is the user, with the
name, the version and the selector that the path gives to any user. But an owner with a slash is
taken for a user and the name of a dataset at least, and the path only goes on from there. -/
theorem resolve_puts_owner (raw owner : String) (given : owner ≠ "") :
    let path := normalizeChars raw.toList
    ((Text.splitAt '/' path).head? ≠ some ownerAlias.toList →
      resolve raw (some owner) = ofPath raw) ∧
    ((Text.splitAt '/' path).head? = some ownerAlias.toList →
      ∃ rest, path = ownerAlias.toList ++ rest ∧
        ∀ reference, resolve raw (some owner) = .ok reference →
          reference.WellFormed ∧ reference.text.toList = owner.toList ++ rest ∧
          ('/' ∉ owner.toList → reference.username = owner ∧
            ∀ user : String, Word IdentifierChar user.toList → user ≠ ownerAlias →
              parseChars (user.toList ++ rest) = .ok { reference with username := user }) ∧
          ('/' ∈ owner.toList → reference.hasName = true ∧
            ∃ tail, owner.toList = reference.slug.toList ++ tail ∧
              (optionalPart "@" reference.path).toList ++
                (optionalPart "/" reference.selector).toList = tail ++ rest)) := by
  intro path
  rw [Text.head?_splitAt, resolve_owner given, substituteOwner_eq]
  refine ⟨fun other => ?_, fun first => ?_⟩
  · have notAlias : path.takeWhile (· != '/') ≠ ownerAlias.toList :=
      fun same => other (congrArg some same)
    rw [if_neg notAlias, ofPath, parse, normalizePath, String.toList_ofList]
  · have whole : path.takeWhile (· != '/') = ownerAlias.toList := Option.some.inj first
    obtain ⟨text, -, halts⟩ := (Text.run_eq_iff _ path _ _).mp ⟨whole, rfl⟩
    rw [if_pos whole]
    refine ⟨path.dropWhile (· != '/'), text, fun reference read => ?_⟩
    obtain ⟨text, wellFormed⟩ := (parseChars_eq_ok_iff _ reference).mp read
    refine ⟨wellFormed, text.symm, fun free => ?_, wellFormed.slug_of_slashed halts text.symm⟩
    obtain ⟨user, remainder⟩ := wellFormed.user_of_unslashed halts text.symm free
    refine ⟨String.toList_inj.mp user, fun other word notOwner => ?_⟩
    rw [← remainder]
    exact wellFormed.withUser word notOwner

theorem me_stands_for_owner :
    "peer" ≠ "" ∧
    resolve "/me/birds@v1/body?page=2" (some "peer") =
      .ok { username := "peer", name := "birds", path := some "v1", selector := some "body" } ∧
    parse "wren/birds@v1/body" =
      .ok { username := "wren", name := "birds", path := some "v1", selector := some "body" } := by
  have given : "peer" ≠ "" := by decide
  have read : resolve "/me/birds@v1/body?page=2" (some "peer") =
      .ok { username := "peer", name := "birds", path := some "v1", selector := some "body" } := by
    decide +kernel
  obtain ⟨-, substituted⟩ := resolve_puts_owner "/me/birds@v1/body?page=2" "peer" given
  obtain ⟨rest, written, kept⟩ := substituted (by decide +kernel)
  obtain ⟨-, -, unslashed, -⟩ := kept _ read
  obtain ⟨-, others⟩ := unslashed (by decide)
  have user : ({ username := "wren" } : Reference).WellFormed :=
    ((parseChars_eq_ok_iff "wren".toList _).mp (by decide)).2
  have wren := others "wren" user.user user.notOwner
  have path : normalizeChars "/me/birds@v1/body?page=2".toList =
      ownerAlias.toList ++ "/birds@v1/body".toList := by decide +kernel
  rw [← List.append_cancel_left (path.symm.trans written)] at wren
  exact ⟨given, read, wren⟩

/-- So an owner can name the dataset: not every reference on behalf of an owner has the owner as its
user, and after it what the path says. -/
theorem owner_may_name_dataset :
    ¬ ∀ (raw owner : String) (reference : Reference), owner ≠ "" →
      resolve raw (some owner) = .ok reference →
      let path := normalizeChars raw.toList
      ((Text.splitAt '/' path).head? = some ownerAlias.toList →
        reference.username = owner ∧ path = ownerAlias.toList ++ reference.remainder) ∧
      ((Text.splitAt '/' path).head? ≠ some ownerAlias.toList → ofPath raw = .ok reference) := by
  intro keeps
  have read : resolve "/me/birds" (some "peer/movies") =
      .ok { username := "peer", name := "movies", selector := some "birds" } := by decide +kernel
  obtain ⟨asOwner, -⟩ := keeps "/me/birds" "peer/movies" _ (by decide) read
  obtain ⟨user, -⟩ := asOwner (by decide +kernel)
  exact absurd user (by decide)

end DatasetService.Reference
