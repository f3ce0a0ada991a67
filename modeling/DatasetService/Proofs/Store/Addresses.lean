import DatasetService.Proofs.Reference.Slug
import DatasetService.Proofs.Store.Consistency

set_option autoImplicit false

/- The addresses of versions. As long as datasets are saved under names alone, every stored version
has a name and a path that a reference can be written with. -/
namespace DatasetService

open Reference (IdentifierChar Word WellFormed)
open Text (Bytes)

section digests

theorem isIdentifierChar_hexDigit {value : Nat} (small : value < 16) :
    IdentifierChar (Text.hexDigit value) := by
  have all : ∀ value < 16, Reference.isIdentifierChar (Text.hexDigit value) = true := by decide
  exact (Reference.isIdentifierChar_iff _).mp (all value small)

theorem word_hexOf {bytes : Bytes} (filled : bytes ≠ []) :
    Word IdentifierChar (Text.hexOf bytes) := by
  constructor
  · obtain ⟨first, rest, rfl⟩ := List.exists_cons_of_ne_nil filled
    simp [Text.hexOf]
  · intro c member
    obtain ⟨byte, -, digit⟩ := List.mem_flatMap.mp member
    have bound := byte.toNat_lt
    rcases List.mem_cons.mp digit with rfl | low
    · exact isIdentifierChar_hexDigit (by omega)
    · rw [List.mem_singleton.mp low]
      exact isIdentifierChar_hexDigit (by omega)

theorem sha256_ne_nil (message : Bytes) : Digest.sha256 message ≠ [] := by
  simp [Digest.sha256, Digest.bytesOfWord]

theorem word_mem : Word Reference.PathChar ['m', 'e', 'm'] := by
  have all : ['m', 'e', 'm'].all Reference.isPathChar = true := by decide
  refine And.intro (by decide) ?_
  intro c member
  exact (Reference.isPathChar_iff c).mp (List.all_eq_true.mp all c member)

end digests

/-- A version of a dataset as it is written. -/
def DatasetKey.version (key : DatasetKey) (path : String) : Reference :=
  { username := key.username, name := key.name, path := some path }

/-- A version whose dataset has a name, and whose path is a pair that can be written after it. -/
structure Addressable (key : DatasetKey) (path : String) : Prop where
  wellFormed : (key.version path).WellFormed
  named : (key.version path).hasName = true
  pair : ∃ first second, path = "/" ++ first ++ "/" ++ second

/-- Every dataset with a name can have versions with the paths that are made of digests. -/
theorem addressable_digest {reference : Reference} (wellFormed : reference.WellFormed)
    (named : reference.hasName = true) (message : Bytes) :
    Addressable reference.key
      ("/mem/" ++ String.ofList (Text.hexOf (Digest.sha256 message))) where
  wellFormed := by
    refine ⟨wellFormed.user, wellFormed.notOwner, Or.inr ⟨wellFormed.name_word named, ?_, ?_⟩⟩
    · rintro path ⟨⟩
      have digest := (word_hexOf (sha256_ne_nil message)).inPath
      generalize Text.hexOf (Digest.sha256 message) = digits at digest
      have written : ("/mem/" ++ String.ofList digits).toList =
          '/' :: ['m', 'e', 'm'] ++ '/' :: digits := by
        simp
      rw [written]
      exact .pair word_mem digest
    · rintro selector ⟨⟩
  named := named
  pair := ⟨"mem", _, rfl⟩

namespace Store

/-- Every stored version can be addressed. -/
def Addressed (store : Store) : Prop :=
  ∀ key, ∀ snapshot ∈ store.versions key, Addressable key snapshot.version.path

/-- A change that saves no dataset without a name. -/
def Change.Named : Change → Prop
  | .save reference _ _ => reference.WellFormed ∧ reference.hasName = true
  | _ => True

variable {store after : Store}

theorem addressed_setHistory {key : DatasetKey} {history : List Snapshot}
    (addressed : store.Addressed)
    (all : ∀ snapshot ∈ history, Addressable key snapshot.version.path) :
    (store.setHistory key history).Addressed := by
  intro other snapshot member
  rw [versions_setHistory] at member
  split at member
  · rename_i same
    rw [same]
    exact all snapshot member
  · exact addressed other snapshot member

theorem addressed_marked {key : DatasetKey} (addressed : store.Addressed) (published : Bool) :
    ∀ snapshot ∈ store.marked key published, Addressable key snapshot.version.path := by
  intro snapshot member
  obtain ⟨old, known, rfl⟩ := mem_marked member
  exact addressed key old known

theorem addressed_step {change : Change} (step : Step store change after) (named : change.Named)
    (addressed : store.Addressed) : after.Addressed := by
  cases step with
  | unchanged => exact addressed
  | remoteAdded unknown => exact addressed
  | @saved reference request time table bodySize read =>
      refine addressed_setHistory addressed fun snapshot member => ?_
      rcases List.mem_cons.mp member with rfl | older
      · exact addressable_digest named.1 named.2 _
      · exact addressed _ snapshot older
  | published nonempty known =>
      exact addressed_setHistory addressed (addressed_marked addressed true)
  | unpublished nonempty known =>
      exact addressed_setHistory addressed (addressed_marked addressed false)

theorem addressed_run (changes : List Change) (named : ∀ change ∈ changes, change.Named)
    (addressed : store.Addressed) : (store.run changes).Addressed := by
  induction changes generalizing store with
  | nil => exact addressed
  | cons change changes ih =>
      have step := step_apply store change
      exact ih (fun later member => named later (List.mem_cons_of_mem _ member))
        (addressed_step step (named change List.mem_cons_self) addressed)

theorem addressed_start (start : Start) : start.store.Addressed := by
  cases start with
  | empty =>
      intro key snapshot member
      cases member
  | seeded clock profileId =>
      intro key snapshot member
      obtain ⟨rfl, age, -, rfl⟩ := mem_seeded member
      have wellFormed : moviesReference.WellFormed :=
        ((Reference.parseChars_eq_ok_iff moviesReference.text.toList _).mp (by decide)).2
      exact addressable_digest wellFormed (by decide) _

end Store
end DatasetService
