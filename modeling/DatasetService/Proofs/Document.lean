import DatasetService.Document
import DatasetService.Proofs.Instant.ReadBack
import DatasetService.Proofs.Json.Records

set_option autoImplicit false

/- Reading the documents that are written. Each form leaves out only what its reader puts in
again, and reads every member as what was written there. -/
namespace DatasetService

open Json (Form Value ReadsExactly Fills asString? asBool? asCount? optionalMember
  readsExactly_string readsExactly_bool readsExactly_ofNat readsExactly_ofOptional
  readsExactly_choice readsExactly_record)

/-- A count that is written is read, as it is no greater than the reader's bound. -/
theorem readsExactly_count {value : Nat} (small : value ≤ maxCount) :
    ReadsExactly 0 .any (.ofNat value) :=
  readsExactly_ofNat (Nat.lt_succ_of_le small)

namespace Reference

theorem readsExactly_encode (reference : Reference) :
    ReadsExactly 1 form.shape reference.encode := by
  have username : Fills 0 _ _ := .given "username" (readsExactly_string reference.username) .nil
  rw [encode, ← Option.map_if]
  exact readsExactly_record (username.append (.optional "name" readsExactly_string _)
    |>.append (.optional "path" readsExactly_string _)
    |>.append (.optional "selector" readsExactly_string _)) (by decide)

theorem decode_encode (reference : Reference) : decode reference.encode = some reference := by
  obtain ⟨username, name, path, selector⟩ := reference
  cases path <;> cases selector <;> by_cases named : name = "" <;>
    simp [encode, decode, Json.required, Json.defaulted, Json.slot, Value.member?, optionalMember,
      asString?, Json.asOptionalString?, hasName, named]

end Reference

namespace Version

/-- A version whose commit time is a date that is kept, in no leap second, and whose counts are of
64 bits. -/
structure Representable (version : Version) : Prop where
  dated : version.commitTime.Dated
  rows : version.bodyRows ≤ maxCount
  size : version.bodySize ≤ maxCount

instance (version : Version) : Decidable version.Representable :=
  decidable_of_iff
    (version.commitTime.Dated ∧ version.bodyRows ≤ maxCount ∧ version.bodySize ≤ maxCount)
    ⟨fun ⟨dated, rows, size⟩ => ⟨dated, rows, size⟩,
      fun representable => ⟨representable.dated, representable.rows, representable.size⟩⟩

variable {version : Version} (representable : version.Representable)
include representable

theorem readsExactly_encode : ReadsExactly 1 form.shape version.encode := by
  have names : Fills 0 _ _ :=
    .given "username" (readsExactly_string version.username) <|
    .given "name" (readsExactly_string version.name) <|
    .given "path" (readsExactly_string version.path) .nil
  have commit : Fills 0 _ _ :=
    .given "commit_time" (readsExactly_string version.commitTime.text) <|
    .given "commit_title" (readsExactly_string version.commitTitle) .nil
  have counts := Fills.given "body_rows" (readsExactly_count representable.rows) <|
    .given "body_size" (readsExactly_count representable.size) <|
    .given "published" (readsExactly_bool version.published) <|
    .given "foreign" (readsExactly_bool version.foreign) .nil
  exact readsExactly_record (names.append (.optional "profile_id" readsExactly_string _)
    |>.append commit
    |>.append (.optional "commit_message" readsExactly_string _)
    |>.append counts) (by decide)

theorem decode_encode : decode version.encode = some version := by
  obtain ⟨dated, rows, size⟩ := representable
  obtain ⟨_, _, _, profileId, _, _, commitMessage, _, _, _, _⟩ := version
  cases profileId <;> cases commitMessage <;>
    simp [encode, decode, Json.required, Json.optional, Json.slot, Value.member?, optionalMember,
      asString?, asBool?, Instant.decode, Instant.ofText?_text dated, Json.asCount?_ofNat rows,
      Json.asCount?_ofNat size]

end Version

namespace PageToken

/-- A token whose counts are of 64 bits. -/
structure Representable (token : PageToken) : Prop where
  page : token.page ≤ maxCount
  pageSize : token.pageSize ≤ maxCount
  limit : token.limit ≤ maxCount
  offset : token.offset ≤ maxCount

variable {token : PageToken} (representable : token.Representable)
include representable

theorem readsExactly_encode : ReadsExactly 1 form.shape token.encode := by
  have counts := Fills.given "page" (readsExactly_count representable.page) <|
    .given "page_size" (readsExactly_count representable.pageSize) <|
    .given "limit" (readsExactly_count representable.limit) <|
    .given "offset" (readsExactly_count representable.offset) .nil
  exact readsExactly_record (counts.append (.optional "order_by" readsExactly_string _)) (by decide)

theorem decode_encode : decode token.encode = some token := by
  obtain ⟨page, pageSize, limit, offset⟩ := representable
  obtain ⟨_, _, _, _, orderBy⟩ := token
  cases orderBy <;>
    simp [encode, decode, Json.required, Json.optional, Json.slot, Value.member?, optionalMember,
      asString?, Json.asCount?_ofNat page, Json.asCount?_ofNat pageSize,
      Json.asCount?_ofNat limit, Json.asCount?_ofNat offset]

end PageToken

namespace Owner

theorem readsExactly_encode (owner : Owner) : ReadsExactly 1 form.shape owner.encode :=
  readsExactly_record (.given "peername" (readsExactly_ofOptional _) <|
    .given "profile_id" (readsExactly_ofOptional _) .nil) (by decide)

theorem decode_encode (owner : Owner) : decode owner.encode = some owner := by
  obtain ⟨peername, profileId⟩ := owner
  cases peername <;> cases profileId <;>
    simp [encode, decode, Json.optional, Json.slot, Value.member?, Json.ofOptional, asString?]

end Owner

theorem ImageKind.form_lawful : ImageKind.form.Lawful :=
  Form.choice_lawful _ _ fun kind => by cases kind <;> rfl

namespace AppConfig

/-- A configuration whose port is one, and whose counts are of 64 bits. -/
structure Representable (config : AppConfig) : Prop where
  port : config.server.port ≤ maxPort
  upload : config.server.maxUploadBytes ≤ maxCount
  request : config.server.requestTimeoutSecs ≤ maxCount
  fetch : config.remote.fetchTimeoutSecs ≤ maxCount

variable {config : AppConfig} (representable : config.Representable)
include representable

theorem readsExactly_server : ReadsExactly 1 ServerConfig.shape config.server.encode := by
  have port := readsExactly_count (Nat.le_trans representable.port (by decide))
  exact readsExactly_record (.given "host" (readsExactly_string _) <|
    .given "port" port <|
    .given "read_only" (readsExactly_bool _) <|
    .given "api_version" (readsExactly_string _) <|
    .given "max_upload_bytes" (readsExactly_count representable.upload) <|
    .given "request_timeout_secs" (readsExactly_count representable.request) .nil) (by decide)

theorem decode_server : ServerConfig.decode config.server.encode = some config.server := by
  simp [ServerConfig.encode, ServerConfig.decode, Json.required, Json.slot, Value.member?,
    asString?, asBool?, Json.asCount?_ofNat representable.port,
    Json.asCount?_ofNat representable.upload, Json.asCount?_ofNat representable.request]

theorem readsExactly_remote : ReadsExactly 1 RemoteConfig.shape config.remote.encode :=
  readsExactly_record (.given "default_remote" (readsExactly_string _) <|
    .given "fetch_timeout_secs" (readsExactly_count representable.fetch) .nil) (by decide)

theorem decode_remote : RemoteConfig.decode config.remote.encode = some config.remote := by
  simp [RemoteConfig.encode, RemoteConfig.decode, Json.required, Json.slot, Value.member?,
    asString?, Json.asCount?_ofNat representable.fetch]

omit representable in
theorem readsExactly_store : ReadsExactly 1 StoreConfig.shape config.store.encode :=
  readsExactly_record (.given "load_seed_data" (readsExactly_bool _) .nil) (by decide)

theorem readsExactly_encode : ReadsExactly 2 form.shape config.encode :=
  readsExactly_record (.given "server" (readsExactly_server representable) <|
    .given "remote" (readsExactly_remote representable) <|
    .given "store" readsExactly_store .nil) (by decide)

theorem decode_encode : decode config.encode = some config := by
  have store : StoreConfig.decode config.store.encode = some config.store := rfl
  simp [encode, decode, Json.required, Json.slot, Value.member?, decode_server representable,
    decode_remote representable, store]

end AppConfig

/-- Every document is read as the value that it was written for: its names and texts may be any,
its counts are those that the machine can hold. -/
theorem documents_read_back :
    (∀ reference : Reference,
      Reference.form.read? (Reference.form.write reference) = some reference) ∧
    (∀ version : Version, version.Representable →
      Version.form.read? (Version.form.write version) = some version) ∧
    (∀ token : PageToken, token.Representable →
      PageToken.form.read? (PageToken.form.write token) = some token) ∧
    (∀ owner : Owner, Owner.form.read? (Owner.form.write owner) = some owner) ∧
    (∀ format : Format, Format.form.read? (Format.form.write format) = some format) ∧
    (∀ kind : ImageKind, ImageKind.form.read? (ImageKind.form.write kind) = some kind) ∧
    (∀ config : AppConfig, config.Representable →
      AppConfig.form.read? (AppConfig.form.write config) = some config) := by
  refine ⟨fun reference => ?_, fun version representable => ?_, fun token representable => ?_,
    fun owner => ?_, fun format => ?_, fun kind => ?_, fun config representable => ?_⟩
  · exact Form.read?_write reference.readsExactly_encode (by decide) reference.decode_encode
  · exact Form.read?_write (Version.readsExactly_encode representable) (by decide)
      (Version.decode_encode representable)
  · exact Form.read?_write (PageToken.readsExactly_encode representable) (by decide)
      (PageToken.decode_encode representable)
  · exact Form.read?_write owner.readsExactly_encode (by decide) owner.decode_encode
  · exact Form.read?_write (readsExactly_choice format.name : ReadsExactly 0 _ _) (by decide)
      (Format.form_lawful format)
  · exact Form.read?_write (readsExactly_choice kind.name : ReadsExactly 0 _ _) (by decide)
      (ImageKind.form_lawful kind)
  · exact Form.read?_write (AppConfig.readsExactly_encode representable) (by decide)
      (AppConfig.decode_encode representable)

/-- A commit on a leap day, one and a half milliseconds after midnight. -/
def leapDayCommit : Version where
  username := "ann"
  name := ""
  path := "/tmp/\"quoted\"\n"
  profileId := some ""
  commitTime := ⟨951782400, 1500000⟩
  commitTitle := "é"
  bodyRows := maxCount
  bodySize := 0

theorem leap_day_read_back :
    Version.form.read? (Version.form.write leapDayCommit) = some leapDayCommit ∧
    PageToken.form.read? (PageToken.form.write (PageToken.ofWindow 25 50)) =
      some (PageToken.ofWindow 25 50) ∧
    AppConfig.form.read? (AppConfig.form.write {}) = some {} := by
  have dated : leapDayCommit.commitTime.Dated := ⟨by decide, by decide⟩
  obtain ⟨-, version, token, -, -, -, config⟩ := documents_read_back
  exact ⟨version leapDayCommit ⟨dated, by decide, by decide⟩,
    token (PageToken.ofWindow 25 50) ⟨by decide, by decide, by decide, by decide⟩,
    config {} ⟨by decide, by decide, by decide, by decide⟩⟩

end DatasetService
