import DatasetService.Http.Server
import DatasetService.Proofs.Document
import DatasetService.Proofs.Json.Members
import DatasetService.Proofs.Page.Link

set_option autoImplicit false

/- The bodies of pages. Who parses one and decodes the versions and the pagination in it has those
that the page was made of, as long as their counts and times can be held. -/
namespace DatasetService

open Json (Value Members asString? asCount? optionalMember slot plain_optionalMember)

namespace Version

variable {version : Version} {versions : List Version} {read : Value}

/-- Decoding looks at the fields of a record only. -/
theorem decode_congr {value other : Value}
    (same : ∀ index key, slot other index key = slot value index key) :
    decode other = decode value := by
  simp only [decode, Json.required, Json.optional, same]

theorem flat_encode (representable : version.Representable) : version.encode.Flat where
  members := by
    refine ⟨_, rfl, ?_, ?_⟩
    · obtain ⟨_, _, _, profileId, _, _, commitMessage, _, _, _, _⟩ := version
      cases profileId <;> cases commitMessage <;> simp [optionalMember]
    · simp only [List.forall_mem_append, List.forall_mem_cons, List.not_mem_nil, false_implies,
        implies_true, and_true]
      have rows := Nat.lt_succ_of_le representable.rows
      have size := Nat.lt_succ_of_le representable.size
      exact ⟨⟨⟨⟨⟨.string _, .string _, .string _⟩, plain_optionalMember⟩, .string _, .string _⟩,
        plain_optionalMember⟩, .count rows, .count size, .bool _, .bool _⟩

/-- The versions of a list that was sent. -/
def decodeAll : Value → Option (List Version)
  | .array items => items.mapM decode
  | _ => none

variable (representable : ∀ version ∈ versions, version.Representable)
include representable

theorem within_encodeAll : (encodeAll versions).Within 2 :=
  .array fun item inside => by
    obtain ⟨version, member, rfl⟩ := List.mem_map.mp inside
    exact (flat_encode (representable version member)).within

theorem decodeAll_of_readAs (same : (encodeAll versions).ReadAs read) :
    decodeAll read = some versions := by
  cases same with
  | @array _ items all =>
      rw [decodeAll]
      induction versions generalizing items with
      | nil =>
          cases all
          rfl
      | cons version versions ih =>
          have one := representable version List.mem_cons_self
          cases all with
          | cons first rest =>
              have head := decode_congr ((flat_encode one).slot_eq first)
              rw [decode_encode one] at head
              have others := ih (fun other inside =>
                representable other (List.mem_cons_of_mem _ inside)) rest
              rw [List.mapM_cons, head, others]
              rfl

end Version

namespace Pagination

def decode (value : Value) : Option Pagination := do
  let page ← Json.required (asCount? maxCount) value 0 "page"
  let pageSize ← Json.required (asCount? maxCount) value 1 "page_size"
  let limit ← Json.required (asCount? maxCount) value 2 "limit"
  let offset ← Json.required (asCount? maxCount) value 3 "offset"
  let nextUrl ← Json.optional asString? value 4 "next_url"
  let prevUrl ← Json.optional asString? value 5 "prev_url"
  return { page, pageSize, limit, offset, nextUrl, prevUrl }

/-- A pagination whose counts are of 64 bits. -/
structure Representable (pagination : Pagination) : Prop where
  page : pagination.page ≤ maxCount
  pageSize : pagination.pageSize ≤ maxCount
  limit : pagination.limit ≤ maxCount
  offset : pagination.offset ≤ maxCount

theorem decode_congr {value other : Value}
    (same : ∀ index key, slot other index key = slot value index key) :
    decode other = decode value := by
  simp only [decode, Json.required, Json.optional, same]

variable {pagination : Pagination} (representable : pagination.Representable)
include representable

theorem flat_encode : pagination.encode.Flat where
  members := by
    refine ⟨_, rfl, ?_, ?_⟩
    · obtain ⟨_, _, _, _, nextUrl, prevUrl⟩ := pagination
      cases nextUrl <;> cases prevUrl <;> simp [optionalMember]
    · simp only [List.forall_mem_append, List.forall_mem_cons, List.not_mem_nil, false_implies,
        implies_true, and_true]
      exact ⟨⟨⟨.count (Nat.lt_succ_of_le representable.page),
        .count (Nat.lt_succ_of_le representable.pageSize),
        .count (Nat.lt_succ_of_le representable.limit),
        .count (Nat.lt_succ_of_le representable.offset)⟩, plain_optionalMember⟩,
        plain_optionalMember⟩

theorem decode_encode : decode pagination.encode = some pagination := by
  obtain ⟨page, pageSize, limit, offset⟩ := representable
  obtain ⟨_, _, _, _, nextUrl, prevUrl⟩ := pagination
  cases nextUrl <;> cases prevUrl <;>
    simp [encode, decode, Json.required, Json.optional, slot, Value.member?, optionalMember,
      asString?, Json.asCount?_ofNat page, Json.asCount?_ofNat pageSize,
      Json.asCount?_ofNat limit, Json.asCount?_ofNat offset]

theorem decode_of_readAs {read : Value} (same : pagination.encode.ReadAs read) :
    decode read = some pagination := by
  rw [decode_congr ((flat_encode representable).slot_eq same), decode_encode representable]

end Pagination

/-- Whatever window is asked for, the counts of its page can be held. -/
theorem PageToken.representable_ofWindow (limit offset : Nat) (orderBy : Option String) :
    ((ofWindow limit offset).withOrder orderBy).Representable := by
  have whole : (Window.clamp limit offset).limit ≤ maxInt := by
    simp only [Window.clamp, Window.ofSigned]
    split
    · decide
    · omega
  have start : (Window.clamp limit offset).offset ≤ maxInt := by
    rw [Window.clamp_offset]
    exact Nat.min_le_right _ _
  have room : maxInt + 1 ≤ maxCount := by decide
  unfold ofWindow
  generalize Window.clamp limit offset = window at whole start
  have index := Nat.div_le_self window.offset window.limit
  have aligned := Nat.div_mul_le_self window.offset window.limit
  have fits : window.limit ≤ maxCount := by omega
  exact ⟨show window.offset / window.limit + 1 ≤ maxCount by omega, fits, fits,
    show window.offset / window.limit * window.limit ≤ maxCount by omega⟩

theorem ListParams.representable_page (params : ListParams) : params.page.Representable :=
  PageToken.representable_ofWindow params.limit params.offset params.orderBy

/-- The pagination of a page has the counts of its token. -/
theorem PageToken.Representable.pagination {token : PageToken} (representable : token.Representable)
    (base : String) (returned : Nat) : (Pagination.of base token returned).Representable :=
  ⟨representable.page, representable.pageSize, representable.limit, representable.offset⟩

namespace Envelope

/-- The versions and the pagination of a page. -/
def page? (value : Value) : Option (List Version × Pagination) := do
  let items ← Json.required Version.decodeAll value 1 "data"
  let pagination ← Json.required Pagination.decode value 2 "pagination"
  return (items, pagination)

/-- The document of a page. -/
def ofPage (items : List Version) (pagination : Pagination) : Envelope :=
  { data := Version.encodeAll items, pagination := some pagination }

variable {items : List Version} {pagination : Pagination}
  (representable : ∀ item ∈ items, item.Representable) (counted : pagination.Representable)
include representable counted

theorem within_ofPage : (ofPage items pagination).encode.Within 3 := by
  have code : Value.Within 1 (.object [("code", .ofNat 200)]) := by
    refine .object fun member inside => ?_
    cases List.mem_singleton.mp inside
    exact .ofNat (by decide)
  refine .object fun member inside => ?_
  change member ∈ [("meta", .object [("code", .ofNat 200)]), ("data", Version.encodeAll items),
    ("pagination", pagination.encode)] at inside
  simp only [List.mem_cons, List.not_mem_nil, or_false] at inside
  rcases inside with rfl | rfl | rfl
  · exact code.mono (by decide)
  · exact Version.within_encodeAll representable
  · exact (Pagination.flat_encode counted).within.mono (by decide)

theorem page?_of_readAs {read : Value} (same : (ofPage items pagination).encode.ReadAs read) :
    page? read = some (items, pagination) := by
  cases same with
  | object all =>
      obtain _ | ⟨_, code, _ | ⟨_, data, _ | ⟨_, block, _ | _⟩⟩⟩ := all
      rename_i codeRead dataRead blockRead
      let members : Members :=
        [("meta", codeRead), ("data", dataRead), ("pagination", blockRead)]
      have functional : Json.Functional members := Json.functional_of_nodup (by simp [members])
      have sent : slot (.ofMembers members) 1 "data" = some (.given dataRead) :=
        Json.slot_ofMembers functional 1 "data"
      have paged : slot (.ofMembers members) 2 "pagination" = some (.given blockRead) :=
        Json.slot_ofMembers functional 2 "pagination"
      change page? (.ofMembers members) = _
      rw [page?, Json.required, Json.required, sent, paged]
      change (Version.decodeAll dataRead >>= fun items => Pagination.decode blockRead >>=
        fun pagination => some (items, pagination)) = _
      rw [Version.decodeAll_of_readAs representable data,
        Pagination.decode_of_readAs counted block]
      rfl

/-- The document of a page is parsed, and what is decoded of it is the page. -/
theorem exists_parse_ofPage :
    ∃ read, Json.parse (Text.bytesOf (ofPage items pagination).encode.compact) = .ok read ∧
      page? read = some (items, pagination) := by
  have within := within_ofPage representable counted
  obtain ⟨read, same, parsed⟩ :=
    Json.parse_compact within.sound (Nat.lt_of_le_of_lt within.depth (by decide))
  exact ⟨read, parsed, page?_of_readAs representable counted same⟩

end Envelope

namespace Http

/-- What a client reads of a page. -/
def Response.page? (response : Response) : Option (List Version × Pagination) :=
  match response.body with
  | .bytes content => (Json.parse content).toOption.bind Envelope.page?
  | .archive _ => none

theorem Response.page?_of_body {response : Response} {items : List Version}
    {pagination : Pagination}
    (body : response.body =
      .bytes (Text.bytesOf (Envelope.ofPage items pagination).encode.compact))
    (representable : ∀ item ∈ items, item.Representable) (counted : pagination.Representable) :
    response.page? = some (items, pagination) := by
  obtain ⟨read, parsed, page⟩ := Envelope.exists_parse_ofPage representable counted
  rw [page?, body]
  dsimp only
  rw [parsed]
  exact page

end Http
end DatasetService
