import GraphDisk.Message
import GraphDisk.Proofs.Json.Members
import GraphDisk.Proofs.Json.RoundTrip

/-!
# What the JSON forms keep

A request leaves out the guids that it does not have, and a configuration file may leave out every field that has its
default. So many objects stand for one value. For each of the records, `Means` says in terms of its members what an
object stands for, `ofDocument?_object` that it is read as just that, `means_members` that the object that is written
for a value stands for it, and `Means.rewritten` that an object may be rewritten. All of it together is `json_lossless`.
-/

namespace GraphDisk

open Json (Document Spelling Value Rewritten MemberReadAs eq_nil_of_length_cons)
open Json.Document (under under_cons Named OrDefault required?_eq_some orDefault?_eq_some string?_eq_some)

/-! ## Guids and numbers -/

/-- **What the members of one name say of a guid that may be missing**: no guid if there are none or it is null, and
else the guid with that text. The empty text is a guid. -/
inductive Guid.Optional : List Document → Option Guid → Prop
  | absent : Optional [] none
  | null : Optional [.null] none
  | given (g : Guid) : Optional [.string (some g.text)] (some g)

/-- **An idle member of a request**: a guid that may be missing and is null. -/
def Guid.IsNull (name : String) (d : Document) : Prop := (name = "vsguid1" ∨ name = "vsguid2") ∧ d = .null

/-- The member of a guid that is written only if there is one. -/
def optionalTree (name : String) (g : Option Guid) : List (Spelling × Document) :=
  g.toList.map fun g => (some name, .string (some g.text))

section Guids

variable {d : Document} {ds : List Document} {name key : String} {g : Guid} {r : Option Guid}

theorem Guid.ofDocument?_eq_some : Guid.ofDocument? d = some g ↔ d = .string (some g.text) := by
  obtain ⟨text⟩ := g
  simp [Guid.ofDocument?, string?_eq_some]

theorem Guid.optional?_eq_some (h : ds.length ≤ 1) :
    Document.optional? Guid.ofDocument? ds.head? = some r ↔ Guid.Optional ds r := by
  constructor
  · intro hread
    match ds, h with
    | [], _ =>
      cases hread
      exact .absent
    | [d], _ =>
      rw [List.head?_cons] at hread
      unfold Document.optional? at hread
      split at hread
      case h_1 heq => cases heq
      case h_2 heq =>
        cases heq
        cases hread
        exact .null
      case h_3 heq =>
        cases heq
        obtain ⟨g, hg, rfl⟩ := Option.map_eq_some_iff.mp hread
        rw [Guid.ofDocument?_eq_some.mp hg]
        exact .given g
  · intro hsays
    cases hsays <;> rfl

theorem Guid.Optional.length_le (h : Guid.Optional ds r) : ds.length ≤ 1 := by cases h <;> simp

/-- Null says no more than nothing. -/
theorem Guid.Optional.dropped (h : Guid.Optional [d] r) (hd : d = .null) : Guid.Optional [] r := by
  cases hd
  cases h
  exact .absent

theorem Guid.Optional.rewritten {names : List String} {ms ms' : List (Spelling × Document)}
    (h : Guid.Optional (under name ms) r) (hms : Rewritten names Guid.IsNull ms ms') (hname : name ∈ names) :
    Guid.Optional (under name ms') r :=
  hms.under (P := (Guid.Optional · r)) hname (fun _ h => h.length_le) (fun _ hd h => h.dropped hd.2) h

theorem optionalMember_readAs (name : String) (r : Option Guid) :
    List.Forall₂ MemberReadAs (optionalMember name r) (optionalTree name r) := by
  cases r with
  | none => exact .nil
  | some g => exact .cons ⟨rfl, .string g.text⟩ .nil

theorem named_optionalTree : Named (optionalTree name r) := by
  intro m hm
  obtain ⟨g, -, rfl⟩ := List.mem_map.mp hm
  rfl

@[simp] theorem under_optionalTree :
    under name (optionalTree key r) = if key = name then r.toList.map fun g => .string (some g.text) else [] := by
  cases r <;> simp [optionalTree]

theorem Guid.optional_toList : ∀ r : Option Guid, Guid.Optional (r.toList.map fun g => .string (some g.text)) r
  | none => .absent
  | some g => .given g

end Guids

/-- A printed number is a number of 64 bits. -/
theorem natural?_ofNat (n : UInt64) : Document.natural? (.number (.ofNat n.toNat)) = some n := by
  simp [Document.natural?, Json.Numeral.number?_ofNat]

/-! ## Requests -/

namespace WriteRequest

/-- **What an object says as a request to write.** -/
structure Means (ms : List (Spelling × Document)) (r : WriteRequest) : Prop where
  named : Named ms
  guid : under "guid" ms = [.string (some r.guid.text)]
  first : Guid.Optional (under "vsguid1" ms) r.first
  second : Guid.Optional (under "vsguid2" ms) r.second

variable {ms ms' : List (Spelling × Document)} {r : WriteRequest}

theorem ofDocument?_object : ofDocument? (.object ms) = some r ↔ Means ms r := by
  rw [ofDocument?, Option.bind_eq_bind, Document.bind_fields?_object]
  constructor
  · rintro ⟨hnamed, honce, hrecord⟩
    simp only [fieldNames, List.forall_mem_cons] at honce
    obtain ⟨hguid, hfirst, hsecond, -⟩ := honce
    simp only [fieldNames, List.map_cons, List.map_nil, Option.bind_eq_bind, Option.bind_eq_some_iff,
      required?_eq_some hguid, Guid.optional?_eq_some hfirst, Guid.optional?_eq_some hsecond,
      Guid.ofDocument?_eq_some] at hrecord
    obtain ⟨g, ⟨_, hguid, rfl⟩, first, hfirst, second, hsecond, heq⟩ := hrecord
    cases heq
    exact ⟨hnamed, hguid, hfirst, hsecond⟩
  · intro h
    refine ⟨h.named, by simp [fieldNames, h.guid, h.first.length_le, h.second.length_le], ?_⟩
    simp [fieldNames, h.guid, Document.required?, Guid.ofDocument?, Document.string?,
      (Guid.optional?_eq_some h.first.length_le).mpr h.first, (Guid.optional?_eq_some h.second.length_le).mpr h.second]

/-- **A rewritten object says the same.** -/
theorem Means.rewritten (h : Means ms r) (hms : Rewritten fieldNames Guid.IsNull ms ms') : Means ms' r where
  named := hms.named h.named
  guid := hms.under (P := (· = [.string (some r.guid.text)])) (by decide) (by simp) (by simp [Guid.IsNull]) h.guid
  first := h.first.rewritten hms (by decide)
  second := h.second.rewritten hms (by decide)

/-- The members of a request to write, as they are written. -/
def members (r : WriteRequest) : List (Spelling × Document) :=
  (some "guid", .string (some r.guid.text)) :: optionalTree "vsguid1" r.first ++ optionalTree "vsguid2" r.second

theorem value_readAs (r : WriteRequest) : r.value.ReadAs (.object r.members) :=
  .object (.cons ⟨rfl, .string _⟩ (List.rel_append (optionalMember_readAs _ r.first)
    (optionalMember_readAs _ r.second)))

theorem means_members (r : WriteRequest) : Means r.members r where
  named := by simp [members, named_optionalTree]
  guid := by simp [members]
  first := by simpa [members] using Guid.optional_toList r.first
  second := by simpa [members] using Guid.optional_toList r.second

end WriteRequest

namespace ReadRequest

/-- **What an object says as a request to read.** -/
structure Means (ms : List (Spelling × Document)) (r : ReadRequest) : Prop where
  named : Named ms
  guid : under "guid" ms = [.string (some r.guid.text)]
  kind : under "type" ms = [.string (some r.kind)]
  first : Guid.Optional (under "vsguid1" ms) r.first
  second : Guid.Optional (under "vsguid2" ms) r.second

variable {ms ms' : List (Spelling × Document)} {r : ReadRequest}

theorem ofDocument?_object : ofDocument? (.object ms) = some r ↔ Means ms r := by
  rw [ofDocument?, Option.bind_eq_bind, Document.bind_fields?_object]
  constructor
  · rintro ⟨hnamed, honce, hrecord⟩
    simp only [fieldNames, List.forall_mem_cons] at honce
    obtain ⟨hguid, hkind, hfirst, hsecond, -⟩ := honce
    simp only [fieldNames, List.map_cons, List.map_nil, Option.bind_eq_bind, Option.bind_eq_some_iff,
      required?_eq_some hguid, required?_eq_some hkind, Guid.optional?_eq_some hfirst,
      Guid.optional?_eq_some hsecond, Guid.ofDocument?_eq_some, string?_eq_some] at hrecord
    obtain ⟨g, ⟨_, hguid, rfl⟩, kind, ⟨_, hkind, rfl⟩, first, hfirst, second, hsecond, heq⟩ := hrecord
    cases heq
    exact ⟨hnamed, hguid, hkind, hfirst, hsecond⟩
  · intro h
    refine ⟨h.named, by simp [fieldNames, h.guid, h.kind, h.first.length_le, h.second.length_le], ?_⟩
    simp [fieldNames, h.guid, h.kind, Document.required?, Guid.ofDocument?, Document.string?,
      (Guid.optional?_eq_some h.first.length_le).mpr h.first, (Guid.optional?_eq_some h.second.length_le).mpr h.second]

/-- **A rewritten object says the same.** -/
theorem Means.rewritten (h : Means ms r) (hms : Rewritten fieldNames Guid.IsNull ms ms') : Means ms' r where
  named := hms.named h.named
  guid := hms.under (P := (· = [.string (some r.guid.text)])) (by decide) (by simp) (by simp [Guid.IsNull]) h.guid
  kind := hms.under (P := (· = [.string (some r.kind)])) (by decide) (by simp) (by simp [Guid.IsNull]) h.kind
  first := h.first.rewritten hms (by decide)
  second := h.second.rewritten hms (by decide)

/-- The members of a request to read, as they are written. -/
def members (r : ReadRequest) : List (Spelling × Document) :=
  (some "guid", .string (some r.guid.text)) :: (some "type", .string (some r.kind)) ::
    optionalTree "vsguid1" r.first ++ optionalTree "vsguid2" r.second

theorem value_readAs (r : ReadRequest) : r.value.ReadAs (.object r.members) :=
  .object (.cons ⟨rfl, .string _⟩ (.cons ⟨rfl, .string _⟩
    (List.rel_append (optionalMember_readAs _ r.first) (optionalMember_readAs _ r.second))))

theorem means_members (r : ReadRequest) : Means r.members r where
  named := by simp [members, named_optionalTree]
  guid := by simp [members]
  kind := by simp [members]
  first := by simpa [members] using Guid.optional_toList r.first
  second := by simpa [members] using Guid.optional_toList r.second

end ReadRequest

/-! ## Configurations -/

namespace CodecConfig

/-- **What an object says as the numbers of a codec**: the defaults, with what it gives put over them. -/
structure Means (ms : List (Spelling × Document)) (c : CodecConfig) : Prop where
  named : Named ms
  workers : OrDefault Document.natural? ({} : CodecConfig).workers (under "workers" ms) c.workers
  parallelThreshold :
    OrDefault Document.natural? ({} : CodecConfig).parallelThreshold (under "parallel_threshold" ms) c.parallelThreshold

/-- **An idle member of a codec**: a number that is the default. -/
def IsDefault (name : String) (d : Document) : Prop :=
  match name with
  | "workers" => d.natural? = some ({} : CodecConfig).workers
  | "parallel_threshold" => d.natural? = some ({} : CodecConfig).parallelThreshold
  | _ => False

variable {ms ms' : List (Spelling × Document)} {c : CodecConfig}

theorem ofDocument?_object : ofDocument? (.object ms) = some c ↔ Means ms c := by
  rw [ofDocument?, Option.bind_eq_bind, Document.bind_fields?_object]
  constructor
  · rintro ⟨hnamed, honce, hrecord⟩
    simp only [fieldNames, List.forall_mem_cons] at honce
    obtain ⟨hworkers, hthreshold, -⟩ := honce
    simp only [fieldNames, List.map_cons, List.map_nil, Option.bind_eq_bind, Option.bind_eq_some_iff,
      orDefault?_eq_some hworkers, orDefault?_eq_some hthreshold] at hrecord
    obtain ⟨workers, hworkers, threshold, hthreshold, heq⟩ := hrecord
    cases heq
    exact ⟨hnamed, hworkers, hthreshold⟩
  · intro h
    refine ⟨h.named, by simp [fieldNames, h.workers.length_le, h.parallelThreshold.length_le], ?_⟩
    simp [fieldNames, (orDefault?_eq_some h.workers.length_le).mpr h.workers,
      (orDefault?_eq_some h.parallelThreshold.length_le).mpr h.parallelThreshold]

/-- **A rewritten object says the same.** -/
theorem Means.rewritten (h : Means ms c) (hms : Rewritten fieldNames IsDefault ms ms') : Means ms' c where
  named := hms.named h.named
  workers := h.workers.rewritten hms (by decide) fun _ hd => hd
  parallelThreshold := h.parallelThreshold.rewritten hms (by decide) fun _ hd => hd

/-- The members of a codec, as they are written. -/
def members (c : CodecConfig) : List (Spelling × Document) :=
  [(some "workers", .number (.ofNat c.workers.toNat)),
    (some "parallel_threshold", .number (.ofNat c.parallelThreshold.toNat))]

theorem value_readAs (c : CodecConfig) : c.value.ReadAs (.object c.members) :=
  .object (.cons ⟨rfl, .natural _⟩ (.cons ⟨rfl, .natural _⟩ .nil))

theorem means_members (c : CodecConfig) : Means c.members c where
  named := by simp [members]
  workers := by simpa [members] using OrDefault.given (natural?_ofNat c.workers)
  parallelThreshold := by simpa [members] using OrDefault.given (natural?_ofNat c.parallelThreshold)

end CodecConfig

theorem ShardOrdering.ofName?_name (o : ShardOrdering) : ofName? o.name = some o := by cases o <;> rfl

theorem DuplicatePolicy.ofName?_name (p : DuplicatePolicy) : ofName? p.name = some p := by cases p <;> rfl

namespace Config

/-- **What an object says as a configuration**: the defaults, with what it gives put over them, also in the codec. -/
structure Means (ms : List (Spelling × Document)) (c : Config) : Prop where
  named : Named ms
  root : OrDefault (fun d => d.string?.map Path.mk) ({} : Config).root (under "unordered_data_dir" ms) c.root
  marker : OrDefault Document.string? ({} : Config).marker (under "completion_marker" ms) c.marker
  requireMarker : OrDefault Document.bool? ({} : Config).requireMarker
    (under "require_completion_marker" ms) c.requireMarker
  ordering : OrDefault (fun d => d.name?.bind ShardOrdering.ofName?) ({} : Config).ordering
    (under "shard_ordering" ms) c.ordering
  duplicates :
    OrDefault (fun d => d.name?.bind DuplicatePolicy.ofName?) ({} : Config).duplicates
      (under "duplicate_ids" ms) c.duplicates
  codec : OrDefault CodecConfig.ofDocument? ({} : Config).codec (under "codec" ms) c.codec
  numbers : ∀ cs, under "codec" ms = [.object cs] → CodecConfig.Means cs c.codec

/-- **An idle member of a configuration**: a field that is the default. -/
def IsDefault (name : String) (d : Document) : Prop :=
  match name with
  | "unordered_data_dir" => d.string?.map Path.mk = some ({} : Config).root
  | "completion_marker" => d.string? = some ({} : Config).marker
  | "require_completion_marker" => d.bool? = some ({} : Config).requireMarker
  | "shard_ordering" => d.name?.bind ShardOrdering.ofName? = some ({} : Config).ordering
  | "duplicate_ids" => d.name?.bind DuplicatePolicy.ofName? = some ({} : Config).duplicates
  | "codec" => CodecConfig.ofDocument? d = some ({} : Config).codec
  | _ => False

/-- **Ways to rewrite a configuration**: those of its own members, and those of the members of its codec. -/
inductive Rewritten : List (Spelling × Document) → List (Spelling × Document) → Prop
  | members {ms ms' : List (Spelling × Document)} : Json.Rewritten fieldNames IsDefault ms ms' → Rewritten ms ms'
  | codec {cs cs' ms : List (Spelling × Document)} :
    Json.Rewritten CodecConfig.fieldNames CodecConfig.IsDefault cs cs' →
    Rewritten ((some "codec", .object cs) :: ms) ((some "codec", .object cs') :: ms)
  | trans {ms ms' ms'' : List (Spelling × Document)} : Rewritten ms ms' → Rewritten ms' ms'' → Rewritten ms ms''

variable {ms ms' cs cs' : List (Spelling × Document)} {c : Config}

theorem numbers_of_codec {k : CodecConfig} (h : OrDefault CodecConfig.ofDocument? {} (under "codec" ms) k)
    (hcodec : under "codec" ms = [.object cs]) : CodecConfig.Means cs k := by
  rw [hcodec] at h
  cases h with
  | given h => exact CodecConfig.ofDocument?_object.mp h

theorem ofDocument?_object : ofDocument? (.object ms) = some c ↔ Means ms c := by
  rw [ofDocument?, Option.bind_eq_bind, Document.bind_fields?_object]
  constructor
  · rintro ⟨hnamed, honce, hrecord⟩
    simp only [fieldNames, List.forall_mem_cons] at honce
    obtain ⟨hroot, hmarker, hrequire, hordering, hduplicates, hcodec, -⟩ := honce
    simp only [fieldNames, List.map_cons, List.map_nil, Option.bind_eq_bind, Option.bind_eq_some_iff,
      orDefault?_eq_some hroot, orDefault?_eq_some hmarker, orDefault?_eq_some hrequire, orDefault?_eq_some hordering,
      orDefault?_eq_some hduplicates, orDefault?_eq_some hcodec] at hrecord
    obtain ⟨_, hroot, _, hmarker, _, hrequire, _, hordering, _, hduplicates, _, hcodec, heq⟩ := hrecord
    cases heq
    exact ⟨hnamed, hroot, hmarker, hrequire, hordering, hduplicates, hcodec, fun cs => numbers_of_codec hcodec⟩
  · intro h
    refine ⟨h.named, by simp [fieldNames, h.root.length_le, h.marker.length_le, h.requireMarker.length_le,
      h.ordering.length_le, h.duplicates.length_le, h.codec.length_le], ?_⟩
    simp [fieldNames, (orDefault?_eq_some h.root.length_le).mpr h.root,
      (orDefault?_eq_some h.marker.length_le).mpr h.marker,
      (orDefault?_eq_some h.requireMarker.length_le).mpr h.requireMarker,
      (orDefault?_eq_some h.ordering.length_le).mpr h.ordering,
      (orDefault?_eq_some h.duplicates.length_le).mpr h.duplicates,
      (orDefault?_eq_some h.codec.length_le).mpr h.codec]

/-- **Members that are rewritten say the same.** -/
theorem Means.of_members (h : Means ms c) (hms : Json.Rewritten fieldNames IsDefault ms ms') : Means ms' c := by
  have hcodec := h.codec.rewritten hms (by decide) fun _ hd => hd
  exact {
    named := hms.named h.named
    root := h.root.rewritten hms (by decide) fun _ hd => hd
    marker := h.marker.rewritten hms (by decide) fun _ hd => hd
    requireMarker := h.requireMarker.rewritten hms (by decide) fun _ hd => hd
    ordering := h.ordering.rewritten hms (by decide) fun _ hd => hd
    duplicates := h.duplicates.rewritten hms (by decide) fun _ hd => hd
    codec := hcodec
    numbers := fun _ => numbers_of_codec hcodec }

/-- **A codec that is rewritten says the same.** -/
theorem Means.of_codec (h : Means ((some "codec", .object cs) :: ms) c)
    (hcs : Json.Rewritten CodecConfig.fieldNames CodecConfig.IsDefault cs cs') :
    Means ((some "codec", .object cs') :: ms) c := by
  have hunder : ∀ d, under "codec" ((some "codec", d) :: ms) = d :: under "codec" ms :=
    fun d => by rw [under_cons, if_pos rfl]
  have hnone : under "codec" ms = [] := eq_nil_of_length_cons (hunder _ ▸ h.codec.length_le)
  have hnumbers := (h.numbers cs (by rw [hunder, hnone])).rewritten hcs
  have hcodec : OrDefault CodecConfig.ofDocument? {} (under "codec" ((some "codec", .object cs') :: ms)) c.codec := by
    rw [hunder, hnone]
    exact .given (CodecConfig.ofDocument?_object.mpr hnumbers)
  exact {
    named := by simpa using h.named
    root := by simpa using h.root
    marker := by simpa using h.marker
    requireMarker := by simpa using h.requireMarker
    ordering := by simpa using h.ordering
    duplicates := by simpa using h.duplicates
    codec := hcodec
    numbers := fun _ => numbers_of_codec hcodec }

/-- **A rewritten object says the same.** -/
theorem Means.rewritten (h : Means ms c) (hms : Rewritten ms ms') : Means ms' c := by
  induction hms with
  | members hms => exact h.of_members hms
  | codec hcs => exact h.of_codec hcs
  | trans _ _ ih ih' => exact ih' (ih h)

/-- The members of a configuration, as they are written. -/
def members (c : Config) : List (Spelling × Document) :=
  [(some "unordered_data_dir", .string (some c.root.text)),
    (some "completion_marker", .string (some c.marker)),
    (some "require_completion_marker", .bool c.requireMarker),
    (some "shard_ordering", .string (some c.ordering.name)),
    (some "duplicate_ids", .string (some c.duplicates.name)),
    (some "codec", .object c.codec.members)]

theorem value_readAs (c : Config) : c.value.ReadAs (.object c.members) :=
  .object (.cons ⟨rfl, .string _⟩ (.cons ⟨rfl, .string _⟩ (.cons ⟨rfl, .bool _⟩ (.cons ⟨rfl, .string _⟩
    (.cons ⟨rfl, .string _⟩ (.cons ⟨rfl, c.codec.value_readAs⟩ .nil))))))

theorem means_members (c : Config) : Means c.members c := by
  have hcodec : OrDefault CodecConfig.ofDocument? {} (under "codec" c.members) c.codec := by
    simpa [members] using OrDefault.given (CodecConfig.ofDocument?_object.mpr c.codec.means_members)
  exact {
    named := by simp [members]
    root := .given rfl
    marker := .given rfl
    requireMarker := .given rfl
    ordering := .given (ShardOrdering.ofName?_name c.ordering)
    duplicates := .given (DuplicatePolicy.ofName?_name c.duplicates)
    codec := hcodec
    numbers := fun _ => numbers_of_codec hcodec }

end Config

/-! ## The forms -/

/-- **A JSON form that loses nothing**: the text of a value is read as that value, what an object is read as is what its
members say, and to rewrite them changes nothing. -/
structure Json.Lossless {α : Type} (text : α → String) (parse? : String → Option α)
    (Means : List (Spelling × Document) → α → Prop)
    (Rewritten : List (Spelling × Document) → List (Spelling × Document) → Prop) : Prop where
  parse?_text : ∀ a, parse? (text a) = some a
  parse?_iff : ∀ s ms a, Document.parse? s = some (.object ms) → (parse? s = some a ↔ Means ms a)
  parse?_rewritten : ∀ s s' ms ms' a, Document.parse? s = some (.object ms) → Document.parse? s' = some (.object ms') →
    Rewritten ms ms' → parse? s = some a → parse? s' = some a

theorem Json.Lossless.intro {α : Type} {value : α → Value} {members : α → List (Spelling × Document)}
    {ofDocument? : Document → Option α} {Means : List (Spelling × Document) → α → Prop}
    {Rewritten : List (Spelling × Document) → List (Spelling × Document) → Prop}
    (hvalue : ∀ a, (value a).ReadAs (.object (members a))) (hmembers : ∀ a, Means (members a) a)
    (hobject : ∀ {ms a}, ofDocument? (.object ms) = some a ↔ Means ms a)
    (hrewritten : ∀ {ms ms' a}, Means ms a → Rewritten ms ms' → Means ms' a) :
    Lossless (fun a => (value a).text) (fun s => (Document.parse? s).bind ofDocument?) Means Rewritten := by
  have hiff : ∀ s ms a, Document.parse? s = some (.object ms) →
      ((Document.parse? s).bind ofDocument? = some a ↔ Means ms a) := by
    intro s ms a hs
    rw [hs, Option.bind_some, hobject]
  refine ⟨fun a => (hiff _ _ a (hvalue a).parse?).mpr (hmembers a), hiff, fun s s' ms ms' a hs hs' hms h => ?_⟩
  exact (hiff s' ms' a hs').mpr (hrewritten ((hiff s ms a hs).mp h) hms)

/-- **The JSON forms lose nothing**: requests with any texts, in which no guid and the empty guid differ, and
configurations. -/
theorem json_lossless :
    Json.Lossless WriteRequest.text WriteRequest.parse? WriteRequest.Means
      (Rewritten WriteRequest.fieldNames Guid.IsNull) ∧
    Json.Lossless ReadRequest.text ReadRequest.parse? ReadRequest.Means (Rewritten ReadRequest.fieldNames Guid.IsNull) ∧
    Json.Lossless Config.text Config.parse? Config.Means Config.Rewritten :=
  ⟨.intro WriteRequest.value_readAs WriteRequest.means_members WriteRequest.ofDocument?_object
      WriteRequest.Means.rewritten,
    .intro ReadRequest.value_readAs ReadRequest.means_members ReadRequest.ofDocument?_object
      ReadRequest.Means.rewritten,
    .intro Config.value_readAs Config.means_members Config.ofDocument?_object Config.Means.rewritten⟩

/-- **A partial file** in two spellings: the defaults, with what it gives put over them. -/
theorem json_lossless_partial :
    Config.parse? "\x7b\"codec\":\x7b\"parallel_threshold\":65536,\"workers\":8\x7d,\"duplicate_ids\":\"reject\"\x7d" =
      some { duplicates := .reject, codec := { workers := 8 } } ∧
    Config.parse? "\x7b\"note\":[],\"duplicate_ids\":\"reject\",\"codec\":\x7b\"workers\":8\x7d\x7d" =
      some { duplicates := .reject, codec := { workers := 8 } } := by
  obtain ⟨-, -, hconfig⟩ := json_lossless
  have hwhole : Document.parse?
      "\x7b\"codec\":\x7b\"parallel_threshold\":65536,\"workers\":8\x7d,\"duplicate_ids\":\"reject\"\x7d" =
      some (.object [(some "codec", .object [(some "parallel_threshold", .number ⟨false, [6, 5, 5, 3, 6], [], none⟩),
        (some "workers", .number ⟨false, [8], [], none⟩)]), (some "duplicate_ids", .string (some "reject"))]) := by cbv
  have hpartial : Document.parse? "\x7b\"note\":[],\"duplicate_ids\":\"reject\",\"codec\":\x7b\"workers\":8\x7d\x7d" =
      some (.object [(some "note", .array []), (some "duplicate_ids", .string (some "reject")),
        (some "codec", .object [(some "workers", .number ⟨false, [8], [], none⟩)])]) := by cbv
  have hread := (hconfig.parse?_iff _ _ { duplicates := .reject, codec := { workers := 8 } } hwhole).mpr
    (Config.ofDocument?_object.mp (by rfl))
  refine ⟨hread, hconfig.parse?_rewritten _ _ _ _ _ hwhole hpartial ?_ hread⟩
  exact .trans (.codec (.dropped rfl)) (.members (.trans (.reordered (.swap _ _ _)) (.added (by decide))))

end GraphDisk
