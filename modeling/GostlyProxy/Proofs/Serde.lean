/-
What is written to the files is read back, and so is what other writers
may write in its place.

A record is read from every object that spells it (`Lib/Derive.lean`): in
any order of the members, among members of other names, and with the
members that have a default left out, as older writers did. The record's
own line is one such text, so the derived codec reads back what it prints
(`entry_lines`, `sequence_lines`, `resource_lines`).

The parser recurses and stops at `maxNesting`; the body of a resource stands
in its record, so what is stored is nested one less deep.
-/
import GostlyProxy.Model.Serde
import GostlyProxy.Proofs.Reload

namespace GostlyProxy

open Lib

-- ========================================================== mock entries

namespace MockRequest

def members (r : MockRequest) : List (Text × Doc) :=
  [("method", .string r.method), ("uri", .string r.uri), ("body", .string r.body)]

/-- A request is read from every object that spells it. -/
theorem deserialize_of_spells {r : MockRequest} {ms : List (Text × Doc)}
    (h : Spells r.members [] ms) : deserialize (.object ms) = some r := by
  have hnodup : (r.members.map (·.1)).Nodup :=
    show (["method", "uri", "body"] : List Text).Nodup by decide
  have hmethod : (Slot.required "method" Doc.asString).get 0 (.object ms) = some r.method :=
    h.get_eq hnodup rfl rfl (by simp)
  have huri : (Slot.required "uri" Doc.asString).get 1 (.object ms) = some r.uri :=
    h.get_eq hnodup rfl rfl (by simp)
  have hbody : (Slot.required "body" Doc.asString).get 2 (.object ms) = some r.body :=
    h.get_eq hnodup rfl rfl (by simp)
  unfold deserialize
  rw [hmethod, huri, hbody]
  rfl

end MockRequest

namespace MockResponse

/-- The members of a response whose headers are spelled so. -/
def members (r : MockResponse) (headers : Doc) : List (Text × Doc) :=
  [("status", .ofUnsigned r.status.toNat), ("headers", headers), ("body", .string r.body),
    ("latency_ms", .ofUnsigned r.latencyMs.toNat)]

/-- A response is read when its headers are. -/
theorem deserialize_of_spells {r : MockResponse} {headers : Doc} {ms : List (Text × Doc)}
    (h : Spells (r.members headers) [] ms)
    (hheaders : Doc.asMap Doc.asString headers = some r.headers) :
    deserialize (.object ms) = some r := by
  have hnodup : ((r.members headers).map (·.1)).Nodup :=
    show (["status", "headers", "body", "latency_ms"] : List Text).Nodup by decide
  have hstatus : (Slot.required "status" Doc.asU16).get 0 (.object ms) = some r.status :=
    h.get_eq hnodup rfl (Doc.asU16_ofUnsigned _) (by simp)
  have hmap : (Slot.required "headers" (Doc.asMap Doc.asString)).get 1 (.object ms)
      = some r.headers := h.get_eq hnodup rfl hheaders (by simp)
  have hbody : (Slot.required "body" Doc.asString).get 2 (.object ms) = some r.body :=
    h.get_eq hnodup rfl rfl (by simp)
  have hlatency : (Slot.required "latency_ms" Doc.asU64).get 3 (.object ms)
      = some r.latencyMs := h.get_eq hnodup rfl (Doc.asU64_ofUnsigned _) (by simp)
  unfold deserialize
  rw [hstatus, hmap, hbody, hlatency]
  rfl

end MockResponse

/-- A text that may be missing, spelled out. -/
def orNull : Option Text → Doc
  | some s => .string s
  | none => .null

/-- A missing text is written as null and read as none. -/
theorem asOption_orNull (o : Option Text) : Doc.asOption Doc.asString (orNull o) = some o := by
  cases o <;> rfl

namespace MockEntry

/-- The members of an entry whose request and response are spelled so. -/
def members (e : MockEntry) (request response : Doc) : List (Text × Doc) :=
  [("id", .string e.id), ("timestamp", .string e.timestamp), ("request", request),
    ("response", response), ("service_id", orNull e.serviceId),
    ("tenant", .string e.tenant), ("workload_class", .string e.workloadClass)]

/-- The fields that hold what an object without them gets. -/
def optional (e : MockEntry) : List Text :=
  skippable (e.serviceId = none) "service_id"
    ++ skippable (e.tenant = globalTenant) "tenant"
    ++ skippable (e.workloadClass = defaultWorkloadClass) "workload_class"

/-- An entry is read when its request and its response are: each of its
other fields by its name, or by its default where it is left out. -/
theorem deserialize_of_spells {e : MockEntry} {request response : Doc}
    {ms : List (Text × Doc)} (h : Spells (e.members request response) e.optional ms)
    (hrequest : MockRequest.deserialize request = some e.request)
    (hresponse : MockResponse.deserialize response = some e.response) :
    deserialize (.object ms) = some e := by
  have hnodup : ((e.members request response).map (·.1)).Nodup :=
    show (["id", "timestamp", "request", "response", "service_id", "tenant",
      "workload_class"] : List Text).Nodup by decide
  have hid : (Slot.required "id" Doc.asString).get 0 (.object ms) = some e.id :=
    h.get_eq hnodup rfl rfl (by simp [optional, Slot.required])
  have htimestamp : (Slot.required "timestamp" Doc.asString).get 1 (.object ms)
      = some e.timestamp := h.get_eq hnodup rfl rfl (by simp [optional, Slot.required])
  have hreq : (Slot.required "request" MockRequest.deserialize).get 2 (.object ms)
      = some e.request := h.get_eq hnodup rfl hrequest (by simp [optional, Slot.required])
  have hres : (Slot.required "response" MockResponse.deserialize).get 3 (.object ms)
      = some e.response := h.get_eq hnodup rfl hresponse (by simp [optional, Slot.required])
  have hservice : (Slot.option "service_id" Doc.asString).get 4 (.object ms)
      = some e.serviceId := by
    refine h.get_eq hnodup rfl (asOption_orNull _) fun hopt => ?_
    have hnone : e.serviceId = none := by simpa [optional, Slot.option] using hopt
    rw [hnone]
    rfl
  have htenant : (Slot.defaulted "tenant" Doc.asString globalTenant).get 5 (.object ms)
      = some e.tenant := by
    refine h.get_eq hnodup rfl rfl fun hopt => ?_
    have hglobal : e.tenant = globalTenant := by simpa [optional, Slot.defaulted] using hopt
    rw [hglobal]
    rfl
  have hclass : (Slot.defaulted "workload_class" Doc.asString defaultWorkloadClass).get 6
      (.object ms) = some e.workloadClass := by
    refine h.get_eq hnodup rfl rfl fun hopt => ?_
    have hunknown : e.workloadClass = defaultWorkloadClass := by
      simpa [optional, Slot.defaulted] using hopt
    rw [hunknown]
    rfl
  unfold deserialize
  rw [hid, htimestamp, hreq, hres, hservice, htenant, hclass]
  rfl

end MockEntry

-- ============================================================= sequences

namespace SequenceResponse

/-- The members of a step whose headers are spelled so. -/
def members (r : SequenceResponse) (headers : Doc) : List (Text × Doc) :=
  [("status", .ofUnsigned r.status.toNat), ("headers", headers), ("body", .string r.body),
    ("latency_ms", .ofUnsigned r.latencyMs.toNat)]

/-- The fields that hold what an object without them gets. -/
def optional (r : SequenceResponse) : List Text :=
  skippable (r.headers = ∅) "headers" ++ skippable (r.latencyMs = 0) "latency_ms"

/-- A step of a sequence is read when its headers are. -/
theorem deserialize_of_spells {r : SequenceResponse} {headers : Doc}
    {ms : List (Text × Doc)} (h : Spells (r.members headers) r.optional ms)
    (hheaders : Doc.asMap Doc.asString headers = some r.headers) :
    deserialize (.object ms) = some r := by
  have hnodup : ((r.members headers).map (·.1)).Nodup :=
    show (["status", "headers", "body", "latency_ms"] : List Text).Nodup by decide
  have hstatus : (Slot.required "status" Doc.asU16).get 0 (.object ms) = some r.status :=
    h.get_eq hnodup rfl (Doc.asU16_ofUnsigned _) (by simp [optional, Slot.required])
  have hmap : (Slot.defaulted "headers" (Doc.asMap Doc.asString) ∅).get 1 (.object ms)
      = some r.headers := by
    refine h.get_eq hnodup rfl hheaders fun hopt => ?_
    have hempty : r.headers = ∅ := by simpa [optional, Slot.defaulted] using hopt
    rw [hempty]
    rfl
  have hbody : (Slot.required "body" Doc.asString).get 2 (.object ms) = some r.body :=
    h.get_eq hnodup rfl rfl (by simp [optional, Slot.required])
  have hlatency : (Slot.defaulted "latency_ms" Doc.asU64 0).get 3 (.object ms)
      = some r.latencyMs := by
    refine h.get_eq hnodup rfl (Doc.asU64_ofUnsigned _) fun hopt => ?_
    have hzero : r.latencyMs = 0 := by simpa [optional, Slot.defaulted] using hopt
    rw [hzero]
    rfl
  unfold deserialize
  rw [hstatus, hmap, hbody, hlatency]
  rfl

end SequenceResponse

namespace MockSequence

/-- The members of a sequence whose responses are spelled so. -/
def members (s : MockSequence) (responses : List Doc) : List (Text × Doc) :=
  [("id", .string s.id), ("method", .string s.method), ("uri", .string s.uri),
    ("responses", .array responses), ("loop_responses", .bool s.loopResponses)]

/-- The field that holds what an object without it gets. -/
def optional (s : MockSequence) : List Text :=
  skippable (s.loopResponses = false) "loop_responses"

/-- A sequence is read when its steps are. -/
theorem deserialize_of_spells {s : MockSequence} {responses : List Doc}
    {ms : List (Text × Doc)} (h : Spells (s.members responses) s.optional ms)
    (hresponses : responses.mapM SequenceResponse.deserialize = some s.responses) :
    deserialize (.object ms) = some s := by
  have hnodup : ((s.members responses).map (·.1)).Nodup :=
    show (["id", "method", "uri", "responses", "loop_responses"] : List Text).Nodup by decide
  have hid : (Slot.required "id" Doc.asString).get 0 (.object ms) = some s.id :=
    h.get_eq hnodup rfl rfl (by simp [optional, Slot.required])
  have hmethod : (Slot.required "method" Doc.asString).get 1 (.object ms) = some s.method :=
    h.get_eq hnodup rfl rfl (by simp [optional, Slot.required])
  have huri : (Slot.required "uri" Doc.asString).get 2 (.object ms) = some s.uri :=
    h.get_eq hnodup rfl rfl (by simp [optional, Slot.required])
  have hsteps : (Slot.required "responses" (Doc.asVec SequenceResponse.deserialize)).get 3
      (.object ms) = some s.responses :=
    h.get_eq hnodup rfl hresponses (by simp [optional, Slot.required])
  have hloop : (Slot.defaulted "loop_responses" Doc.asBool false).get 4 (.object ms)
      = some s.loopResponses := by
    refine h.get_eq hnodup rfl rfl fun hopt => ?_
    have hfalse : s.loopResponses = false := by simpa [optional, Slot.defaulted] using hopt
    rw [hfalse]
    rfl
  unfold deserialize
  rw [hid, hmethod, huri, hsteps, hloop]
  rfl

end MockSequence

-- ================================================================= values

namespace Json

variable {number : Text → Option Text}

/-- A value as the JSON library keeps it, nested at most `n` deep: objects
are sorted by name, and numbers print as they read. -/
inductive Stored (number : Text → Option Text) : Nat → Json → Prop where
  | null {n : Nat} : Stored number n .null
  | bool {n : Nat} (b : Bool) : Stored number n (.bool b)
  | number {n : Nat} {repr : Text} (hrepr : number repr = some repr)
      (hlit : isNumber repr = true) : Stored number n (.number repr)
  | string {n : Nat} (s : Text) : Stored number n (.string s)
  | array {n : Nat} {items : List Json} (h : ∀ v ∈ items, Stored number n v) :
      Stored number (n + 1) (.array items)
  | object {n : Nat} {members : List (Text × Json)}
      (hsorted : members.Pairwise fun m m' => m.1 < m'.1)
      (h : ∀ m ∈ members, Stored number n m.2) : Stored number (n + 1) (.object members)

/-- A name above all others goes to the end. -/
theorem insertMember_last {key : Text} {v : Json} {ms : List (Text × Json)}
    (h : ∀ m ∈ ms, m.1 < key) : insertMember key v ms = ms ++ [(key, v)] := by
  induction ms with
  | nil => rfl
  | cons m ms ih =>
      obtain ⟨k, w⟩ := m
      have hk : k < key := h (k, w) (List.mem_cons_self ..)
      rw [insertMember, if_neg (lt_asymm hk), if_neg (ne_of_lt hk),
        ih fun m hm => h m (List.mem_cons_of_mem _ hm), List.cons_append]

/-- Collecting sorted members keeps them as they are. -/
theorem foldl_insertMember {acc ms : List (Text × Json)}
    (h : (acc ++ ms).Pairwise fun m m' => m.1 < m'.1) :
    ms.foldl (fun acc m => insertMember m.1 m.2 acc) acc = acc ++ ms := by
  induction ms generalizing acc with
  | nil => rw [List.foldl_nil, List.append_nil]
  | cons m ms ih =>
      have hlast : ∀ m' ∈ acc, m'.1 < m.1 := fun m' hm' =>
        (List.pairwise_append.mp h).2.2 m' hm' m (List.mem_cons_self ..)
      rw [List.foldl_cons, insertMember_last hlast, ih (by simpa using h), List.append_assoc,
        List.singleton_append]

mutual

/-- A stored value is read back. -/
theorem deserialize_serialize : ∀ (v : Json) {n : Nat}, Stored number n v →
    deserialize number v.serialize = some v
  | .null, _, _ => rfl
  | .bool b, _, _ => rfl
  | .number repr, _, h => by
      cases h with
      | number hrepr _ => simp [serialize, deserialize, hrepr]
  | .string s, _, _ => rfl
  | .array items, _, h => by
      cases h with
      | array hitems => simp [serialize, deserialize, deserialize_serializeItems items hitems]
  | .object members, _, h => by
      cases h with
      | object hsorted hmembers =>
          have hfold := @foldl_insertMember [] members hsorted
          simp [serialize, deserialize, deserialize_serializeMembers members hmembers, hfold]

/-- The items of an array are read back in order. -/
theorem deserialize_serializeItems : ∀ (vs : List Json) {n : Nat},
    (∀ v ∈ vs, Stored number n v) → deserializeItems number (serializeItems vs) = some vs
  | [], _, _ => rfl
  | v :: vs, _, h => by
      simp [serializeItems, deserializeItems,
        deserialize_serialize v (h v (List.mem_cons_self ..)),
        deserialize_serializeItems vs fun w hw => h w (List.mem_cons_of_mem _ hw)]

/-- The members of an object are read back in order. -/
theorem deserialize_serializeMembers : ∀ (ms : List (Text × Json)) {n : Nat},
    (∀ m ∈ ms, Stored number n m.2) →
    deserializeMembers number (serializeMembers ms) = some ms
  | [], _, _ => rfl
  | (k, v) :: ms, _, h => by
      simp [serializeMembers, deserializeMembers,
        deserialize_serialize v (h (k, v) (List.mem_cons_self ..)),
        deserialize_serializeMembers ms fun m hm => h m (List.mem_cons_of_mem _ hm)]

end

mutual

/-- A stored value is written as a document of its own depth. -/
theorem printable_serialize : ∀ (v : Json) {n : Nat}, Stored number n v →
    v.serialize.Printable n
  | .null, _, _ => .null
  | .bool b, _, _ => .bool b
  | .number repr, _, h => by
      cases h with
      | number _ hlit => exact .number hlit
  | .string s, _, _ => .string s
  | .array items, _, h => by
      cases h with
      | array hitems => exact .array (printable_serializeItems items hitems)
  | .object members, _, h => by
      cases h with
      | object _ hmembers => exact .object (printable_serializeMembers members hmembers)

/-- The items of an array stay within its depth. -/
theorem printable_serializeItems : ∀ (vs : List Json) {n : Nat},
    (∀ v ∈ vs, Stored number n v) → ∀ d ∈ serializeItems vs, d.Printable n
  | [], _, _, d, hd => by cases hd
  | v :: vs, _, h, d, hd => by
      rcases List.mem_cons.mp hd with rfl | hd
      · exact printable_serialize v (h v (List.mem_cons_self ..))
      · exact printable_serializeItems vs (fun w hw => h w (List.mem_cons_of_mem _ hw)) d hd

/-- The members of an object stay within its depth. -/
theorem printable_serializeMembers : ∀ (ms : List (Text × Json)) {n : Nat},
    (∀ m ∈ ms, Stored number n m.2) → ∀ d ∈ serializeMembers ms, d.2.Printable n
  | [], _, _, d, hd => by cases hd
  | (k, v) :: ms, _, h, d, hd => by
      rcases List.mem_cons.mp hd with rfl | hd
      · exact printable_serialize v (h (k, v) (List.mem_cons_self ..))
      · exact printable_serializeMembers ms (fun m hm => h m (List.mem_cons_of_mem _ hm)) d hd

end

end Json

-- ============================================================== resources

namespace ResourceState

/-- The members of a captured resource. -/
def members (formats : Formats) (r : ResourceState) : List (Text × Doc) :=
  [("collection", .string r.collection), ("id", .string r.id), ("body", r.body.serialize),
    ("statechart", orNull r.statechart), ("current_state", orNull r.currentState),
    ("created_at", .string (formats.toRfc3339 r.createdAt)),
    ("updated_at", .string (formats.toRfc3339 r.updatedAt)),
    ("status", .ofUnsigned r.status.toNat), ("content_type", .string r.contentType)]

/-- The fields that hold what an object without them gets. -/
def optional (r : ResourceState) : List Text :=
  skippable (r.statechart = none) "statechart"
    ++ skippable (r.currentState = none) "current_state"
    ++ skippable (r.status = defaultStatus) "status"
    ++ skippable (r.contentType = defaultContentType) "content_type"

/-- The body is a value of the JSON library, and the times are ones that
`chrono` prints. -/
structure Storable (formats : Formats) (r : ResourceState) : Prop where
  body : Json.Stored formats.number (maxNesting - 1) r.body
  createdAt : formats.parseFromRfc3339 (formats.toRfc3339 r.createdAt) = some r.createdAt
  updatedAt : formats.parseFromRfc3339 (formats.toRfc3339 r.updatedAt) = some r.updatedAt

/-- A storable resource is read from every object that spells it. -/
theorem deserialize_of_spells {formats : Formats} {r : ResourceState}
    {ms : List (Text × Doc)} (h : Spells (r.members formats) r.optional ms)
    (hr : r.Storable formats) : deserialize formats (.object ms) = some r := by
  have hnodup : ((r.members formats).map (·.1)).Nodup :=
    show (["collection", "id", "body", "statechart", "current_state", "created_at",
      "updated_at", "status", "content_type"] : List Text).Nodup by decide
  have hcollection : (Slot.required "collection" Doc.asString).get 0 (.object ms)
      = some r.collection := h.get_eq hnodup rfl rfl (by simp [optional, Slot.required])
  have hid : (Slot.required "id" Doc.asString).get 1 (.object ms) = some r.id :=
    h.get_eq hnodup rfl rfl (by simp [optional, Slot.required])
  have hbody : (Slot.required "body" (Json.deserialize formats.number)).get 2 (.object ms)
      = some r.body :=
    h.get_eq hnodup rfl (Json.deserialize_serialize _ hr.body)
      (by simp [optional, Slot.required])
  have hchart : (Slot.defaulted "statechart" (Doc.asOption Doc.asString) none).get 3
      (.object ms) = some r.statechart := by
    refine h.get_eq hnodup rfl (asOption_orNull _) fun hopt => ?_
    have hnone : r.statechart = none := by simpa [optional, Slot.defaulted] using hopt
    rw [hnone]
    rfl
  have hstate : (Slot.defaulted "current_state" (Doc.asOption Doc.asString) none).get 4
      (.object ms) = some r.currentState := by
    refine h.get_eq hnodup rfl (asOption_orNull _) fun hopt => ?_
    have hnone : r.currentState = none := by simpa [optional, Slot.defaulted] using hopt
    rw [hnone]
    rfl
  have hcreated : (Slot.required "created_at" (deserializeTime formats)).get 5 (.object ms)
      = some r.createdAt :=
    h.get_eq hnodup rfl hr.createdAt (by simp [optional, Slot.required])
  have hupdated : (Slot.required "updated_at" (deserializeTime formats)).get 6 (.object ms)
      = some r.updatedAt :=
    h.get_eq hnodup rfl hr.updatedAt (by simp [optional, Slot.required])
  have hstatus : (Slot.defaulted "status" Doc.asU16 defaultStatus).get 7 (.object ms)
      = some r.status := by
    refine h.get_eq hnodup rfl (Doc.asU16_ofUnsigned _) fun hopt => ?_
    have hdefault : r.status = defaultStatus := by simpa [optional, Slot.defaulted] using hopt
    rw [hdefault]
    rfl
  have htype : (Slot.defaulted "content_type" Doc.asString defaultContentType).get 8
      (.object ms) = some r.contentType := by
    refine h.get_eq hnodup rfl rfl fun hopt => ?_
    have hdefault : r.contentType = defaultContentType := by
      simpa [optional, Slot.defaulted] using hopt
    rw [hdefault]
    rfl
  unfold deserialize
  rw [hcollection, hid, hbody, hchart, hstate, hcreated, hupdated, hstatus, htype]
  rfl

end ResourceState

-- ==================================================== what is written, is read

/-- An option is written when there is one. -/
theorem skips_skipNone {optional : List Text} {name : Text} {o : Option Text}
    (h : o = none → name ∈ optional) :
    Skips optional [(name, orNull o)] (skipNone name o) := by
  cases o with
  | none => exact Skips.skip (h rfl)
  | some s => exact Skips.refl _ _

/-- Headers are read back, in whatever order they are written. -/
theorem asMap_headers (rs : RandomState) (headers : HashMap Text Text) :
    Doc.asMap Doc.asString (Doc.ofMap rs .string headers) = some headers := by
  have hstring : ∀ s, Doc.asString (.string s) = some s := fun _ => rfl
  exact Doc.asMap_ofMap rs hstring headers

/-- A request is read back as it was written. -/
theorem MockRequest.deserialize_serialize (r : MockRequest) :
    MockRequest.deserialize r.serialize = some r :=
  MockRequest.deserialize_of_spells (.of_skips (.refl _ _))

/-- A response is read back as it was written. -/
theorem MockResponse.deserialize_serialize (rs : RandomState) (r : MockResponse) :
    MockResponse.deserialize (r.serialize rs) = some r :=
  MockResponse.deserialize_of_spells (.of_skips (.refl _ _)) (asMap_headers rs _)

/-- An entry is read back, though its service is written only when it has
one. -/
theorem MockEntry.deserialize_serialize (rs : RandomState) (e : MockEntry) :
    MockEntry.deserialize (e.serialize rs) = some e := by
  have hservice : Skips e.optional [("service_id", orNull e.serviceId)]
      (skipNone "service_id" e.serviceId) :=
    skips_skipNone fun hnone => by simp [MockEntry.optional, hnone]
  have hmembers := ((Skips.refl e.optional
      ((e.members e.request.serialize (e.response.serialize rs)).take 4)).append hservice).append
    (Skips.refl e.optional ((e.members e.request.serialize (e.response.serialize rs)).drop 5))
  exact MockEntry.deserialize_of_spells (.of_skips hmembers)
    e.request.deserialize_serialize (e.response.deserialize_serialize rs)

/-- A step of a sequence is read back as it was written. -/
theorem SequenceResponse.deserialize_serialize (rs : RandomState) (r : SequenceResponse) :
    SequenceResponse.deserialize (r.serialize rs) = some r :=
  SequenceResponse.deserialize_of_spells (.of_skips (.refl _ _)) (asMap_headers rs _)

/-- A sequence is read back, step by step. -/
theorem MockSequence.deserialize_serialize (rs : RandomState) (s : MockSequence) :
    MockSequence.deserialize (s.serialize rs) = some s := by
  have hsteps : (s.responses.map (SequenceResponse.serialize rs)).mapM
      SequenceResponse.deserialize = some s.responses := by
    rw [Doc.mapM_map fun r _ => SequenceResponse.deserialize_serialize rs r, List.map_id']
  exact MockSequence.deserialize_of_spells (.of_skips (.refl _ _)) hsteps

/-- A storable resource is read back, though statechart and state are
written only when there are any. -/
theorem ResourceState.Storable.deserialize_serialize {formats : Formats} {r : ResourceState}
    (hr : r.Storable formats) :
    ResourceState.deserialize formats (r.serialize formats) = some r := by
  have hchart : Skips r.optional [("statechart", orNull r.statechart)]
      (skipNone "statechart" r.statechart) :=
    skips_skipNone fun hnone => by simp [ResourceState.optional, hnone]
  have hstate : Skips r.optional [("current_state", orNull r.currentState)]
      (skipNone "current_state" r.currentState) :=
    skips_skipNone fun hnone => by simp [ResourceState.optional, hnone]
  have hmembers := (((Skips.refl r.optional ((r.members formats).take 3)).append hchart).append
    hstate).append (Skips.refl r.optional ((r.members formats).drop 5))
  exact ResourceState.deserialize_of_spells (.of_skips hmembers) hr

-- ============================================================== on one line

/-- A request is one level deep. -/
theorem MockRequest.printable (r : MockRequest) (n : Nat) : r.serialize.Printable (n + 1) := by
  refine .object fun m hm => ?_
  simp only [List.mem_cons, List.not_mem_nil, or_false] at hm
  rcases hm with rfl | rfl | rfl
  all_goals exact .string _

/-- A response has its headers a level below. -/
theorem MockResponse.printable (rs : RandomState) (r : MockResponse) (n : Nat) :
    (r.serialize rs).Printable (n + 2) := by
  refine .object fun m hm => ?_
  simp only [List.mem_cons, List.not_mem_nil, or_false] at hm
  rcases hm with rfl | rfl | rfl | rfl
  · exact Doc.printable_ofUnsigned _ _
  · exact Doc.printable_ofMap .string
  · exact .string _
  · exact Doc.printable_ofUnsigned _ _

/-- An optional text adds no depth. -/
theorem printable_skipNone {name : Text} {o : Option Text} {n : Nat} :
    ∀ m ∈ skipNone name o, m.2.Printable n := by
  intro m hm
  cases o with
  | none => cases hm
  | some s =>
      rw [List.mem_singleton.mp hm]
      exact .string s

/-- An entry has its response a level below. -/
theorem MockEntry.printable (rs : RandomState) (e : MockEntry) (n : Nat) :
    (e.serialize rs).Printable (n + 3) := by
  refine .object fun m hm => ?_
  rcases List.mem_append.mp hm with hm | hm
  · rcases List.mem_append.mp hm with hm | hm
    · simp only [List.mem_cons, List.not_mem_nil, or_false] at hm
      rcases hm with rfl | rfl | rfl | rfl
      · exact .string _
      · exact .string _
      · exact e.request.printable _
      · exact e.response.printable rs _
    · exact printable_skipNone m hm
  · simp only [List.mem_cons, List.not_mem_nil, or_false] at hm
    rcases hm with rfl | rfl
    all_goals exact .string _

/-- A step of a sequence is as deep as a response. -/
theorem SequenceResponse.printable (rs : RandomState) (r : SequenceResponse) (n : Nat) :
    (r.serialize rs).Printable (n + 2) := by
  refine .object fun m hm => ?_
  simp only [List.mem_cons, List.not_mem_nil, or_false] at hm
  rcases hm with rfl | rfl | rfl | rfl
  · exact Doc.printable_ofUnsigned _ _
  · exact Doc.printable_ofMap .string
  · exact .string _
  · exact Doc.printable_ofUnsigned _ _

/-- A sequence has its steps two levels below. -/
theorem MockSequence.printable (rs : RandomState) (s : MockSequence) (n : Nat) :
    (s.serialize rs).Printable (n + 4) := by
  refine .object fun m hm => ?_
  simp only [List.mem_cons, List.not_mem_nil, or_false] at hm
  rcases hm with rfl | rfl | rfl | rfl | rfl
  · exact .string _
  · exact .string _
  · exact .string _
  · refine .array fun d hd => ?_
    obtain ⟨r, -, rfl⟩ := List.mem_map.mp hd
    exact r.printable rs n
  · exact .bool _

/-- A storable resource stays within the bound of the library, which is why
its body must stay one level further in. -/
theorem ResourceState.Storable.printable {formats : Formats} {r : ResourceState}
    (hr : r.Storable formats) : (r.serialize formats).Printable maxNesting := by
  refine .object fun m hm => ?_
  rcases List.mem_append.mp hm with hm | hm
  · rcases List.mem_append.mp hm with hm | hm
    · rcases List.mem_append.mp hm with hm | hm
      · simp only [List.mem_cons, List.not_mem_nil, or_false] at hm
        rcases hm with rfl | rfl | rfl
        · exact .string _
        · exact .string _
        · exact Json.printable_serialize _ hr.body
      · exact printable_skipNone m hm
    · exact printable_skipNone m hm
  · simp only [List.mem_cons, List.not_mem_nil, or_false] at hm
    rcases hm with rfl | rfl | rfl | rfl
    · exact .string _
    · exact .string _
    · exact Doc.printable_ofUnsigned _ _
    · exact .string _

section Lines

variable {lib : JsonLibrary} (hlib : lib.Lawful maxNesting) (rs : RandomState)

include hlib

/-- The codec of mock entries keeps the laws. -/
theorem entryCodec_lawful : (entryCodec lib rs).Lawful where
  parse_print e := by
    show (lib.parse (lib.print (e.serialize rs))).bind MockEntry.deserialize = some e
    rw [hlib.parse_print _ (e.printable rs 124), Option.bind_some, e.deserialize_serialize]
  isLine_print e := (hlib.visible_print _ (e.printable rs 124)).isLine

/-- Every sequence survives its line. -/
theorem sequenceCodec_roundTrips (s : MockSequence) : (sequenceCodec lib rs).RoundTrips s where
  isLine := (hlib.visible_print _ (s.printable rs 123)).isLine
  nonblank := hlib.nonblank_print _ (s.printable rs 123)
  parse_print := by
    show (lib.parse (lib.print (s.serialize rs))).bind MockSequence.deserialize = some s
    rw [hlib.parse_print _ (s.printable rs 123), Option.bind_some, s.deserialize_serialize]

/-- Every storable resource survives its line. -/
theorem resourceCodec_roundTrips {formats : Formats} {r : ResourceState}
    (hr : r.Storable formats) : (resourceCodec lib formats).RoundTrips r where
  isLine := (hlib.visible_print _ hr.printable).isLine
  nonblank := hlib.nonblank_print _ hr.printable
  parse_print := by
    show (lib.parse (lib.print (r.serialize formats))).bind (ResourceState.deserialize formats)
      = some r
    rw [hlib.parse_print _ hr.printable, Option.bind_some, hr.deserialize_serialize]

end Lines

/-- Whatever the order hash maps are written in, entries, sequences and
captured resources are written on one line each, and the line is read back
as what was written. -/
theorem lines_read_back (lib : JsonLibrary) (rs : RandomState) (formats : Formats)
    (hlib : lib.Lawful maxNesting) :
    (entryCodec lib rs).Lawful
      ∧ (∀ s, (sequenceCodec lib rs).RoundTrips s)
      ∧ ∀ r : ResourceState, r.Storable formats → (resourceCodec lib formats).RoundTrips r :=
  ⟨entryCodec_lawful hlib rs, sequenceCodec_roundTrips hlib rs,
    fun _ hr => resourceCodec_roundTrips hlib hr⟩

/-- Times as the decimal readings of the clock. -/
def decimalFormats : Formats where
  number := some
  toRfc3339 := Text.ofNat
  parseFromRfc3339 t := some (Nat.ofDigitChars 10 t 0)

/-- With the compact library, and times printed in decimal. -/
theorem lines_read_back_compact :
    (entryCodec JsonLibrary.compact default).Lawful
      ∧ (∀ s, (sequenceCodec JsonLibrary.compact default).RoundTrips s)
      ∧ ∀ r : ResourceState, r.Storable decimalFormats →
        (resourceCodec JsonLibrary.compact decimalFormats).RoundTrips r :=
  lines_read_back _ _ _ (JsonLibrary.compact_lawful maxNesting)

end GostlyProxy
