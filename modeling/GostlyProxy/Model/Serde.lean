/-
The lines of the files as documents: what the derived `Serialize` and
`Deserialize` of the proxy's records do.

# Fields

A record is written as an object with its fields in the order of the
source; a hash map is written in the order an iteration meets its entries.
`Lib/Derive.lean` says how a record is read; the fields here carry the
source's names, types and defaults.

# From outside

The JSON library itself is a parameter, and so are what it makes of a
number literal in a value and the texts of times. A line is read as a
document, and the document as a record.
-/
import GostlyProxy.Lib.Derive
import GostlyProxy.Model.Files
import GostlyProxy.Model.Workload

namespace GostlyProxy

open Lib

/-- A field that is skipped when it is `None`. -/
def skipNone (name : Text) : Option Text → List (Text × Doc)
  | some s => [(name, .string s)]
  | none => []

-- ========================================================== mock entries

namespace MockRequest

def serialize (r : MockRequest) : Doc :=
  .object [
    ("method", .string r.method),
    ("uri", .string r.uri),
    ("body", .string r.body)]

def deserialize (d : Doc) : Option MockRequest := do
  guard (d.fits 3)
  let method ← (Slot.required "method" Doc.asString).get 0 d
  let uri ← (Slot.required "uri" Doc.asString).get 1 d
  let body ← (Slot.required "body" Doc.asString).get 2 d
  some { method, uri, body }

end MockRequest

namespace MockResponse

def serialize (rs : RandomState) (r : MockResponse) : Doc :=
  .object [
    ("status", .ofUnsigned r.status.toNat),
    ("headers", .ofMap rs .string r.headers),
    ("body", .string r.body),
    ("latency_ms", .ofUnsigned r.latencyMs.toNat)]

def deserialize (d : Doc) : Option MockResponse := do
  guard (d.fits 4)
  let status ← (Slot.required "status" Doc.asU16).get 0 d
  let headers ← (Slot.required "headers" (Doc.asMap Doc.asString)).get 1 d
  let body ← (Slot.required "body" Doc.asString).get 2 d
  let latencyMs ← (Slot.required "latency_ms" Doc.asU64).get 3 d
  some { status, headers, body, latencyMs }

end MockResponse

namespace MockEntry

def serialize (rs : RandomState) (e : MockEntry) : Doc :=
  let front : List (Text × Doc) := [
    ("id", .string e.id),
    ("timestamp", .string e.timestamp),
    ("request", e.request.serialize),
    ("response", e.response.serialize rs)]
  let back : List (Text × Doc) := [
    ("tenant", .string e.tenant),
    ("workload_class", .string e.workloadClass)]
  .object (front ++ skipNone "service_id" e.serviceId ++ back)

def deserialize (d : Doc) : Option MockEntry := do
  guard (d.fits 7)
  let id ← (Slot.required "id" Doc.asString).get 0 d
  let timestamp ← (Slot.required "timestamp" Doc.asString).get 1 d
  let request ← (Slot.required "request" MockRequest.deserialize).get 2 d
  let response ← (Slot.required "response" MockResponse.deserialize).get 3 d
  let serviceId ← (Slot.option "service_id" Doc.asString).get 4 d
  let tenant ← (Slot.defaulted "tenant" Doc.asString globalTenant).get 5 d
  let workloadClass ←
    (Slot.defaulted "workload_class" Doc.asString defaultWorkloadClass).get 6 d
  some { id, timestamp, request, response, serviceId, tenant, workloadClass }

end MockEntry

-- ============================================================= sequences

namespace SequenceResponse

def serialize (rs : RandomState) (r : SequenceResponse) : Doc :=
  .object [
    ("status", .ofUnsigned r.status.toNat),
    ("headers", .ofMap rs .string r.headers),
    ("body", .string r.body),
    ("latency_ms", .ofUnsigned r.latencyMs.toNat)]

def deserialize (d : Doc) : Option SequenceResponse := do
  guard (d.fits 4)
  let status ← (Slot.required "status" Doc.asU16).get 0 d
  let headers ← (Slot.defaulted "headers" (Doc.asMap Doc.asString) ∅).get 1 d
  let body ← (Slot.required "body" Doc.asString).get 2 d
  let latencyMs ← (Slot.defaulted "latency_ms" Doc.asU64 0).get 3 d
  some { status, headers, body, latencyMs }

end SequenceResponse

namespace MockSequence

def serialize (rs : RandomState) (s : MockSequence) : Doc :=
  .object [
    ("id", .string s.id),
    ("method", .string s.method),
    ("uri", .string s.uri),
    ("responses", .array (s.responses.map (SequenceResponse.serialize rs))),
    ("loop_responses", .bool s.loopResponses)]

def deserialize (d : Doc) : Option MockSequence := do
  guard (d.fits 5)
  let id ← (Slot.required "id" Doc.asString).get 0 d
  let method ← (Slot.required "method" Doc.asString).get 1 d
  let uri ← (Slot.required "uri" Doc.asString).get 2 d
  let responses ←
    (Slot.required "responses" (Doc.asVec SequenceResponse.deserialize)).get 3 d
  let loopResponses ← (Slot.defaulted "loop_responses" Doc.asBool false).get 4 d
  some { id, method, uri, responses, loopResponses }

end MockSequence

-- ================================================================= values

namespace Json

mutual

/-- A `serde_json::Value` as it is written. -/
def serialize : Json → Doc
  | .null => .null
  | .bool b => .bool b
  | .number repr => .number repr
  | .string s => .string s
  | .array items => .array (serializeItems items)
  | .object members => .object (serializeMembers members)

def serializeItems : List Json → List Doc
  | [] => []
  | v :: vs => serialize v :: serializeItems vs

def serializeMembers : List (Text × Json) → List (Text × Doc)
  | [] => []
  | (k, v) :: ms => (k, serialize v) :: serializeMembers ms

end

/-- `BTreeMap::insert`. -/
def insertMember (key : Text) (v : Json) : List (Text × Json) → List (Text × Json)
  | [] => [(key, v)]
  | (k, w) :: ms =>
      if key < k then (key, v) :: (k, w) :: ms
      else if k = key then (k, v) :: ms
      else (k, w) :: insertMember key v ms

variable (number : Text → Option Text)

mutual

/-- A document as a value: `number` prints what a literal stands for, and
the members of an object are collected in a sorted map. -/
def deserialize : Doc → Option Json
  | .null => some .null
  | .bool b => some (.bool b)
  | .number literal => (number literal).map .number
  | .string s => some (.string s)
  | .array items => (deserializeItems items).map .array
  | .object members =>
      (deserializeMembers members).map fun ms =>
        .object (ms.foldl (fun acc m => insertMember m.1 m.2 acc) [])

def deserializeItems : List Doc → Option (List Json)
  | [] => some []
  | d :: ds => do
      let v ← deserialize d
      let vs ← deserializeItems ds
      some (v :: vs)

def deserializeMembers : List (Text × Doc) → Option (List (Text × Json))
  | [] => some []
  | (k, d) :: ms => do
      let v ← deserialize d
      let vs ← deserializeMembers ms
      some ((k, v) :: vs)

end

end Json

-- ============================================================== resources

/-- What the records take from outside: number literals as
`serde_json::Number` prints them, and `chrono`'s texts of times. -/
structure Formats where
  number : Text → Option Text
  toRfc3339 : Nat → Text
  parseFromRfc3339 : Text → Option Nat

namespace ResourceState

/-- `default_status`. -/
def defaultStatus : UInt16 := 200

variable (formats : Formats)

def serialize (r : ResourceState) : Doc :=
  let front : List (Text × Doc) := [
    ("collection", .string r.collection),
    ("id", .string r.id),
    ("body", r.body.serialize)]
  let back : List (Text × Doc) := [
    ("created_at", .string (formats.toRfc3339 r.createdAt)),
    ("updated_at", .string (formats.toRfc3339 r.updatedAt)),
    ("status", .ofUnsigned r.status.toNat),
    ("content_type", .string r.contentType)]
  .object (front ++ skipNone "statechart" r.statechart
    ++ skipNone "current_state" r.currentState ++ back)

/-- `systemtime_rfc3339::deserialize`. -/
def deserializeTime (d : Doc) : Option Nat := d.asString.bind formats.parseFromRfc3339

def deserialize (d : Doc) : Option ResourceState := do
  guard (d.fits 9)
  let collection ← (Slot.required "collection" Doc.asString).get 0 d
  let id ← (Slot.required "id" Doc.asString).get 1 d
  let body ← (Slot.required "body" (Json.deserialize formats.number)).get 2 d
  let statechart ←
    (Slot.defaulted "statechart" (Doc.asOption Doc.asString) none).get 3 d
  let currentState ←
    (Slot.defaulted "current_state" (Doc.asOption Doc.asString) none).get 4 d
  let createdAt ← (Slot.required "created_at" (deserializeTime formats)).get 5 d
  let updatedAt ← (Slot.required "updated_at" (deserializeTime formats)).get 6 d
  let status ← (Slot.defaulted "status" Doc.asU16 defaultStatus).get 7 d
  let contentType ←
    (Slot.defaulted "content_type" Doc.asString defaultContentType).get 8 d
  some ⟨collection, id, body, statechart, currentState, createdAt, updatedAt, status,
    contentType⟩

end ResourceState

-- ================================================================== lines

/-- How deep the JSON library's parser follows a nesting. -/
def maxNesting : Nat := 127

section Codecs

variable (lib : JsonLibrary) (rs : RandomState)

/-- `serde_json::from_str::<MockEntry>` and `to_string`. -/
def entryCodec : EntryCodec where
  parse line := (lib.parse line).bind MockEntry.deserialize
  print e := lib.print (e.serialize rs)

/-- `serde_json::from_str::<MockSequence>` and `to_string`. -/
def sequenceCodec : SequenceCodec where
  parse line := (lib.parse line).bind MockSequence.deserialize
  print s := lib.print (s.serialize rs)

/-- `serde_json::from_str::<ResourceState>` and `to_string`. -/
def resourceCodec (formats : Formats) : ResourceCodec where
  parse line := (lib.parse line).bind (ResourceState.deserialize formats)
  print r := lib.print (r.serialize formats)

end Codecs

end GostlyProxy
