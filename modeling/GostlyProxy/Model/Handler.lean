/-
The request handler (`proxy_handler` in `main.rs`).

# One request

`proxyHandler` takes the state and one call: the request and everything
the handler reads from outside (the upstream, the clocks, the hash
order). It returns the state with the updates made before the response is
sent, the answer, and the tasks it spawned. `settle` runs the spawned
capture; `handle` is a request whose spawned tasks end before the next
request. The appends to log files are listed but have no effect here; the
files are the business of `Disk.lean`.

# The MOCK branch

Five layers are asked in turn: exact, sequence, resource lookup, statechart
transition, smart swap. A layer may change the state also when it does not
answer, so a layer is a function of the state and `Layer.orElse` chains
them.

# Left out

Metrics and log lines. Chaos injection stands before the branches and is
in `Injection.lean`: routes carry no chaos configuration here, which is the
source with chaos switched off.
-/
import GostlyProxy.Model.Library
import GostlyProxy.Model.Matcher
import GostlyProxy.Model.ResourceStore
import GostlyProxy.Model.Respond
import GostlyProxy.Model.Routes
import GostlyProxy.Model.Workload

namespace GostlyProxy

open Lib

-- ============================================================= the state

/-- The settings fixed at boot. -/
structure Config where
  backendUrl : Text
  redactHeaders : List Text
  maxBodyBytes : Nat
  observabilityEnabled : Bool
  smartSwapEnabled : Bool
  /-- The redaction list is the floor plus the configured names. -/
  redact_floor : ∀ h ∈ redactFloor, h ∈ redactHeaders

/-- `counters` of the telemetry collector. -/
abbrev Telemetry := HashMap Text UInt64

def Telemetry.incCounter (t : Telemetry) (name : Text) (n : UInt64) : Telemetry :=
  t.insert name ((t.lookup name).getD 0 + n)

def agentBootsTotal : Text := "gostly_agent_boots_total"
def firstRequestProxiedTotal : Text := "gostly_first_request_proxied_total"
def firstMockRecordedTotal : Text := "gostly_first_mock_recorded_total"
def firstMockServedTotal : Text := "gostly_first_mock_served_total"

structure AppState where
  mode : Mode
  mocks : MockLibrary
  unmatched : List MockRequest
  sequences : List MockSequence
  sequenceCounters : HashMap Text UInt32
  runtimeConfig : RuntimeConfig
  upstreams : List UpstreamRoute
  entryCounter : UInt64
  onboardingProxied : Finset Text
  onboardingServed : Finset Text
  telemetry : Telemetry
  resourceStore : ResourceStore

/-- The settings of an environment that sets nothing. -/
def Config.new : Config where
  backendUrl := "http://127.0.0.1:3000"
  redactHeaders := redactFloor
  maxBodyBytes := 1048576
  observabilityEnabled := false
  smartSwapEnabled := false
  redact_floor := fun _ h => h

/-- The state `run_proxy` builds from what it read at boot. -/
def AppState.boot (initialMode : Mode) (library : MockLibrary)
    (sequences : List MockSequence) (resourceStore : ResourceStore) : AppState where
  mode := initialMode
  mocks := library
  unmatched := []
  sequences := sequences
  sequenceCounters := ∅
  runtimeConfig := RuntimeConfig.new
  upstreams := []
  entryCounter := 0
  onboardingProxied := ∅
  onboardingServed := ∅
  telemetry := Telemetry.incCounter ∅ agentBootsTotal 1
  resourceStore := resourceStore

-- ============================================================== the call

/-- What is sent to the upstream. -/
structure ForwardedRequest where
  method : Text
  url : Text
  headers : HeaderMap
  body : Bytes

structure UpstreamResponse where
  status : StatusCode
  headers : HeaderMap
  body : Bytes

/-- One call of the handler: the request, and what the handler reads from
outside while it runs. The upstream may fail to answer. -/
structure Call where
  request : Request
  upstream : ForwardedRequest → Option UpstreamResponse
  latencyMs : UInt64
  nowMillis : Nat
  nowRfc3339 : Text
  trafficMillis : Nat
  systemTime : Nat
  order : RandomState

/-- A request at the start of time, to an upstream that gives one answer. -/
def Call.plain (order : RandomState) (request : Request)
    (answer : Option UpstreamResponse) : Call where
  request := request
  upstream := fun _ => answer
  latencyMs := 0
  nowMillis := 0
  nowRfc3339 := "1970-01-01T00:00:00+00:00"
  trafficMillis := 0
  systemTime := 0
  order := order

/-- Which branch or layer answered (the `match_type` label). -/
inductive MatchType where
  | exact
  | sequence
  | resourceStore
  | resourceTransition
  | smartSwap
  | miss
  | learn
  | transitioning
  | passthrough
  deriving DecidableEq, Repr

inductive Answer where
  /-- A response, labelled with what produced it. -/
  | served (matchType : MatchType) (s : Served)
  /-- The handler's error: a bare status. -/
  | failed (status : StatusCode)
  /-- The handler's task died. -/
  | panicked
  deriving DecidableEq

/-- The status and body a client sees. -/
def Answer.statusAndBody : Answer → Option (StatusCode × Bytes)
  | .served _ s => some (s.response.status, s.response.body)
  | .failed status => some (status, [])
  | .panicked => none

/-- A task the LEARN branch leaves running. -/
inductive Spawned where
  | appendTrafficLog (svcId : Text) (entry : MockEntry)
  | appendMockLog (svcId : Text) (entry : MockEntry)
  | appendWideEvent (serviceId : Option Text) (method uri : Text) (status : UInt16)
      (latencyMs : UInt64) (workloadClass : Text)
  | captureCreate (svcKey collection : Text) (body : Json) (contentType : Option Text)
      (status : UInt16)

/-- The values at the top of the handler. -/
structure RequestContext where
  method : Text
  pathQuery : Text
  bytes : Bytes
  bodyStr : Text
  workloadLabel : Text
  library : MockLibrary
  tenant : Text
  resolved : Resolved

/-- The key of the request's service in the library and the stores. -/
def RequestContext.svcKey (ctx : RequestContext) : Text :=
  ctx.resolved.serviceId.getD globalTenant

-- ================================================== onboarding milestones

/-- `fire_onboarding_event` on one seen set and its counter. -/
def fireOnboardingEvent (counter : Text) (serviceId : Option Text)
    (seen : Finset Text) (telemetry : Telemetry) : Finset Text × Telemetry :=
  let svc := serviceId.getD globalTenant
  if svc ∈ seen then (seen, telemetry)
  else (insert svc seen, telemetry.incCounter counter 1)

def fireFirstMockServed (serviceId : Option Text) (st : AppState) : AppState :=
  let fired := fireOnboardingEvent firstMockServedTotal serviceId
    st.onboardingServed st.telemetry
  { st with onboardingServed := fired.1, telemetry := fired.2 }

def fireFirstRequestProxied (serviceId : Option Text) (st : AppState) : AppState :=
  let fired := fireOnboardingEvent firstRequestProxiedTotal serviceId
    st.onboardingProxied st.telemetry
  { st with onboardingProxied := fired.1, telemetry := fired.2 }

-- ========================================================= MOCK, by layer

/-- Header names the handler writes itself. -/
def xGhostMock : HeaderName := ⟨"x-ghost-mock", by decide⟩
def xGhostSequence : HeaderName := ⟨"x-ghost-sequence", by decide⟩
def xGhostResource : HeaderName := ⟨"x-ghost-resource", by decide⟩
def xGhostTransition : HeaderName := ⟨"x-ghost-transition", by decide⟩
def xGhostSwapMatch : HeaderName := ⟨"x-ghost-swapmatch", by decide⟩
def xGhostMiss : HeaderName := ⟨"x-ghost-miss", by decide⟩
def xGhostTransitioning : HeaderName := ⟨"x-ghost-transitioning", by decide⟩
def contentTypeHeader : HeaderName := ⟨"content-type", by decide⟩
def retryAfterHeader : HeaderName := ⟨"retry-after", by decide⟩

def valueJson : HeaderValue := ⟨Text.utf8 "application/json", by decide⟩
def valueFive : HeaderValue := ⟨Text.utf8 "5", by decide⟩

/-- One layer of the MOCK branch: it may answer, and it may change the
state whether it answers or not. -/
abbrev Layer := AppState → AppState × Option Answer

/-- Ask the second layer when the first does not answer. -/
def Layer.orElse (first second : Layer) : Layer := fun st =>
  match first st with
  | (st', some answer) => (st', some answer)
  | (st', none) => second st'

section Mock

variable (env : Externals) (cfg : Config) (call : Call) (ctx : RequestContext)

/-- Serve an entry's response. -/
def serveEntry (matchType : MatchType) (extraKey : HeaderName) (entry : MockEntry) :
    Answer :=
  .served matchType (serveMockResponse env call.order entry.response.status
    entry.response.headers (Text.utf8 entry.response.body) entry.response.latencyMs
    extraKey "true")

/-- Serve a captured resource, as 200 whatever its status was. -/
def serveResource (matchType : MatchType) (extraKey : HeaderName) (extraVal : Text)
    (resource : ResourceState) : Answer :=
  .served matchType (serveMockResponse env call.order 200
    (Finmap.singleton ("Content-Type" : Text) resource.contentType)
    (Text.utf8 (env.printJson resource.body)) 0 extraKey extraVal)

/-- 1. Exact match. -/
def exactLayer : Layer := fun st =>
  match ctx.library.findExact call.order ctx.svcKey ctx.method ctx.pathQuery
      ctx.tenant with
  | none => (st, none)
  | some entry =>
      if entry.request.body = ctx.bodyStr then
        (fireFirstMockServed ctx.resolved.serviceId st,
          some (serveEntry env call .exact xGhostMock entry))
      else (st, none)

/-- 2. Sequence match. -/
def sequenceLayer : Layer := fun st =>
  match findSequenceResponse env st.sequences st.sequenceCounters ctx.method
      ctx.pathQuery with
  | (counters, none) => ({ st with sequenceCounters := counters }, none)
  | (counters, some seqResp) =>
      (fireFirstMockServed ctx.resolved.serviceId
          { st with sequenceCounters := counters },
        some (.served .sequence (serveMockResponse env call.order seqResp.status
          seqResp.headers (Text.utf8 seqResp.body) seqResp.latencyMs xGhostSequence
          "true")))

/-- 3. Resource store lookup. -/
def resourceLayer : Layer := fun st =>
  if ctx.method = "GET" then
    match parseCollectionAndId ctx.pathQuery with
    | none => (st, none)
    | some (collection, id) =>
        match st.resourceStore.lookup ctx.svcKey collection id with
        | none => (st, none)
        | some resource =>
            (fireFirstMockServed ctx.resolved.serviceId st,
              some (serveResource env call .resourceStore xGhostResource "true" resource))
  else (st, none)

/-- The action in a PATCH body. -/
def bodyAction : Option Text :=
  ((env.parseJson ctx.bodyStr).bind (Json.get "action")).bind Json.asStr

/-- The resource and action a request names, in either form. -/
def transitionTarget : Option (Text × Text × Text) :=
  (if ctx.method = "POST" then parseCollectionIdAction ctx.pathQuery else none).or
    (if ctx.method = "PATCH" then
      (parseCollectionAndId ctx.pathQuery).bind fun (coll, id) =>
        (bodyAction env ctx).map fun action => (coll, id, action)
    else none)

/-- 3a. Statechart transition. -/
def transitionLayer : Layer := fun st =>
  match transitionTarget env ctx with
  | none => (st, none)
  | some (collection, id, action) =>
      match st.resourceStore.applyTransition ctx.svcKey collection id action
          call.systemTime with
      | (store, none) => ({ st with resourceStore := store }, none)
      | (store, some nextState) =>
          ({ st with resourceStore := store },
            (store.lookup ctx.svcKey collection id).map
              (serveResource env call .resourceTransition xGhostTransition nextState))

/-- 4. Smart swap. -/
def smartSwapLayer : Layer := fun st =>
  if cfg.smartSwapEnabled then
    let svcEntries := ctx.library.entriesForService call.order ctx.svcKey
      (some ctx.tenant)
    match findSmartSwap env call.order svcEntries ctx.method ctx.pathQuery
        ctx.bodyStr with
    | none => (st, none)
    | some entry =>
        (fireFirstMockServed ctx.resolved.serviceId st,
          some (serveEntry env call .smartSwap xGhostSwapMatch entry))
  else (st, none)

/-- 5. Total miss. -/
def missAnswer (st : AppState) : AppState × Answer :=
  ({ st with unmatched := st.unmatched ++ [⟨ctx.method, ctx.pathQuery, ctx.bodyStr⟩] },
    .served .miss
      { delayMs := 0
        response :=
          { status := (StatusCode.fromU16 st.runtimeConfig.unmatchedStatus).getD
              StatusCode.notFound
            headers := [(contentTypeHeader, valueJson), (xGhostMiss, valueTrue)]
            body := Text.utf8 st.runtimeConfig.unmatchedBody } })

/-- The layers in the order they are asked. -/
def mockLayers : Layer :=
  (exactLayer env call ctx).orElse <| (sequenceLayer env call ctx).orElse <|
    (resourceLayer env call ctx).orElse <| (transitionLayer env call ctx).orElse <|
      smartSwapLayer env cfg call ctx

def mockBranch (st : AppState) : AppState × Answer :=
  match mockLayers env cfg call ctx st with
  | (st', some answer) => (st', answer)
  | (st', none) => missAnswer ctx st'

end Mock

-- ================================================================= LEARN

/-- Request headers that are not forwarded. -/
def isNotForwarded (name : Text) : Bool :=
  name = "host" || name = "transfer-encoding" || name = "connection"
    || name = "keep-alive"

section Learn

variable (env : Externals) (cfg : Config) (call : Call) (ctx : RequestContext)

def forwarded : ForwardedRequest where
  method := ctx.method
  url := ctx.resolved.upstream ++ ctx.pathQuery
  headers := call.request.headers.filter fun h => !isNotForwarded h.1.toText
  body := ctx.bytes

/-- The upstream's headers as one map: the last value of a name stays, a
value that is not a string becomes empty. -/
def collectHeaders (headers : HeaderMap) : HashMap Text Text :=
  HashMap.collect (headers.map fun h => (h.1.toText, h.2.toStr.getD []))

/-- Is the header name in the effective redaction set? -/
def isRedacted (name : Text) : Bool :=
  (cfg.redactHeaders ++ ctx.resolved.redactHeaders).any fun h =>
    env.toLowercase h = env.toLowercase name

/-- A body as it is stored: decoded lossily, or replaced when over the cap. -/
def storedBody (bytes : Bytes) : Text :=
  if cfg.maxBodyBytes < bytes.length then bodyTruncated bytes.length
  else Utf8.fromUtf8Lossy bytes

/-- The entry a LEARN round trip records. -/
def learnEntry (res : UpstreamResponse) : MockEntry where
  id := Text.ofNat call.nowMillis
  timestamp := call.nowRfc3339
  request :=
    { method := ctx.method
      uri := ctx.pathQuery
      body := if cfg.maxBodyBytes < ctx.bytes.length then bodyTruncated ctx.bytes.length
        else ctx.bodyStr }
  response :=
    { status := res.status.1
      headers := HashMap.mapValues
        (fun k v => if isRedacted env cfg ctx k then redacted else v)
        (collectHeaders res.headers)
      body := storedBody cfg res.body
      latencyMs := call.latencyMs }
  serviceId := ctx.resolved.serviceId
  tenant := ctx.tenant
  workloadClass := ctx.workloadLabel

/-- The capture a LEARN round trip spawns, if it is a resource creation. -/
def learnCapture (res : UpstreamResponse) : List Spawned :=
  if (ctx.method = "POST" || ctx.method = "PUT") && 200 ≤ res.status.1
      && res.status.1 < 300 then
    match pathCollectionSegment ctx.pathQuery with
    | none => []
    | some collection =>
        match env.parseJsonSlice res.body with
        | none => []
        | some body =>
            let contentType := ((call.order.iter (collectHeaders res.headers)).find?
              fun h => env.toLowercase h.1 = "content-type").map (·.2)
            [.captureCreate ctx.svcKey collection body contentType res.status.1]
  else []

/-- The traffic log entry: the recorded entry under a collision-free id. -/
def trafficEntry (seq : UInt64) (entry : MockEntry) : MockEntry :=
  { entry with id := Text.ofNat call.trafficMillis ++ '_' :: Text.ofNat seq.toNat }

def learnSpawned (seq : UInt64) (entry : MockEntry) (res : UpstreamResponse) :
    List Spawned :=
  (if cfg.observabilityEnabled then
    [.appendWideEvent ctx.resolved.serviceId ctx.method ctx.pathQuery res.status.1
      call.latencyMs ctx.workloadLabel] else [])
  ++ (match ctx.resolved.serviceId with
    | some svcId => [.appendTrafficLog svcId (trafficEntry call seq entry)]
    | none => [])
  ++ [.appendMockLog ctx.svcKey entry] ++ learnCapture env call ctx res

/-- The state after a recording: milestones, counters and the published
entry. -/
def learnState (entry : MockEntry) (st : AppState) : AppState :=
  let st := fireFirstRequestProxied ctx.resolved.serviceId st
  { st with
    telemetry := st.telemetry.incCounter firstMockRecordedTotal 1
    entryCounter := match ctx.resolved.serviceId with
      | some _ => st.entryCounter + 1
      | none => st.entryCounter
    mocks := st.mocks.publish ctx.svcKey entry }

def learnBranch (st : AppState) : AppState × Answer × List Spawned :=
  match call.upstream (forwarded call ctx) with
  | none => (st, .failed StatusCode.badGateway, [])
  | some res =>
      let entry := learnEntry env cfg call ctx res
      (learnState ctx entry st,
        .served .learn
          { delayMs := 0
            response := buildResponse env call.order res.status.1
              (collectHeaders res.headers) res.body },
        learnSpawned env cfg call ctx st.entryCounter entry res)

-- ============================================ TRANSITIONING, PASSTHROUGH

def transitioningAnswer : Answer :=
  .served .transitioning
    { delayMs := 0
      response :=
        { status := StatusCode.serviceUnavailable
          headers := [(contentTypeHeader, valueJson), (retryAfterHeader, valueFive),
            (xGhostTransitioning, valueTrue)]
          body := Text.utf8
            "\x7b\"status\":\"transitioning\",\"message\":\"Proxy is processing recorded traffic. Retry in a few seconds.\",\"retry_after\":5\x7d" } }

def passthroughAnswer : Answer :=
  match call.upstream (forwarded call ctx) with
  | none => .failed StatusCode.badGateway
  | some res =>
      .served .passthrough
        { delayMs := 0
          response := buildResponse env call.order res.status.1
            (collectHeaders res.headers) res.body }

end Learn

-- =========================================================== the handler

section Handler

variable (env : Externals) (cfg : Config)

/-- The request body, collected under the limit of the layer in front of
the handler. -/
def collectBody (body : Bytes) : Option Bytes :=
  if body.length ≤ cfg.maxBodyBytes then some body else none

/-- A header as a string, empty when it is missing or not one. -/
def headerStr (headers : HeaderMap) (name : Text) : Text :=
  ((headers.get name).bind HeaderValue.toStr).getD []

/-- The URI the request is looked up and recorded under. -/
def lookupUri (req : Request) : Text :=
  normalizeUri (stripTenantParam (req.pathAndQuery.getD ("/" : Text)))

/-- Everything the handler computes before it branches; `none` when the
tenant cannot be resolved. -/
def requestContext (st : AppState) (req : Request) (bytes : Bytes) :
    Option RequestContext :=
  (resolveTenant req.headers req.query).map fun tenant =>
    let uaStr := headerStr req.headers "user-agent"
    let workload := if cfg.observabilityEnabled
      then inferWorkloadClass env req.headers uaStr else .unknown
    { method := req.method
      pathQuery := lookupUri req
      bytes := bytes
      bodyStr := Utf8.fromUtf8Lossy bytes
      workloadLabel := workload.asStr
      library := st.mocks
      tenant := tenant
      resolved := resolveUpstream st.upstreams (headerStr req.headers "host")
        (lookupUri req) cfg.backendUrl }

/-- The four branches; a route's own mode overrides the global one. -/
def dispatch (call : Call) (ctx : RequestContext) (st : AppState) :
    AppState × Answer × List Spawned :=
  match ctx.resolved.mode.getD st.mode with
  | .mock =>
      let (st', answer) := mockBranch env cfg call ctx st
      (st', answer, [])
  | .learn => learnBranch env cfg call ctx st
  | .transitioning => (st, transitioningAnswer, [])
  | .passthrough => (st, passthroughAnswer env call ctx, [])

def proxyHandler (st : AppState) (call : Call) : AppState × Answer × List Spawned :=
  match collectBody cfg call.request.body with
  | none => (st, .failed StatusCode.internalServerError, [])
  | some bytes =>
      match requestContext env cfg st call.request bytes with
      | none => (st, .panicked, [])
      | some ctx => dispatch env cfg call ctx st

/-- Run one spawned task to its end, as far as the state goes. -/
def runSpawned (now : Nat) (st : AppState) : Spawned → AppState
  | .captureCreate svcKey collection body contentType status =>
      { st with
        resourceStore := (st.resourceStore.captureCreate svcKey collection body none
          contentType status now).1 }
  | _ => st

def settle (now : Nat) (st : AppState) (spawned : List Spawned) : AppState :=
  spawned.foldl (runSpawned now) st

/-- One request, with everything it spawned completed. -/
def handle (st : AppState) (call : Call) : AppState × Answer :=
  let (st', answer, spawned) := proxyHandler env cfg st call
  (settle call.systemTime st' spawned, answer)

end Handler

end GostlyProxy
