/-
What one request does: the specifications the other modules cite instead
of unfolding the handler.

`SameSetup` is the frame of every request: mode, sequences, runtime
config, routes and the statechart registry are what they were. `published` is what
a request publishes, read off the request alone, and `handle_mocks` says
that the library changes by exactly that. `handle_mock` opens the MOCK
branch, which `Layers.lean` takes apart; `handle_learn` is a LEARN round
trip.
-/
import GostlyProxy.Proofs.Layers

namespace GostlyProxy

open Lib

-- ============================================================== the frame

/-- No request changes what the operator set up. -/
structure SameSetup (st st' : AppState) : Prop where
  mode : st'.mode = st.mode
  sequences : st'.sequences = st.sequences
  runtimeConfig : st'.runtimeConfig = st.runtimeConfig
  upstreams : st'.upstreams = st.upstreams
  registry : st'.resourceStore.registry = st.resourceStore.registry

namespace SameSetup

theorem refl (st : AppState) : SameSetup st st := ⟨rfl, rfl, rfl, rfl, rfl⟩

theorem trans {st st' st'' : AppState} (h : SameSetup st st')
    (h' : SameSetup st' st'') : SameSetup st st'' where
  mode := h'.mode.trans h.mode
  sequences := h'.sequences.trans h.sequences
  runtimeConfig := h'.runtimeConfig.trans h.runtimeConfig
  upstreams := h'.upstreams.trans h.upstreams
  registry := h'.registry.trans h.registry

end SameSetup

/-- What a MOCK layer leaves alone. -/
structure MockFrame (st st' : AppState) : Prop extends SameSetup st st' where
  mocks : st'.mocks = st.mocks

namespace MockFrame

theorem refl (st : AppState) : MockFrame st st := ⟨SameSetup.refl st, rfl⟩

theorem trans {st st' st'' : AppState} (h : MockFrame st st')
    (h' : MockFrame st' st'') : MockFrame st st'' :=
  ⟨h.toSameSetup.trans h'.toSameSetup, h'.mocks.trans h.mocks⟩

end MockFrame

theorem mockFrame_fireFirstMockServed (serviceId : Option Text) (st : AppState) :
    MockFrame st (fireFirstMockServed serviceId st) := ⟨⟨rfl, rfl, rfl, rfl, rfl⟩, rfl⟩

theorem ResourceStore.registry_captureCreate (store : ResourceStore)
    (svc coll : Text) (body : Json) (hint ct : Option Text) (status : UInt16)
    (now : Nat) :
    (store.captureCreate svc coll body hint ct status now).1.registry
      = store.registry := by
  unfold captureCreate
  cases extractId body coll hint <;> rfl

theorem mockFrame_mockBranch (env : Externals) (cfg : Config) (call : Call)
    (ctx : RequestContext) (st : AppState) :
    MockFrame st (mockBranch env cfg call ctx st).1 := by
  obtain ⟨st', a, hout⟩ := exists_mockOutcome env cfg call ctx st
  rw [hout.eq]
  cases hout with
  | exact => exact mockFrame_fireFirstMockServed _ st
  | sequence => exact ⟨⟨rfl, rfl, rfl, rfl, rfl⟩, rfl⟩
  | resource => exact mockFrame_fireFirstMockServed _ st
  | transition => exact ⟨⟨rfl, rfl, rfl, rfl, ResourceStore.registry_put ..⟩, rfl⟩
  | smartSwap => exact mockFrame_fireFirstMockServed _ st
  | miss => exact ⟨⟨rfl, rfl, rfl, rfl, rfl⟩, rfl⟩

-- ================================================================== LEARN

section Learn

variable (env : Externals) (cfg : Config) (call : Call) (ctx : RequestContext)

theorem sameSetup_learnState (entry : MockEntry) (st : AppState) :
    SameSetup st (learnState ctx entry st) := ⟨rfl, rfl, rfl, rfl, rfl⟩

theorem mocks_learnState (entry : MockEntry) (st : AppState) :
    (learnState ctx entry st).mocks = st.mocks.publish ctx.svcKey entry := rfl

theorem mockFrame_runSpawned (now : Nat) (st : AppState) (task : Spawned) :
    MockFrame st (runSpawned now st task) := by
  cases task with
  | captureCreate svcKey coll body ct status =>
      exact ⟨⟨rfl, rfl, rfl, rfl, st.resourceStore.registry_captureCreate ..⟩, rfl⟩
  | appendTrafficLog svcId entry => exact MockFrame.refl st
  | appendMockLog svcId entry => exact MockFrame.refl st
  | appendWideEvent serviceId method uri status latency workload =>
      exact MockFrame.refl st

theorem mockFrame_settle (now : Nat) (spawned : List Spawned) (st : AppState) :
    MockFrame st (settle now st spawned) := by
  induction spawned generalizing st with
  | nil => exact MockFrame.refl st
  | cons task spawned ih =>
      exact (mockFrame_runSpawned now st task).trans (ih (runSpawned now st task))

/-- Of the spawned tasks only the capture touches the state. -/
theorem settle_learnSpawned (now : Nat) (st : AppState) (seq : UInt64)
    (entry : MockEntry) (res : UpstreamResponse) :
    settle now st (learnSpawned env cfg call ctx seq entry res)
      = settle now st (learnCapture env call ctx res) := by
  rw [settle, learnSpawned, List.foldl_append, settle]
  congr 1
  cases cfg.observabilityEnabled <;> cases ctx.resolved.serviceId <;> rfl

end Learn

-- =========================================================== the handler

section Handler

variable (env : Externals) (cfg : Config)

/-- The context as a function of the request, given its tenant. -/
def contextFor (st : AppState) (req : Request) (bytes : Bytes) (tenant : Text) :
    RequestContext :=
  let uaStr := headerStr req.headers "user-agent"
  let workload := if cfg.observabilityEnabled
    then inferWorkloadClass env req.headers uaStr else .unknown
  { method := req.method
    pathQuery := lookupUri req
    bytes := bytes
    bodyStr := Utf8.fromUtf8Lossy bytes
    workloadLabel := workload.asStr
    library := st.mocks
    tenant := tenant
    resolved := resolveUpstream st.upstreams (headerStr req.headers "host")
      (lookupUri req) cfg.backendUrl }

theorem requestContext_eq (st : AppState) (req : Request) (bytes : Bytes) :
    requestContext env cfg st req bytes
      = (resolveTenant req.headers req.query).map
          (contextFor env cfg st req bytes) := rfl

variable {env cfg} in
theorem requestContext_some {st : AppState} {req : Request} {bytes : Bytes}
    {ctx : RequestContext} (h : requestContext env cfg st req bytes = some ctx) :
    ∃ tenant, resolveTenant req.headers req.query = some tenant
      ∧ ctx = contextFor env cfg st req bytes tenant := by
  rw [requestContext_eq, Option.map_eq_some_iff] at h
  obtain ⟨tenant, htenant, rfl⟩ := h
  exact ⟨tenant, htenant, rfl⟩

/-- Without routes everything goes to the configured backend. -/
theorem resolved_contextFor {st : AppState} (hroutes : st.upstreams = [])
    (req : Request) (bytes : Bytes) (tenant : Text) :
    (contextFor env cfg st req bytes tenant).resolved = ⟨cfg.backendUrl, none, none, []⟩ := by
  unfold contextFor
  rw [hroutes]
  rfl

theorem svcKey_contextFor {st : AppState} (hroutes : st.upstreams = []) (req : Request)
    (bytes : Bytes) (tenant : Text) :
    (contextFor env cfg st req bytes tenant).svcKey = globalTenant := by
  rw [RequestContext.svcKey, resolved_contextFor env cfg hroutes]
  rfl

/-- The request gets to the branch of a mode, with a context. -/
structure Dispatched (st : AppState) (call : Call) (ctx : RequestContext)
    (mode : Mode) : Prop where
  fits : call.request.body.length ≤ cfg.maxBodyBytes
  context : requestContext env cfg st call.request call.request.body = some ctx
  mode : ctx.resolved.mode.getD st.mode = mode

/-- What becomes of a request before the branches. -/
inductive RequestCase (st : AppState) (call : Call) : Prop
  | tooLarge (h : cfg.maxBodyBytes < call.request.body.length)
  | noTenant (hfits : call.request.body.length ≤ cfg.maxBodyBytes)
      (h : resolveTenant call.request.headers call.request.query = none)
  | dispatched (ctx : RequestContext) (mode : Mode)
      (h : Dispatched env cfg st call ctx mode)

theorem requestCase (st : AppState) (call : Call) : RequestCase env cfg st call := by
  by_cases hfits : call.request.body.length ≤ cfg.maxBodyBytes
  · cases htenant : resolveTenant call.request.headers call.request.query with
    | none => exact .noTenant hfits htenant
    | some tenant =>
        refine .dispatched (contextFor env cfg st call.request call.request.body tenant) _
          ⟨hfits, ?_, rfl⟩
        rw [requestContext_eq, htenant]
        rfl
  · exact .tooLarge (Nat.lt_of_not_le hfits)

section Cases

variable {env cfg} {st : AppState} {call : Call} {ctx : RequestContext}

/-- Without routes a request goes to the branch of the global mode. -/
theorem dispatched_of_unrouted {tenant : Text} {mode : Mode}
    (hfits : call.request.body.length ≤ cfg.maxBodyBytes)
    (htenant : resolveTenant call.request.headers call.request.query = some tenant)
    (hroutes : st.upstreams = []) (hmode : st.mode = mode) :
    Dispatched env cfg st call (contextFor env cfg st call.request call.request.body tenant)
      mode := by
  refine ⟨hfits, ?_, ?_⟩
  · rw [requestContext_eq, htenant]
    rfl
  · rw [resolved_contextFor env cfg hroutes]
    exact hmode

theorem handle_tooLarge (h : cfg.maxBodyBytes < call.request.body.length) :
    handle env cfg st call = (st, .failed StatusCode.internalServerError) := by
  rw [handle, proxyHandler, collectBody, if_neg (Nat.not_le.mpr h)]
  rfl

/-- A request whose tenant cannot be resolved kills its task. -/
theorem handle_noTenant (hfits : call.request.body.length ≤ cfg.maxBodyBytes)
    (h : resolveTenant call.request.headers call.request.query = none) :
    handle env cfg st call = (st, .panicked) := by
  rw [handle, proxyHandler, collectBody, if_pos hfits]
  dsimp only
  rw [requestContext_eq, h]
  rfl

theorem proxyHandler_tooLarge (h : cfg.maxBodyBytes < call.request.body.length) :
    proxyHandler env cfg st call = (st, .failed StatusCode.internalServerError, []) := by
  rw [proxyHandler, collectBody, if_neg (Nat.not_le.mpr h)]

theorem proxyHandler_noTenant (hfits : call.request.body.length ≤ cfg.maxBodyBytes)
    (h : resolveTenant call.request.headers call.request.query = none) :
    proxyHandler env cfg st call = (st, .panicked, []) := by
  rw [proxyHandler, collectBody, if_pos hfits]
  dsimp only
  rw [requestContext_eq, h, Option.map_none]

theorem Dispatched.library {mode : Mode} (h : Dispatched env cfg st call ctx mode) :
    ctx.library = st.mocks := by
  obtain ⟨tenant, -, rfl⟩ := requestContext_some h.context
  rfl

theorem Dispatched.tenant {mode : Mode} (h : Dispatched env cfg st call ctx mode) :
    resolveTenant call.request.headers call.request.query = some ctx.tenant := by
  obtain ⟨tenant, htenant, rfl⟩ := requestContext_some h.context
  exact htenant

theorem Dispatched.proxyHandler {mode : Mode} (h : Dispatched env cfg st call ctx mode) :
    proxyHandler env cfg st call = dispatch env cfg call ctx st := by
  rw [GostlyProxy.proxyHandler, collectBody, if_pos h.fits]
  simp only [h.context]

/-- A request in MOCK mode is its MOCK branch: nothing is spawned. -/
theorem handle_mock (h : Dispatched env cfg st call ctx .mock) :
    handle env cfg st call = mockBranch env cfg call ctx st := by
  rw [handle, h.proxyHandler, dispatch, h.mode]
  rfl

/-- A request in LEARN mode that the upstream answers. -/
theorem handle_learn {res : UpstreamResponse} (h : Dispatched env cfg st call ctx .learn)
    (hres : call.upstream (forwarded call ctx) = some res) :
    handle env cfg st call
      = (settle call.systemTime (learnState ctx (learnEntry env cfg call ctx res) st)
            (learnCapture env call ctx res),
          .served .learn
            { delayMs := 0
              response := buildResponse env call.order res.status.1
                (collectHeaders res.headers) res.body }) := by
  rw [handle, h.proxyHandler, dispatch, h.mode]
  dsimp only
  unfold learnBranch
  rw [hres]
  dsimp only
  rw [settle_learnSpawned]

/-- A request in LEARN mode that the upstream does not answer. -/
theorem handle_noUpstream (h : Dispatched env cfg st call ctx .learn)
    (hres : call.upstream (forwarded call ctx) = none) :
    handle env cfg st call = (st, .failed StatusCode.badGateway) := by
  rw [handle, h.proxyHandler, dispatch, h.mode]
  dsimp only
  unfold learnBranch
  rw [hres]
  rfl

theorem handle_transitioning (h : Dispatched env cfg st call ctx .transitioning) :
    handle env cfg st call = (st, transitioningAnswer) := by
  rw [handle, h.proxyHandler, dispatch, h.mode]
  rfl

theorem handle_passthrough (h : Dispatched env cfg st call ctx .passthrough) :
    handle env cfg st call = (st, passthroughAnswer env call ctx) := by
  rw [handle, h.proxyHandler, dispatch, h.mode]
  rfl

end Cases

/-- What a request publishes: the service key and the entry of a LEARN
round trip. -/
def published (st : AppState) (call : Call) : Option (Text × MockEntry) :=
  (collectBody cfg call.request.body).bind fun bytes =>
  (requestContext env cfg st call.request bytes).bind fun ctx =>
  if ctx.resolved.mode.getD st.mode = .learn then
    (call.upstream (forwarded call ctx)).map fun res =>
      (ctx.svcKey, learnEntry env cfg call ctx res)
  else none

theorem Dispatched.published {st : AppState} {call : Call} {ctx : RequestContext}
    {mode : Mode} (h : Dispatched env cfg st call ctx mode) :
    published env cfg st call
      = if mode = .learn then
          (call.upstream (forwarded call ctx)).map fun res =>
            (ctx.svcKey, learnEntry env cfg call ctx res)
        else none := by
  rw [GostlyProxy.published, collectBody, if_pos h.fits, Option.bind_some, h.context,
    Option.bind_some, h.mode]

/-- The library changes by what the request publishes, and by nothing else. -/
theorem handle_mocks (st : AppState) (call : Call) :
    (handle env cfg st call).1.mocks
      = match published env cfg st call with
        | some (svcId, entry) => st.mocks.publish svcId entry
        | none => st.mocks := by
  cases requestCase env cfg st call with
  | tooLarge h =>
      rw [handle_tooLarge h, published, collectBody, if_neg (Nat.not_le.mpr h)]
      rfl
  | noTenant hfits h =>
      rw [handle_noTenant hfits h, published, collectBody, if_pos hfits, Option.bind_some,
        requestContext_eq, h]
      rfl
  | dispatched ctx mode h =>
      rw [h.published]
      cases mode with
      | learn =>
          rw [if_pos rfl]
          cases hres : call.upstream (forwarded call ctx) with
          | none => rw [handle_noUpstream h hres, Option.map_none]
          | some res =>
              rw [handle_learn h hres, Option.map_some]
              exact (mockFrame_settle _ _ _).mocks
      | mock =>
          rw [handle_mock h]
          exact (mockFrame_mockBranch env cfg call ctx st).mocks
      | passthrough => rw [handle_passthrough h]; rfl
      | transitioning => rw [handle_transitioning h]; rfl

variable {env cfg} in
/-- What is published is published under the tenant of the request. -/
theorem tenant_published {st : AppState} {call : Call} {p : Text × MockEntry}
    (h : published env cfg st call = some p) :
    some p.2.tenant = resolveTenant call.request.headers call.request.query := by
  rw [published, Option.bind_eq_some_iff] at h
  obtain ⟨bytes, -, h⟩ := h
  rw [Option.bind_eq_some_iff] at h
  obtain ⟨ctx, hctx, h⟩ := h
  obtain ⟨tenant, htenant, rfl⟩ := requestContext_some hctx
  rw [htenant]
  by_cases hlearn : (contextFor env cfg st call.request bytes tenant).resolved.mode.getD
      st.mode = .learn
  · rw [if_pos hlearn, Option.map_eq_some_iff] at h
    obtain ⟨res, -, rfl⟩ := h
    rfl
  · rw [if_neg hlearn] at h
    cases h

/-- No request changes the setup. -/
theorem sameSetup_handle (st : AppState) (call : Call) :
    SameSetup st (handle env cfg st call).1 := by
  cases requestCase env cfg st call with
  | tooLarge h => rw [handle_tooLarge h]; exact SameSetup.refl st
  | noTenant hfits h => rw [handle_noTenant hfits h]; exact SameSetup.refl st
  | dispatched ctx mode h =>
      cases mode with
      | learn =>
          cases hres : call.upstream (forwarded call ctx) with
          | none => rw [handle_noUpstream h hres]; exact SameSetup.refl st
          | some res =>
              rw [handle_learn h hres]
              exact (sameSetup_learnState ctx _ st).trans
                (mockFrame_settle _ _ _).toSameSetup
      | mock =>
          rw [handle_mock h]
          exact (mockFrame_mockBranch env cfg call ctx st).toSameSetup
      | passthrough => rw [handle_passthrough h]; exact SameSetup.refl st
      | transitioning => rw [handle_transitioning h]; exact SameSetup.refl st

end Handler

end GostlyProxy
