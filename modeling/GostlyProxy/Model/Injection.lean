/-
Chaos in the request path (`proxy_handler` in `main.rs`).

Between routing and the branches stands a gate. It looks at the chaos
configuration of the route, steps the Markov state of the service, holds
the request back for a while and may answer it with an error of its own;
what it lets through goes to the branches of `Handler.lean`.

# What is drawn

`Draws` has the clock readings and random numbers of one request, all that
the gate reads from outside. `fl` is the rounding of `MarkovChaos.lean`.

# Left out

The preset's name and the scrubbed path, which the source computes for an
event log that does not exist, and metrics and log lines.
-/
import GostlyProxy.Model.Admin
import GostlyProxy.Model.MarkovChaos
import GostlyProxy.Proofs.Handler

namespace GostlyProxy

open Lib

-- ============================================================= the state

/-- A route with its chaos configuration. -/
structure ChaosRoute where
  route : UpstreamRoute
  chaosConfig : Option ChaosConfig

/-- `resolve_upstream`, with the chaos configuration it finds. -/
def resolveWithChaos (upstreams : List ChaosRoute) (host path defaultUrl : Text) :
    Resolved × Option ChaosConfig :=
  match upstreams.find? fun up => up.route.isMatch host path with
  | some up => (⟨up.route.upstreamUrl, some up.route.serviceId, up.route.mode,
      up.route.redactHeaders⟩, up.chaosConfig)
  | none => (⟨defaultUrl, none, none, []⟩, none)

/-- The whole state of the proxy. `app` has the routes without their chaos
configuration. -/
structure ProxyState where
  app : AppState
  upstreams : List ChaosRoute
  markovState : HashMap Text MarkovState
  upstreams_app : app.upstreams = upstreams.map ChaosRoute.route

/-- The draws and clock readings of one request. -/
structure Draws where
  /-- `Utc::now` of a new Markov state, and of the step. -/
  created : Nat
  now : Nat
  factor : ℚ
  jitterU : ℚ
  jitterV : ℚ
  /-- Drawn against the error rate, and for the choice of the error. -/
  errorDraw : ℚ
  pickDraw : ℚ

structure ChaosCall where
  call : Call
  draws : Draws

-- ====================================================== the configuration

def modeStr : Mode → Text
  | .mock => "MOCK"
  | .passthrough => "PASSTHROUGH"
  | _ => []

def ChaosConfig.applies (cc : ChaosConfig) (mode : Mode) : Bool :=
  cc.modes.isEmpty || cc.modes.any fun m => m = modeStr mode

/-- The configuration in force: that of the first endpoint rule that covers
the path, or the service's own. Only the service's own `enabled` counts. -/
def activeConfig (mode : Mode) (chaosConfig : Option ChaosConfig) (pathQuery : Text) :
    Option ChaosConfig :=
  match mode with
  | .mock | .passthrough =>
      match chaosConfig with
      | none => none
      | some svcCc =>
          if svcCc.enabled then
            let cc := (findEndpointRule svcCc.endpointRules pathQuery).getD svcCc
            if cc.applies mode then some cc else none
          else none
  | _ => none

-- ============================================================== the error

def xGhostChaos : HeaderName := ⟨"x-ghost-chaos", by decide⟩

/-- One `header` call of the builder; a name or value it refuses spoils
it. -/
def builderHeader (builder : Option HeaderMap) (header : HashMap.Entry Text Text) :
    Option HeaderMap :=
  builder.bind fun hs =>
    (HeaderName.fromBytes header.1).bind fun name =>
      (HeaderValue.fromStr header.2).map fun val => hs.append name val

/-- The two headers every injected response starts with. -/
def chaosHeaders : HeaderMap := [(contentTypeHeader, valueJson), (xGhostChaos, valueTrue)]

def errorResponse (order : RandomState) (drawn : DrawnError) : Response :=
  match (order.iter drawn.headers).foldl builderHeader (some chaosHeaders) with
  | some hs =>
      { status := (StatusCode.fromU16 drawn.status).getD StatusCode.internalServerError
        headers := hs
        body := Text.utf8 drawn.body }
  | none =>
      { status := StatusCode.internalServerError, headers := chaosHeaders, body := [] }

-- =============================================================== the gate

/-- `as u64`: towards zero, and saturating. -/
def asU64 (x : ℚ) : UInt64 := UInt64.ofNat (min ⌊x⌋.toNat (2 ^ 64 - 1))

/-- What the gate does with a request. -/
inductive Verdict where
  /-- Hold it back and let it through. -/
  | pass (delayMs : UInt64)
  /-- Hold it back and answer it. -/
  | error (delayMs : UInt64) (response : Response)
  /-- The request's task died. -/
  | panic

/-- Was the request kept from the branches? -/
def Verdict.withholds : Verdict → Bool
  | .pass _ => false
  | _ => true

section Gate

variable (fl : ℚ → ℚ) (order : RandomState) (draws : Draws)

/-- The step of the service's Markov state: the states after it and the
kind, `none` when the step panics. -/
def markovStep (mc : MarkovConfig) (svcId : Text) (markov : HashMap Text MarkovState) :
    HashMap Text MarkovState × Option StateKind :=
  let st := (markov.lookup svcId).getD (MarkovState.new draws.created)
  let out := stepWithRng fl mc st draws.now draws.factor
  (markov.insert svcId out.1, out.2.map (·.1))

/-- The error rate and the latency factor of a kind. -/
def kindEffect (mc : MarkovConfig) : StateKind → ℚ × ℚ
  | .healthy => (0, 1)
  | .degraded => (mc.degradedErrorRate, mc.degradedLatencyMult)

/-- The error rate and the latency factor of the chosen model. -/
def chaosEffect (cc : ChaosConfig) (svcId : Text) (markov : HashMap Text MarkovState) :
    HashMap Text MarkovState × Option (ℚ × ℚ) :=
  match cc.chaosModel with
  | .markov =>
      let mc := cc.markov.getD default
      let out := markovStep fl draws mc svcId markov
      (out.1, out.2.map (kindEffect mc))
  | .uniform => (markov, some (cc.errorRate, 1))

def chaosLatency (cc : ChaosConfig) (mult : ℚ) : UInt64 :=
  asU64 (fl (fl (computeLatencyMs draws.jitterU draws.jitterV cc).toNat * mult))

/-- The error of a request, if one is drawn. -/
def chaosError (cc : ChaosConfig) (rate : ℚ) : Option DrawnError :=
  if 0 < rate ∧ draws.errorDraw < rate then drawError draws.pickDraw cc else none

/-- The verdict once the rate and the factor are known. -/
def injected (cc : ChaosConfig) (effect : ℚ × ℚ) : Verdict :=
  match chaosError draws cc effect.1 with
  | some drawn => .error (chaosLatency fl draws cc effect.2) (errorResponse order drawn)
  | none => .pass (chaosLatency fl draws cc effect.2)

def chaosGate (active : Option ChaosConfig) (svcId : Text)
    (markov : HashMap Text MarkovState) : HashMap Text MarkovState × Verdict :=
  match active with
  | none => (markov, .pass 0)
  | some cc =>
      match chaosEffect fl draws cc svcId markov with
      | (markov', some effect) => (markov', injected fl order draws cc effect)
      | (markov', none) => (markov', .panic)

end Gate

-- ============================================================ the handler

/-- What the client of a proxy with chaos gets. -/
inductive ProxyAnswer where
  | injected (response : Response)
  | panicked
  | handled (answer : Answer)

section Handler

variable (fl : ℚ → ℚ) (env : Externals) (cfg : Config)

/-- The routes of a request are those of its context. -/
def chaosConfigFor (st : ProxyState) (req : Request) : Option ChaosConfig :=
  (resolveWithChaos st.upstreams (headerStr req.headers "host") (lookupUri req)
    cfg.backendUrl).2

/-- The gate, as far as a request gets to it. -/
def requestGate (st : ProxyState) (c : ChaosCall) : HashMap Text MarkovState × Verdict :=
  match collectBody cfg c.call.request.body with
  | none => (st.markovState, .pass 0)
  | some bytes =>
      match requestContext env cfg st.app c.call.request bytes with
      | none => (st.markovState, .pass 0)
      | some ctx =>
          chaosGate fl c.call.order c.draws
            (activeConfig (ctx.resolved.mode.getD st.app.mode)
              (chaosConfigFor cfg st c.call.request) ctx.pathQuery)
            (ctx.resolved.serviceId.getD []) st.markovState

/-- One request: the state after it, how long the gate held it back, the
answer, and the tasks it left running, which have ended in that state. -/
def proxyRequest (st : ProxyState) (c : ChaosCall) :
    ProxyState × UInt64 × ProxyAnswer × List Spawned :=
  match requestGate fl env cfg st c with
  | (markov, .panic) => ({ st with markovState := markov }, 0, .panicked, [])
  | (markov, .error delayMs response) =>
      ({ st with markovState := markov }, delayMs, .injected response, [])
  | (markov, .pass delayMs) =>
      ({ app := (handle env cfg st.app c.call).1
         upstreams := st.upstreams
         markovState := markov
         upstreams_app :=
           (sameSetup_handle env cfg st.app c.call).upstreams.trans st.upstreams_app },
        delayMs, .handled (handle env cfg st.app c.call).2,
        (proxyHandler env cfg st.app c.call).2.2)

end Handler

-- =========================================================== whole system

/-- What happens to a proxy without chaos: a request, or a call of an admin
route. -/
inductive PlainAction where
  | request (call : Call)
  | createMock (entry : MockEntry)
  | admin (call : AdminCall)

/-- What comes of an action: the answer of a request, and the tasks left
running. -/
structure PlainOutput where
  answer : Option Answer
  spawned : List Spawned

def plainStep (env : Externals) (cfg : Config) (st : AppState) :
    PlainAction → AppState × PlainOutput
  | .request call => ((handle env cfg st call).1,
      ⟨some (handle env cfg st call).2, (proxyHandler env cfg st call).2.2⟩)
  | .createMock entry => ((handleCreateMock st entry).1, ⟨none, (handleCreateMock st entry).2.2⟩)
  | .admin call => ((handleAdmin st call).1, ⟨none, []⟩)

/-- What happens to a proxy with chaos. -/
inductive ProxyAction where
  | request (c : ChaosCall)
  | createMock (entry : MockEntry)
  | setMode (mode : Mode)
  | setConfig (unmatchedStatus : Option UInt16) (unmatchedBody : Option Text)
  | setUpstreams (upstreams : List ChaosRoute)
  | createSequence (seq : MockSequence)
  | resetSequence (id : Text)
  | deleteSequence (id : Text)

/-- The action without the draws and the chaos configurations. -/
def ProxyAction.plain : ProxyAction → PlainAction
  | .request c => .request c.call
  | .createMock entry => .createMock entry
  | .setMode mode => .admin (.setMode mode)
  | .setConfig status body => .admin (.setConfig status body)
  | .setUpstreams upstreams => .admin (.setUpstreams (upstreams.map ChaosRoute.route))
  | .createSequence seq => .admin (.createSequence seq)
  | .resetSequence id => .admin (.resetSequence id)
  | .deleteSequence id => .admin (.deleteSequence id)

/-- What comes of an action: how long the gate held a request back and its
answer, and the tasks left running. -/
structure ProxyOutput where
  answer : Option (UInt64 × ProxyAnswer)
  spawned : List Spawned

/-- An admin call, which leaves the routes alone. -/
def ProxyState.withApp (st : ProxyState) (app : AppState)
    (h : app.upstreams = st.app.upstreams) : ProxyState :=
  { st with app := app, upstreams_app := h.trans st.upstreams_app }

def proxyStep (fl : ℚ → ℚ) (env : Externals) (cfg : Config) (st : ProxyState) :
    ProxyAction → ProxyState × ProxyOutput
  | .request c =>
      let (st', delayMs, answer, spawned) := proxyRequest fl env cfg st c
      (st', ⟨some (delayMs, answer), spawned⟩)
  | .createMock entry =>
      (st.withApp (handleCreateMock st.app entry).1 rfl,
        ⟨none, (handleCreateMock st.app entry).2.2⟩)
  | .setMode mode => (st.withApp (handleSetMode st.app mode).1 rfl, ⟨none, []⟩)
  | .setConfig status body =>
      (st.withApp (handleSetConfig st.app status body).1 rfl, ⟨none, []⟩)
  | .setUpstreams upstreams =>
      ({ app := (handleSetUpstreams st.app (upstreams.map ChaosRoute.route)).1
         upstreams := upstreams
         markovState := st.markovState
         upstreams_app := rfl }, ⟨none, []⟩)
  | .createSequence seq => (st.withApp (handleCreateSequence st.app seq).1 rfl, ⟨none, []⟩)
  | .resetSequence id => (st.withApp (handleResetSequence st.app id).1 rfl, ⟨none, []⟩)
  | .deleteSequence id => (st.withApp (handleDeleteSequence st.app id).1 rfl, ⟨none, []⟩)

end GostlyProxy
