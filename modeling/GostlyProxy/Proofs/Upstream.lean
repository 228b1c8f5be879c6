/-
What a proxy and the upstreams see of each other.

Of the upstream a request reads the answer to one message, `contacted`, and
MOCK and TRANSITIONING send none. So a proxy that is switched to these modes
is offline in every run: `offline_run` puts any other upstream behind it and
finds the same states and answers.

These runs have no chaos: `plainStep` does not withhold or delay.

Recording is invisible to the one recorded: `learn_is_transparent` replaces
LEARN by PASSTHROUGH, in the mode, the routes and every later admin call,
and finds each live request answered as before, byte for byte. Here chaos is
on, and it is for PASSTHROUGH but not for LEARN; so the requests compared
are those whose route has no chaos in force for PASSTHROUGH.
-/
import GostlyProxy.Proofs.Outages

namespace GostlyProxy

open Lib Machine

-- =========================================================== what is sent

section Contact

variable (env : Externals) (cfg : Config)

/-- The mode is one that talks to the upstream. -/
def Mode.isLive : Mode → Bool
  | .learn | .passthrough => true
  | .mock | .transitioning => false

/-- The message a request sends upstream. -/
def contacted (st : AppState) (call : Call) : Option ForwardedRequest :=
  (collectBody cfg call.request.body).bind fun bytes =>
    (requestContext env cfg st call.request bytes).bind fun ctx =>
      if (ctx.resolved.mode.getD st.mode).isLive then some (forwarded call ctx) else none

/-- The same request before another upstream. -/
def Call.withUpstream (call : Call) (upstream : ForwardedRequest → Option UpstreamResponse) :
    Call := { call with upstream := upstream }

variable {env cfg} {st : AppState} {call : Call} {ctx : RequestContext} {mode : Mode}

theorem Dispatched.contacted (h : Dispatched env cfg st call ctx mode) :
    contacted env cfg st call = if mode.isLive then some (forwarded call ctx) else none := by
  rw [GostlyProxy.contacted, collectBody, if_pos h.fits, Option.bind_some, h.context,
    Option.bind_some, h.mode]

theorem Dispatched.withUpstream (h : Dispatched env cfg st call ctx mode)
    (upstream : ForwardedRequest → Option UpstreamResponse) :
    Dispatched env cfg st (call.withUpstream upstream) ctx mode := ⟨h.fits, h.context, h.mode⟩

/-- A request reads of the upstream what it answers to that message. -/
theorem proxyHandler_withUpstream {upstream : ForwardedRequest → Option UpstreamResponse}
    (h : ∀ message, contacted env cfg st call = some message →
      upstream message = call.upstream message) :
    proxyHandler env cfg st (call.withUpstream upstream) = proxyHandler env cfg st call := by
  cases requestCase env cfg st call with
  | tooLarge hlarge =>
      rw [proxyHandler_tooLarge hlarge]
      exact proxyHandler_tooLarge hlarge
  | noTenant hfits hnone =>
      rw [proxyHandler_noTenant hfits hnone]
      exact proxyHandler_noTenant hfits hnone
  | dispatched ctx mode hdisp =>
      rw [hdisp.proxyHandler, (hdisp.withUpstream upstream).proxyHandler, dispatch, dispatch,
        hdisp.mode]
      rw [hdisp.contacted] at h
      have hforward : forwarded (call.withUpstream upstream) ctx = forwarded call ctx := rfl
      cases mode with
      | mock => rfl
      | transitioning => rfl
      | learn =>
          have hsame := h _ rfl
          dsimp only
          unfold learnBranch
          rw [hforward]
          rw [show (call.withUpstream upstream).upstream (forwarded call ctx)
            = call.upstream (forwarded call ctx) from hsame]
          rfl
      | passthrough =>
          have hsame := h _ rfl
          dsimp only
          unfold passthroughAnswer
          rw [hforward]
          rw [show (call.withUpstream upstream).upstream (forwarded call ctx)
            = call.upstream (forwarded call ctx) from hsame]
          rfl

theorem handle_withUpstream {upstream : ForwardedRequest → Option UpstreamResponse}
    (h : ∀ message, contacted env cfg st call = some message →
      upstream message = call.upstream message) :
    handle env cfg st (call.withUpstream upstream) = handle env cfg st call := by
  unfold handle
  rw [proxyHandler_withUpstream h]
  rfl

end Contact

-- ================================================================ offline

section Offline

variable (env : Externals) (cfg : Config)

/-- Neither the mode nor a route's own mode talks to the upstream. -/
structure Offline (st : AppState) : Prop where
  mode : st.mode.isLive = false
  upstreams : ∀ up ∈ st.upstreams, ∀ mode ∈ up.mode, mode.isLive = false

/-- The admin calls that leave a proxy offline. -/
def PlainAction.StaysOffline : PlainAction → Prop
  | .admin (.setMode mode) => mode.isLive = false
  | .admin (.setUpstreams upstreams) =>
      ∀ up ∈ upstreams, ∀ mode ∈ up.mode, mode.isLive = false
  | _ => True

/-- The same action before other upstreams. -/
def PlainAction.withUpstream (upstream : Call → ForwardedRequest → Option UpstreamResponse) :
    PlainAction → PlainAction
  | .request call => .request (call.withUpstream (upstream call))
  | action => action

variable {env cfg} {st : AppState}

/-- The mode of a routed request is a route's or the global one. -/
theorem Offline.resolved (h : Offline st) (host path defaultUrl : Text) :
    ((resolveUpstream st.upstreams host path defaultUrl).mode.getD st.mode).isLive = false := by
  unfold resolveUpstream
  cases hfind : st.upstreams.find? fun up => up.isMatch host path with
  | none => exact h.mode
  | some up =>
      show (up.mode.getD st.mode).isLive = false
      cases hmode : up.mode with
      | none => exact h.mode
      | some mode => exact h.upstreams up (List.mem_of_find?_eq_some hfind) mode hmode

/-- An offline proxy sends nothing. -/
theorem Offline.contacted (h : Offline st) (call : Call) :
    contacted env cfg st call = none := by
  cases hcontact : GostlyProxy.contacted env cfg st call with
  | none => rfl
  | some message =>
      rw [GostlyProxy.contacted, Option.bind_eq_some_iff] at hcontact
      obtain ⟨bytes, -, hcontact⟩ := hcontact
      rw [Option.bind_eq_some_iff] at hcontact
      obtain ⟨ctx, hctx, hcontact⟩ := hcontact
      obtain ⟨tenant, -, rfl⟩ := requestContext_some hctx
      rw [if_neg] at hcontact
      · cases hcontact
      · rw [Bool.not_eq_true]
        exact h.resolved _ _ _

theorem Offline.step (h : Offline st) {action : PlainAction} (hstays : action.StaysOffline) :
    Offline (plainStep env cfg st action).1 := by
  cases action with
  | request call =>
      have hsame := sameSetup_handle env cfg st call
      refine ⟨?_, ?_⟩
      · show (handle env cfg st call).1.mode.isLive = false
        rw [hsame.mode]
        exact h.mode
      · show ∀ up ∈ (handle env cfg st call).1.upstreams, _
        rw [hsame.upstreams]
        exact h.upstreams
  | createMock entry => exact ⟨h.mode, h.upstreams⟩
  | admin call =>
      cases call with
      | setMode mode => exact ⟨hstays, h.upstreams⟩
      | setUpstreams upstreams => exact ⟨h.mode, hstays⟩
      | setConfig status body => exact ⟨h.mode, h.upstreams⟩
      | createSequence seq => exact ⟨h.mode, h.upstreams⟩
      | resetSequence id => exact ⟨h.mode, h.upstreams⟩
      | deleteSequence id => exact ⟨h.mode, h.upstreams⟩

/-- One action of an offline proxy, before any upstream. -/
theorem Offline.plainStep (h : Offline st)
    (upstream : Call → ForwardedRequest → Option UpstreamResponse) (action : PlainAction) :
    plainStep env cfg st (action.withUpstream upstream) = plainStep env cfg st action := by
  cases action with
  | request call =>
      have hnone : ∀ message, GostlyProxy.contacted env cfg st call = some message →
          upstream call message = call.upstream message := by
        intro message hmessage
        rw [h.contacted] at hmessage
        cases hmessage
      unfold PlainAction.withUpstream GostlyProxy.plainStep
      dsimp only
      rw [handle_withUpstream hnone, proxyHandler_withUpstream hnone]
  | createMock entry => rfl
  | admin call => rfl

variable (env cfg) in
/-- A proxy that is offline, and is kept so, does not notice what upstream
it stands before: every run ends in the same state with the same answers
and tasks. -/
theorem offline_run {st : AppState} (h : Offline st) {actions : List PlainAction}
    (hstays : ∀ action ∈ actions, action.StaysOffline)
    (upstream : Call → ForwardedRequest → Option UpstreamResponse) :
    run (fun st a => (plainStep env cfg st a).1) st
          (actions.map (PlainAction.withUpstream upstream))
        = run (fun st a => (plainStep env cfg st a).1) st actions
      ∧ outputs (plainStep env cfg) (fun _ => true) st
          (actions.map (PlainAction.withUpstream upstream))
        = outputs (plainStep env cfg) (fun _ => true) st actions := by
  induction actions generalizing st with
  | nil => exact ⟨rfl, rfl⟩
  | cons action actions ih =>
      rw [List.forall_mem_cons] at hstays
      obtain ⟨hrun, houts⟩ := ih (h.step hstays.1) hstays.2
      constructor
      · show run _ (GostlyProxy.plainStep env cfg st (action.withUpstream upstream)).1 _
          = run _ (GostlyProxy.plainStep env cfg st action).1 _
        rw [h.plainStep]
        exact hrun
      · simp only [List.map_cons, outputs, if_true, h.plainStep, houts]

end Offline

/-- A route that is replayed whatever the mode of the proxy. -/
def replayedRoute : UpstreamRoute where
  routingType := "path"
  routingValue := "/charges"
  upstreamUrl := "http://billing"
  serviceId := "billing"
  mode := some .mock
  redactHeaders := []

/-- A replayed route, a switch to TRANSITIONING between two requests, one of
them of the route: another upstream is not noticed. -/
theorem offline_run_replayedRoute :
    let st : AppState := { emptyProxy with upstreams := [replayedRoute] }
    let actions : List PlainAction :=
      [.request (.plain default ⟨"GET", some "/charges", [], []⟩ none),
        .admin (.setMode .transitioning),
        .request (.plain default ⟨"GET", some "/orders", [], []⟩ none)]
    let replaced := actions.map (PlainAction.withUpstream fun _ _ => some ⟨StatusCode.ok, [], []⟩)
    run (fun st a => (plainStep default Config.new st a).1) st replaced
        = run (fun st a => (plainStep default Config.new st a).1) st actions
      ∧ outputs (plainStep default Config.new) (fun _ => true) st replaced
        = outputs (plainStep default Config.new) (fun _ => true) st actions := by
  intro st actions replaced
  have hroutes : ∀ up ∈ [replayedRoute], ∀ mode ∈ up.mode, mode.isLive = false := by decide
  refine offline_run default Config.new ⟨rfl, hroutes⟩ ?_ _
  intro action haction
  simp only [actions, List.mem_cons, List.not_mem_nil, or_false] at haction
  rcases haction with rfl | rfl | rfl
  · trivial
  · exact rfl
  · trivial

-- ============================================================ transparency

section Transparent

variable (fl : ℚ → ℚ) (env : Externals) (cfg : Config)

/-- PASSTHROUGH in the place of LEARN. -/
def Mode.unrecorded : Mode → Mode
  | .learn => .passthrough
  | mode => mode

def UpstreamRoute.unrecorded (up : UpstreamRoute) : UpstreamRoute :=
  { up with mode := up.mode.map Mode.unrecorded }

def ChaosRoute.unrecorded (up : ChaosRoute) : ChaosRoute :=
  { up with route := up.route.unrecorded }

def ProxyState.unrecorded (st : ProxyState) : ProxyState where
  app := { st.app with
    mode := st.app.mode.unrecorded
    upstreams := st.app.upstreams.map UpstreamRoute.unrecorded }
  upstreams := st.upstreams.map ChaosRoute.unrecorded
  markovState := st.markovState
  upstreams_app := by
    rw [st.upstreams_app, List.map_map, List.map_map]
    rfl

def ProxyAction.unrecorded : ProxyAction → ProxyAction
  | .setMode mode => .setMode mode.unrecorded
  | .setUpstreams upstreams => .setUpstreams (upstreams.map ChaosRoute.unrecorded)
  | action => action

/-- What the client sees of an answer, without its label. -/
def Answer.wire : Answer → Served ⊕ Option StatusCode
  | .served _ s => .inl s
  | .failed status => .inr (some status)
  | .panicked => .inr none

/-- What the client sees of the proxy's answer, an injected one included. -/
def ProxyAnswer.wire : ProxyAnswer → Served ⊕ Option StatusCode
  | .injected response => .inl ⟨0, response⟩
  | .panicked => .inr none
  | .handled answer => answer.wire

/-- The proxy, seen by its clients: how long a request was held back, and
what came. -/
def wireStep (st : ProxyState) (a : ProxyAction) :
    ProxyState × Option (UInt64 × (Served ⊕ Option StatusCode)) :=
  ((proxyStep fl env cfg st a).1,
    (proxyStep fl env cfg st a).2.answer.map fun (delayMs, answer) => (delayMs, answer.wire))

/-- What routing makes of a request. -/
def routedPlain (st : AppState) (req : Request) : Resolved :=
  resolveUpstream st.upstreams (headerStr req.headers "host") (lookupUri req) cfg.backendUrl

/-- The request is for an upstream, on a route that has no chaos in force
for PASSTHROUGH. -/
def isSparedLive (st : ProxyState) : ProxyAction → Bool
  | .request c =>
      ((routed cfg st c).1.mode.getD st.app.mode).isLive
        && (activeConfig .passthrough (routed cfg st c).2 (lookupUri c.call.request)).isNone
  | _ => false

/-- The second proxy is the first with its recording switched off; what they
have stored is not compared. -/
structure Unrecorded (st t : AppState) : Prop where
  mode : t.mode = st.mode.unrecorded
  upstreams : t.upstreams = st.upstreams.map UpstreamRoute.unrecorded

/-- And so with chaos, which is configured alike. -/
structure UnrecordedProxy (st t : ProxyState) : Prop where
  mode : t.app.mode = st.app.mode.unrecorded
  upstreams : t.upstreams = st.upstreams.map ChaosRoute.unrecorded

variable {fl env cfg} {st t : AppState} {call : Call}

theorem isLive_unrecorded (mode : Mode) : mode.unrecorded.isLive = mode.isLive := by
  cases mode <;> rfl

theorem Unrecorded.routed (h : Unrecorded st t) (req : Request) :
    routedPlain cfg t req
      = { routedPlain cfg st req with
          mode := (routedPlain cfg st req).mode.map Mode.unrecorded } := by
  have hmatch : (fun up : UpstreamRoute => up.isMatch (headerStr req.headers "host")
        (lookupUri req)) ∘ UpstreamRoute.unrecorded
      = fun up => up.isMatch (headerStr req.headers "host") (lookupUri req) := rfl
  unfold routedPlain resolveUpstream
  rw [h.upstreams, List.find?_map, hmatch]
  cases st.upstreams.find? fun up => up.isMatch (headerStr req.headers "host")
      (lookupUri req) with
  | none => rfl
  | some up => rfl

theorem Unrecorded.effective (h : Unrecorded st t) (req : Request) :
    (routedPlain cfg t req).mode.getD t.mode
      = ((routedPlain cfg st req).mode.getD st.mode).unrecorded := by
  rw [h.routed, h.mode]
  cases (routedPlain cfg st req).mode <;> rfl

/-- A live request is answered by what the upstream says of the message
both send. -/
theorem wire_of_live {ctx : RequestContext} {mode : Mode}
    (h : Dispatched env cfg st call ctx mode) (hlive : mode.isLive = true) :
    (handle env cfg st call).2.wire
      = match call.upstream (forwarded call ctx) with
        | none => .inr (some StatusCode.badGateway)
        | some res => .inl
            { delayMs := 0
              response := buildResponse env call.order res.status.1
                (collectHeaders res.headers) res.body } := by
  cases mode with
  | mock => cases hlive
  | transitioning => cases hlive
  | learn =>
      cases hres : call.upstream (forwarded call ctx) with
      | none => rw [handle_noUpstream h hres]; rfl
      | some res => rw [handle_learn h hres]; rfl
  | passthrough =>
      rw [handle_passthrough h]
      dsimp only
      unfold passthroughAnswer
      cases hres : call.upstream (forwarded call ctx) with
      | none => rfl
      | some res => rfl

/-- A live request is answered alike with recording and without. -/
theorem Unrecorded.wire (h : Unrecorded st t)
    (hlive : ((routedPlain cfg st call.request).mode.getD st.mode).isLive = true) :
    (handle env cfg st call).2.wire = (handle env cfg t call).2.wire := by
  by_cases hfits : call.request.body.length ≤ cfg.maxBodyBytes
  case neg =>
    rw [handle_tooLarge (Nat.lt_of_not_le hfits), handle_tooLarge (Nat.lt_of_not_le hfits)]
  cases htenant : resolveTenant call.request.headers call.request.query with
  | none => rw [handle_noTenant hfits htenant, handle_noTenant hfits htenant]
  | some tenant =>
      have hdisp : ∀ s : AppState, Dispatched env cfg s call
          (contextFor env cfg s call.request call.request.body tenant)
          ((routedPlain cfg s call.request).mode.getD s.mode) :=
        fun s => ⟨hfits, by rw [requestContext_eq, htenant, Option.map_some], rfl⟩
      have hlive' : ((routedPlain cfg t call.request).mode.getD t.mode).isLive = true := by
        rw [h.effective, isLive_unrecorded, hlive]
      have hmessage : forwarded call (contextFor env cfg t call.request call.request.body tenant)
          = forwarded call (contextFor env cfg st call.request call.request.body tenant) := by
        have hup : (routedPlain cfg t call.request).upstream
            = (routedPlain cfg st call.request).upstream := by rw [h.routed]
        show ForwardedRequest.mk _ ((routedPlain cfg t call.request).upstream ++ _) _ _ = _
        rw [hup]
        rfl
      rw [wire_of_live (hdisp st) hlive, wire_of_live (hdisp t) hlive', hmessage]

end Transparent

section TransparentRuns

variable {fl : ℚ → ℚ} {env : Externals} {cfg : Config} {st t : ProxyState} {c : ChaosCall}

theorem UnrecordedProxy.app (h : UnrecordedProxy st t) : Unrecorded st.app t.app where
  mode := h.mode
  upstreams := by
    rw [t.upstreams_app, h.upstreams, st.upstreams_app, List.map_map, List.map_map]
    rfl

theorem routed_fst (st : ProxyState) (c : ChaosCall) :
    (routed cfg st c).1 = routedPlain cfg st.app c.call.request := by
  rw [routed, resolveWithChaos_fst, ← st.upstreams_app]
  rfl

/-- The chaos configuration of a route does not depend on its recording. -/
theorem UnrecordedProxy.routed_snd (h : UnrecordedProxy st t) (c : ChaosCall) :
    (routed cfg t c).2 = (routed cfg st c).2 := by
  have hmatch : (fun up : ChaosRoute => up.route.isMatch
        (headerStr c.call.request.headers "host") (lookupUri c.call.request))
        ∘ ChaosRoute.unrecorded
      = fun up => up.route.isMatch (headerStr c.call.request.headers "host")
        (lookupUri c.call.request) := rfl
  unfold routed resolveWithChaos
  rw [h.upstreams, List.find?_map, hmatch]
  cases st.upstreams.find? fun up => up.route.isMatch
      (headerStr c.call.request.headers "host") (lookupUri c.call.request) with
  | none => rfl
  | some up => rfl

theorem UnrecordedProxy.isSparedLive (h : UnrecordedProxy st t) (action : ProxyAction) :
    isSparedLive cfg t action.unrecorded = isSparedLive cfg st action := by
  cases action with
  | request c =>
      show (((routed cfg t c).1.mode.getD t.app.mode).isLive && (activeConfig .passthrough
        (routed cfg t c).2 _).isNone) = _
      rw [h.routed_snd, routed_fst, h.app.effective, isLive_unrecorded, ← routed_fst]
      rfl
  | createMock | setMode | setConfig | setUpstreams | createSequence | resetSequence
  | deleteSequence => rfl

/-- Such a request passes the gate at once: chaos is not for LEARN. -/
theorem activeFor_of_sparedLive (h : GostlyProxy.isSparedLive cfg st (.request c) = true) :
    activeFor cfg st c = none := by
  rw [GostlyProxy.isSparedLive, Bool.and_eq_true, Option.isNone_iff_eq_none] at h
  unfold activeFor
  cases hmode : (routed cfg st c).1.mode.getD st.app.mode with
  | learn => rfl
  | passthrough => exact h.2
  | mock | transitioning =>
      rw [hmode] at h
      cases h.1

/-- So it is answered at once, and by the branches. -/
theorem wireStep_of_sparedLive (h : GostlyProxy.isSparedLive cfg st (.request c) = true) :
    (wireStep fl env cfg st (.request c)).2
      = some (0, (handle env cfg st.app c.call).2.wire) := by
  have hgate : requestGate fl env cfg st c = (st.markovState, .pass 0) := by
    rw [requestGate_eq, activeFor_of_sparedLive h]
    split <;> rfl
  show some ((proxyRequest fl env cfg st c).2.1, (proxyRequest fl env cfg st c).2.2.1.wire) = _
  unfold proxyRequest
  rw [hgate]
  rfl

theorem UnrecordedProxy.step (h : UnrecordedProxy st t) (action : ProxyAction) :
    UnrecordedProxy (proxyStep fl env cfg st action).1
      (proxyStep fl env cfg t action.unrecorded).1 := by
  cases action with
  | request c =>
      obtain ⟨hmode, hupstreams, -⟩ := setup_proxyRequest fl env cfg st c
      obtain ⟨hmode', hupstreams', -⟩ := setup_proxyRequest fl env cfg t c
      exact ⟨hmode'.trans (h.mode.trans (congrArg _ hmode.symm)),
        hupstreams'.trans (h.upstreams.trans (congrArg _ hupstreams.symm))⟩
  | setMode mode => exact ⟨rfl, h.upstreams⟩
  | setUpstreams upstreams => exact ⟨h.mode, rfl⟩
  | createMock | setConfig | createSequence | resetSequence | deleteSequence =>
      exact ⟨h.mode, h.upstreams⟩

variable (fl env cfg) in
/-- Recording is invisible to the one recorded: from any state, in any run,
each request to an upstream, on a route that has no chaos in force for
PASSTHROUGH, is answered at the same time and with the same bytes as by the
proxy that passes through where this one learns. -/
theorem learn_is_transparent (st : ProxyState) (actions : List ProxyAction) :
    passedOutputs (wireStep fl env cfg) (isSparedLive cfg) st actions
      = passedOutputs (wireStep fl env cfg) (isSparedLive cfg) st.unrecorded
          (actions.map ProxyAction.unrecorded) := by
  have hanswer : ∀ s t a, UnrecordedProxy s t → isSparedLive cfg s a = true →
      (wireStep fl env cfg s a).2 = (wireStep fl env cfg t a.unrecorded).2 := by
    intro s t a h hlive
    cases a with
    | request c =>
        have hlive' : isSparedLive cfg t (.request c) = true :=
          (h.isSparedLive (.request c)).trans hlive
        have hmode : ((routedPlain cfg s.app c.call.request).mode.getD s.app.mode).isLive
            = true := by
          rw [← routed_fst]
          exact (Bool.and_eq_true_iff.mp hlive).1
        show _ = (wireStep fl env cfg t (.request c)).2
        rw [wireStep_of_sparedLive hlive, wireStep_of_sparedLive hlive', h.app.wire hmode]
    | createMock | setMode | setConfig | setUpstreams | createSequence | resetSequence
    | deleteSequence => cases hlive
  exact passedOutputs_simulation (fun s t a h => h.isSparedLive a) hanswer
    (fun s t a h => h.step a) actions ⟨rfl, rfl⟩

end TransparentRuns

end GostlyProxy
