/-
Outages belong to services.

What the gate decides about a request rests on the mode, the routes and the
Markov state of the request's own service (`requestGate_eq`), and it changes
that state alone. So the traffic of one service, however heavy, neither
starts nor ends an outage of another: `outages_isolated` compares a run with
the run from which the requests of all other services are deleted.

Within a dwell nothing changes. `dwell_window` says it of a run whose clocks
read less than the end of the dwell: the kind stays, and in a healthy dwell
no request under the Markov model is failed or slowed down.
-/
import GostlyProxy.Proofs.Injection
import GostlyProxy.Proofs.LibraryRuns

namespace GostlyProxy

open Lib Machine

-- ====================================================== what the gate reads

section Gate

variable (fl : ℚ → ℚ) (env : Externals) (cfg : Config)

/-- What routing makes of a request. -/
def routed (st : ProxyState) (c : ChaosCall) : Resolved × Option ChaosConfig :=
  resolveWithChaos st.upstreams (headerStr c.call.request.headers "host")
    (lookupUri c.call.request) cfg.backendUrl

/-- The configuration in force for a request. -/
def activeFor (st : ProxyState) (c : ChaosCall) : Option ChaosConfig :=
  activeConfig ((routed cfg st c).1.mode.getD st.app.mode) (routed cfg st c).2
    (lookupUri c.call.request)

/-- The request gets to the gate. -/
def ReachesGate (c : ChaosCall) : Prop :=
  c.call.request.body.length ≤ cfg.maxBodyBytes
    ∧ (resolveTenant c.call.request.headers c.call.request.query).isSome

instance (c : ChaosCall) : Decidable (ReachesGate cfg c) :=
  inferInstanceAs (Decidable (_ ∧ _))

/-- All that the gate reads of the state. -/
theorem requestGate_eq (st : ProxyState) (c : ChaosCall) :
    requestGate fl env cfg st c
      = if ReachesGate cfg c then
          chaosGate fl c.call.order c.draws (activeFor cfg st c)
            ((routed cfg st c).1.serviceId.getD []) st.markovState
        else (st.markovState, .pass 0) := by
  by_cases hreach : ReachesGate cfg c
  · rw [if_pos hreach]
    obtain ⟨tenant, htenant⟩ := Option.isSome_iff_exists.mp hreach.2
    unfold requestGate collectBody
    rw [if_pos hreach.1]
    simp only [requestContext_eq, htenant, Option.map_some, contextFor, st.upstreams_app,
      ← resolveWithChaos_fst]
    rfl
  · rw [if_neg hreach]
    by_cases hfits : c.call.request.body.length ≤ cfg.maxBodyBytes
    · apply requestGate_noTenant hfits
      simpa [ReachesGate, hfits] using hreach
    · exact requestGate_tooLarge (Nat.lt_of_not_le hfits)

/-- A request that is not routed has no chaos configuration. -/
theorem activeFor_of_unrouted {st : ProxyState} {c : ChaosCall}
    (h : (routed cfg st c).1.serviceId = none) : activeFor cfg st c = none := by
  have hnone : (routed cfg st c).2 = none := by
    unfold routed resolveWithChaos at h ⊢
    split at h
    · cases h
    · rfl
  unfold activeFor activeConfig
  rw [hnone]
  split <;> rfl

variable {fl} in
/-- The gate reads and writes the Markov state of one service. -/
theorem chaosGate_congr {order : RandomState} {draws : Draws} {active : Option ChaosConfig}
    {svcId : Text} {markov markov' : HashMap Text MarkovState}
    (h : markov.lookup svcId = markov'.lookup svcId) :
    (chaosGate fl order draws active svcId markov).2
        = (chaosGate fl order draws active svcId markov').2
      ∧ (chaosGate fl order draws active svcId markov).1.lookup svcId
        = (chaosGate fl order draws active svcId markov').1.lookup svcId := by
  cases active with
  | none => exact ⟨rfl, h⟩
  | some cc =>
      have heffect : (chaosEffect fl draws cc svcId markov).2
            = (chaosEffect fl draws cc svcId markov').2
          ∧ (chaosEffect fl draws cc svcId markov).1.lookup svcId
            = (chaosEffect fl draws cc svcId markov').1.lookup svcId := by
        unfold chaosEffect
        cases cc.chaosModel with
        | uniform => exact ⟨rfl, h⟩
        | markov =>
            simp only [markovStep, h, Finmap.lookup_insert, and_self]
      unfold chaosGate
      dsimp only
      rcases he : chaosEffect fl draws cc svcId markov with ⟨m, e⟩
      rcases he' : chaosEffect fl draws cc svcId markov' with ⟨m', e'⟩
      rw [he, he'] at heffect
      obtain ⟨rfl, hm⟩ : e = e' ∧ m.lookup svcId = m'.lookup svcId := heffect
      cases e with
      | none => exact ⟨rfl, hm⟩
      | some effect => exact ⟨rfl, hm⟩

variable {fl} in
/-- The other services' states stay as they are. -/
theorem chaosGate_frame {order : RandomState} {draws : Draws} {active : Option ChaosConfig}
    {svcId other : Text} {markov : HashMap Text MarkovState} (hne : other ≠ svcId) :
    (chaosGate fl order draws active svcId markov).1.lookup other = markov.lookup other := by
  cases active with
  | none => rfl
  | some cc =>
      have heffect : (chaosEffect fl draws cc svcId markov).1.lookup other
          = markov.lookup other := by
        unfold chaosEffect
        cases cc.chaosModel with
        | uniform => rfl
        | markov => exact Finmap.lookup_insert_of_ne _ hne
      unfold chaosGate
      dsimp only
      rcases he : chaosEffect fl draws cc svcId markov with ⟨m, _ | effect⟩
      · rw [he] at heffect
        exact heffect
      · rw [he] at heffect
        exact heffect

end Gate

-- ========================================================= the other parties

section Isolation

variable (fl : ℚ → ℚ) (env : Externals) (cfg : Config)

/-- The proxy, seen from the gate: every request with its verdict. -/
def verdictStep (st : ProxyState) (a : ProxyAction) : ProxyState × Option Verdict :=
  ((proxyStep fl env cfg st a).1,
    match a with
    | .request c => some (requestGate fl env cfg st c).2
    | _ => none)

/-- The action is an admin call, or a request routed to the service. -/
def concerns (svcId : Text) (st : ProxyState) : ProxyAction → Bool
  | .request c => (routed cfg st c).1.serviceId = some svcId
  | _ => true

/-- Two proxies the gate cannot tell apart, as far as one service goes. -/
structure SameGate (svcId : Text) (st t : ProxyState) : Prop where
  mode : st.app.mode = t.app.mode
  upstreams : st.upstreams = t.upstreams
  markov : st.markovState.lookup svcId = t.markovState.lookup svcId

/-- A request moves the Markov states by the gate and leaves the setup. -/
theorem setup_proxyRequest (st : ProxyState) (c : ChaosCall) :
    (proxyRequest fl env cfg st c).1.app.mode = st.app.mode
      ∧ (proxyRequest fl env cfg st c).1.upstreams = st.upstreams
      ∧ (proxyRequest fl env cfg st c).1.markovState = (requestGate fl env cfg st c).1 := by
  unfold proxyRequest
  rcases requestGate fl env cfg st c with ⟨markov, delayMs | ⟨delayMs, response⟩ | _⟩
  · exact ⟨(sameSetup_handle env cfg st.app c.call).mode, rfl, rfl⟩
  · exact ⟨rfl, rfl, rfl⟩
  · exact ⟨rfl, rfl, rfl⟩

variable {fl env cfg} {svcId : Text} {st t : ProxyState}

/-- A request of the service gets the same verdict from both. -/
theorem SameGate.own (h : SameGate svcId st t) {c : ChaosCall}
    (hsvc : (routed cfg st c).1.serviceId = some svcId) :
    (requestGate fl env cfg st c).2 = (requestGate fl env cfg t c).2
      ∧ SameGate svcId (proxyRequest fl env cfg st c).1 (proxyRequest fl env cfg t c).1 := by
  have hrouted : routed cfg t c = routed cfg st c := by unfold routed; rw [h.upstreams]
  have hactive : activeFor cfg t c = activeFor cfg st c := by
    unfold activeFor
    rw [hrouted, h.mode]
  obtain ⟨hmode, hup, hmarkov⟩ := setup_proxyRequest fl env cfg st c
  obtain ⟨hmode', hup', hmarkov'⟩ := setup_proxyRequest fl env cfg t c
  have hgate : (requestGate fl env cfg st c).2 = (requestGate fl env cfg t c).2
      ∧ (requestGate fl env cfg st c).1.lookup svcId
        = (requestGate fl env cfg t c).1.lookup svcId := by
    rw [requestGate_eq, requestGate_eq, hrouted, hactive, hsvc, Option.getD_some]
    by_cases hreach : ReachesGate cfg c
    · rw [if_pos hreach, if_pos hreach]
      exact chaosGate_congr h.markov
    · rw [if_neg hreach, if_neg hreach]
      exact ⟨rfl, h.markov⟩
  refine ⟨hgate.1, ?_, ?_, ?_⟩
  · rw [hmode, hmode', h.mode]
  · rw [hup, hup', h.upstreams]
  · rw [hmarkov, hmarkov', hgate.2]

/-- A request of another service, or of none, leaves the service's state. -/
theorem lookup_requestGate_other {c : ChaosCall}
    (hsvc : (routed cfg st c).1.serviceId ≠ some svcId) :
    (requestGate fl env cfg st c).1.lookup svcId = st.markovState.lookup svcId := by
  rw [requestGate_eq]
  by_cases hreach : ReachesGate cfg c
  · rw [if_pos hreach]
    cases hroute : (routed cfg st c).1.serviceId with
    | none =>
        rw [activeFor_of_unrouted cfg hroute]
        rfl
    | some other =>
        rw [hroute] at hsvc
        exact chaosGate_frame fun he => hsvc (congrArg some he.symm)
  · rw [if_neg hreach]

theorem SameGate.other (h : SameGate svcId st t) {c : ChaosCall}
    (hsvc : (routed cfg st c).1.serviceId ≠ some svcId) :
    SameGate svcId (proxyRequest fl env cfg st c).1 t := by
  obtain ⟨hmode, hup, hmarkov⟩ := setup_proxyRequest fl env cfg st c
  refine ⟨hmode.trans h.mode, hup.trans h.upstreams, ?_⟩
  rw [hmarkov, lookup_requestGate_other hsvc, h.markov]

variable (fl env cfg) in
/-- Outages are isolated: from any state, the verdicts on a service's
requests and its Markov state at the end are those of the run without the
requests of the others, whatever the admin calls in between. -/
theorem outages_isolated (svcId : Text) (st : ProxyState) (actions : List ProxyAction) :
    let own := passed (verdictStep fl env cfg) (concerns cfg svcId) id st actions
    passedOutputs (verdictStep fl env cfg) (concerns cfg svcId) st actions
        = outputs (verdictStep fl env cfg) (fun _ => true) st own
      ∧ (run (fun s a => (verdictStep fl env cfg s a).1) st actions).markovState.lookup svcId
        = (run (fun s a => (verdictStep fl env cfg s a).1) st own).markovState.lookup svcId := by
  have hown : ∀ s t a, SameGate svcId s t → concerns cfg svcId s a = true →
      (verdictStep fl env cfg s a).2 = (verdictStep fl env cfg t a).2
        ∧ SameGate svcId (verdictStep fl env cfg s a).1 (verdictStep fl env cfg t a).1 := by
    intro s t a h hconcerns
    cases a with
    | request c =>
        have hsvc : (routed cfg s c).1.serviceId = some svcId := by
          simpa [concerns] using hconcerns
        have hsame := @SameGate.own fl env cfg svcId s t h c hsvc
        exact ⟨congrArg some hsame.1, hsame.2⟩
    | createMock entry => exact ⟨rfl, h.mode, h.upstreams, h.markov⟩
    | setMode mode => exact ⟨rfl, rfl, h.upstreams, h.markov⟩
    | setConfig status body => exact ⟨rfl, h.mode, h.upstreams, h.markov⟩
    | setUpstreams upstreams => exact ⟨rfl, h.mode, rfl, h.markov⟩
    | createSequence seq => exact ⟨rfl, h.mode, h.upstreams, h.markov⟩
    | resetSequence id => exact ⟨rfl, h.mode, h.upstreams, h.markov⟩
    | deleteSequence id => exact ⟨rfl, h.mode, h.upstreams, h.markov⟩
  have hothers : ∀ s t a, SameGate svcId s t → concerns cfg svcId s a = false →
      SameGate svcId (verdictStep fl env cfg s a).1 t := by
    intro s t a h hconcerns
    cases a with
    | request c => exact h.other (by simpa [concerns] using hconcerns)
    | createMock entry => cases hconcerns
    | setMode mode => cases hconcerns
    | setConfig status body => cases hconcerns
    | setUpstreams upstreams => cases hconcerns
    | createSequence seq => cases hconcerns
    | resetSequence id => cases hconcerns
    | deleteSequence id => cases hconcerns
  have hpurge := passed_purge hown hothers actions (⟨rfl, rfl, rfl⟩ : SameGate svcId st st)
  exact ⟨hpurge.1, hpurge.2.markov⟩

end Isolation

-- ============================================================== the window

section Window

variable (fl : ℚ → ℚ) (env : Externals) (cfg : Config)

/-- A request of the service that the Markov model applies to. -/
def underMarkov (svcId : Text) (st : ProxyState) : ProxyAction → Bool
  | .request c => (routed cfg st c).1.serviceId = some svcId
      && (activeFor cfg st c).any fun cc => cc.chaosModel = .markov
  | _ => false

variable {fl} in
/-- Before the dwell ends the gate leaves the state of the service, and
gives its kind the effect the configuration says. -/
theorem chaosGate_dwelling {order : RandomState} {draws : Draws} {active : Option ChaosConfig}
    {svcId : Text} {markov : HashMap Text MarkovState} {dwell : MarkovState}
    (h : markov.lookup svcId = some dwell) (hnow : draws.now < dwell.dwellUntil) :
    (chaosGate fl order draws active svcId markov).1.lookup svcId = some dwell
      ∧ ∀ cc, active = some cc → cc.chaosModel = .markov →
        (chaosGate fl order draws active svcId markov).2
          = injected fl order draws cc (kindEffect (cc.markov.getD default) dwell.kind) := by
  have hstep : ∀ mc, stepWithRng fl mc dwell draws.now draws.factor
      = (dwell, some (dwell.kind, false)) := by
    intro mc
    unfold stepWithRng
    rw [if_pos hnow]
  cases active with
  | none => exact ⟨h, fun cc hcc => by cases hcc⟩
  | some cc =>
      unfold chaosGate
      dsimp only
      cases hmodel : cc.chaosModel with
      | uniform =>
          unfold chaosEffect
          simp only [hmodel]
          refine ⟨h, fun cc' hcc hmarkov => ?_⟩
          cases hcc
          rw [hmodel] at hmarkov
          cases hmarkov
      | markov =>
          unfold chaosEffect markovStep
          simp only [hmodel, h, Option.getD_some, hstep, Option.map_some, Finmap.lookup_insert]
          refine ⟨trivial, fun cc' hcc _ => ?_⟩
          cases hcc
          rfl

/-- A healthy service is let through. -/
theorem withholds_injected_healthy (order : RandomState) (draws : Draws) (cc : ChaosConfig) :
    (injected fl order draws cc (kindEffect (cc.markov.getD default) .healthy)).withholds
      = false := by
  unfold injected chaosError kindEffect
  rw [if_neg fun h => lt_irrefl 0 h.1]
  rfl

/-- What a request under the Markov model gets within a dwell. -/
def WindowVerdict (dwell : MarkovState) (v : Option Verdict) : Prop :=
  v ≠ some .panic ∧ (dwell.kind = .healthy → ∃ delayMs, v = some (.pass delayMs))

variable {fl env cfg} in
/-- One action within a dwell. -/
theorem verdictStep_dwelling {svcId : Text} {st : ProxyState} {dwell : MarkovState}
    (h : st.markovState.lookup svcId = some dwell) {a : ProxyAction}
    (hnow : ∀ c, a = .request c → c.draws.now < dwell.dwellUntil) :
    (verdictStep fl env cfg st a).1.markovState.lookup svcId = some dwell
      ∧ (underMarkov cfg svcId st a = true →
        WindowVerdict dwell (verdictStep fl env cfg st a).2) := by
  cases a with
  | request c =>
      have hstate : (verdictStep fl env cfg st (.request c)).1.markovState
          = (requestGate fl env cfg st c).1 := (setup_proxyRequest fl env cfg st c).2.2
      rw [hstate]
      by_cases hsvc : (routed cfg st c).1.serviceId = some svcId
      · show _ ∧ (_ → WindowVerdict dwell (some (requestGate fl env cfg st c).2))
        rw [requestGate_eq, hsvc, Option.getD_some]
        by_cases hreach : ReachesGate cfg c
        · rw [if_pos hreach]
          obtain ⟨hlookup, hverdict⟩ := @chaosGate_dwelling fl c.call.order c.draws
            (activeFor cfg st c) svcId st.markovState dwell h (hnow c rfl)
          refine ⟨hlookup, fun hunder => ?_⟩
          simp only [underMarkov, Bool.and_eq_true, Option.any_eq_true,
            decide_eq_true_eq] at hunder
          obtain ⟨-, cc, hactive, hmodel⟩ := hunder
          rw [hverdict cc hactive hmodel]
          constructor
          · unfold injected
            split <;> simp
          · intro hkind
            have hpass := withholds_injected_healthy fl c.call.order c.draws cc
            rw [hkind]
            revert hpass
            cases injected fl c.call.order c.draws cc (kindEffect (cc.markov.getD default)
              .healthy) with
            | pass delayMs => exact fun _ => ⟨delayMs, rfl⟩
            | error delayMs response => exact fun hpass => by cases hpass
            | panic => exact fun hpass => by cases hpass
        · rw [if_neg hreach]
          exact ⟨h, fun _ => ⟨by simp, fun _ => ⟨0, rfl⟩⟩⟩
      · rw [lookup_requestGate_other hsvc]
        refine ⟨h, fun hunder => ?_⟩
        simp [underMarkov, hsvc] at hunder
  | createMock entry => exact ⟨h, fun hunder => by cases hunder⟩
  | setMode mode => exact ⟨h, fun hunder => by cases hunder⟩
  | setConfig status body => exact ⟨h, fun hunder => by cases hunder⟩
  | setUpstreams upstreams => exact ⟨h, fun hunder => by cases hunder⟩
  | createSequence seq => exact ⟨h, fun hunder => by cases hunder⟩
  | resetSequence id => exact ⟨h, fun hunder => by cases hunder⟩
  | deleteSequence id => exact ⟨h, fun hunder => by cases hunder⟩

/-- A dwell is a window: while the clocks read less than its end the kind
stays, no step panics, and in a healthy dwell every request that the Markov
model applies to is let through, whatever else the proxy is asked. -/
theorem dwell_window {svcId : Text} {st : ProxyState} {dwell : MarkovState}
    (h : st.markovState.lookup svcId = some dwell) {actions : List ProxyAction}
    (hclock : ∀ c, .request c ∈ actions → c.draws.now < dwell.dwellUntil) :
    (run (fun s a => (verdictStep fl env cfg s a).1) st actions).markovState.lookup svcId
        = some dwell
      ∧ ∀ v ∈ passedOutputs (verdictStep fl env cfg) (underMarkov cfg svcId) st actions,
        WindowVerdict dwell v := by
  induction actions generalizing st with
  | nil => exact ⟨h, fun v hv => absurd hv List.not_mem_nil⟩
  | cons a actions ih =>
      obtain ⟨hstate, hverdict⟩ := @verdictStep_dwelling fl env cfg svcId st dwell h a
        fun c hc => hclock c (by simp [hc])
      obtain ⟨hrun, hrest⟩ := ih hstate fun c hc => hclock c (by simp [hc])
      refine ⟨hrun, ?_⟩
      rw [passedOutputs]
      cases hunder : underMarkov cfg svcId st a with
      | true =>
          rw [if_pos rfl, List.forall_mem_cons]
          exact ⟨hverdict hunder, hrest⟩
      | false => exact hrest

end Window

/-- A service under Markov chaos, in a healthy dwell. -/
def billingRoute : UpstreamRoute where
  routingType := "path"
  routingValue := "/"
  upstreamUrl := "http://billing"
  serviceId := "billing"
  mode := none
  redactHeaders := []

def billingChaos : ChaosConfig where
  enabled := true
  latencyMs := 0
  errorRate := 0
  errorStatus := 503
  errorBody := []
  latencyJitter := none
  errorCodes := []
  endpointRules := []
  modes := []
  chaosModel := .markov
  markov := none

def billingProxy : ProxyState where
  app := { emptyProxy with upstreams := [billingRoute] }
  upstreams := [⟨billingRoute, some billingChaos⟩]
  markovState := Finmap.singleton "billing" ⟨.healthy, 5⟩
  upstreams_app := rfl

def billingRequest (order : RandomState) : ChaosCall where
  call := .plain order ⟨"GET", some "/charges", [], []⟩ none
  draws :=
    { created := 0, now := 4, factor := 1, jitterU := 0, jitterV := 0, errorDraw := 0,
      pickDraw := 0 }

/-- Two requests of the service, and a switch to PASSTHROUGH between. -/
noncomputable def billingActions : List ProxyAction :=
  [.request (billingRequest default), .setMode .passthrough, .request (billingRequest default)]

/-- Both are under the model, and both are let through. -/
theorem dwell_window_billing :
    (run (fun s a => (verdictStep id default Config.new s a).1) billingProxy
        billingActions).markovState.lookup ("billing" : Text) = some ⟨.healthy, 5⟩
      ∧ (passedOutputs (verdictStep id default Config.new)
          (underMarkov Config.new ("billing" : Text)) billingProxy billingActions).length = 2
      ∧ ∀ v ∈ passedOutputs (verdictStep id default Config.new)
          (underMarkov Config.new ("billing" : Text)) billingProxy billingActions,
        ∃ delayMs, v = some (.pass delayMs) := by
  have hclock : ∀ c, .request c ∈ billingActions → c.draws.now < 5 := by
    intro c hc
    simp only [billingActions, List.mem_cons, List.not_mem_nil, or_false,
      ProxyAction.request.injEq, reduceCtorEq, false_or] at hc
    rcases hc with rfl | rfl <;> exact (by decide : 4 < 5)
  have hdwell : billingProxy.markovState.lookup ("billing" : Text) = some ⟨.healthy, 5⟩ :=
    Finmap.lookup_singleton_eq
  obtain ⟨hstate, hverdicts⟩ := dwell_window id default Config.new hdwell hclock
  exact ⟨hstate, rfl, fun v hv => (hverdicts v hv).2 rfl⟩

end GostlyProxy
