/-
Chaos only withholds requests.

The proxy with chaos is a machine behind a gate (`Lib/Withheld.lean`). A
request that the gate lets through is handled as the proxy without chaos
handles it; a request that it withholds leaves the application's state
alone and is answered by an error that carries the mark of chaos, or not at
all (`proxy_withholds`). The gate is for MOCK and PASSTHROUGH only, so what
a proxy records, and every line it leaves to be written, is the same with
chaos and without (`recordings_without_chaos`), also though withheld
requests change what later requests are served.
-/
import GostlyProxy.Lib.Withheld
import GostlyProxy.Model.Injection

namespace GostlyProxy

open Lib Machine

-- =============================================================== the gate

theorem resolveWithChaos_fst (upstreams : List ChaosRoute) (host path defaultUrl : Text) :
    (resolveWithChaos upstreams host path defaultUrl).1
      = resolveUpstream (upstreams.map ChaosRoute.route) host path defaultUrl := by
  unfold resolveWithChaos resolveUpstream
  have hmatch : (fun up : UpstreamRoute => up.isMatch host path) ∘ ChaosRoute.route
      = fun up => up.route.isMatch host path := rfl
  rw [List.find?_map, hmatch]
  cases upstreams.find? fun up => up.route.isMatch host path with
  | none => rfl
  | some up => rfl

/-- Chaos is for MOCK and PASSTHROUGH. -/
theorem mode_of_activeConfig {mode : Mode} {chaosConfig : Option ChaosConfig}
    {pathQuery : Text} {cc : ChaosConfig}
    (h : activeConfig mode chaosConfig pathQuery = some cc) :
    mode = .mock ∨ mode = .passthrough := by
  cases mode with
  | mock => exact Or.inl rfl
  | passthrough => exact Or.inr rfl
  | learn => cases h
  | transitioning => cases h

section Request

variable {fl : ℚ → ℚ} {env : Externals} {cfg : Config} {st : ProxyState} {c : ChaosCall}

/-- A request that does not get to the branches does not get to the gate. -/
theorem requestGate_tooLarge (h : cfg.maxBodyBytes < c.call.request.body.length) :
    requestGate fl env cfg st c = (st.markovState, .pass 0) := by
  rw [requestGate, collectBody, if_neg (Nat.not_le.mpr h)]

theorem requestGate_noTenant (hfits : c.call.request.body.length ≤ cfg.maxBodyBytes)
    (h : resolveTenant c.call.request.headers c.call.request.query = none) :
    requestGate fl env cfg st c = (st.markovState, .pass 0) := by
  rw [requestGate, collectBody, if_pos hfits]
  dsimp only
  rw [requestContext_eq, h, Option.map_none]

/-- The gate of a request that gets to the branch of a mode. -/
theorem requestGate_dispatched {ctx : RequestContext} {mode : Mode}
    (h : Dispatched env cfg st.app c.call ctx mode) :
    requestGate fl env cfg st c
      = chaosGate fl c.call.order c.draws
          (activeConfig mode (chaosConfigFor cfg st c.call.request) ctx.pathQuery)
          (ctx.resolved.serviceId.getD []) st.markovState := by
  rw [requestGate, collectBody, if_pos h.fits]
  simp only [h.context, h.mode]

/-- A withheld request was on its way to the MOCK or PASSTHROUGH branch. -/
theorem dispatched_of_withholds (h : (requestGate fl env cfg st c).2.withholds = true) :
    ∃ ctx mode cc, Dispatched env cfg st.app c.call ctx mode
      ∧ activeConfig mode (chaosConfigFor cfg st c.call.request) ctx.pathQuery = some cc := by
  cases requestCase env cfg st.app c.call with
  | tooLarge hlarge =>
      rw [requestGate_tooLarge hlarge] at h
      cases h
  | noTenant hfits hnone =>
      rw [requestGate_noTenant hfits hnone] at h
      cases h
  | dispatched ctx mode hdisp =>
      rw [requestGate_dispatched hdisp] at h
      cases hactive : activeConfig mode (chaosConfigFor cfg st c.call.request)
          ctx.pathQuery with
      | none =>
          rw [hactive] at h
          cases h
      | some cc => exact ⟨ctx, mode, cc, hdisp, hactive⟩

/-- What the gate lets through is handled. -/
theorem proxyRequest_passes (h : (requestGate fl env cfg st c).2.withholds = false) :
    (proxyRequest fl env cfg st c).1.app = (handle env cfg st.app c.call).1
      ∧ (proxyRequest fl env cfg st c).2.2.1 = .handled (handle env cfg st.app c.call).2
      ∧ (proxyRequest fl env cfg st c).2.2.2 = (proxyHandler env cfg st.app c.call).2.2 := by
  unfold proxyRequest
  rcases hgate : requestGate fl env cfg st c with ⟨markov, delayMs | ⟨delayMs, response⟩ | _⟩
  · exact ⟨rfl, rfl, rfl⟩
  · rw [hgate] at h
    cases h
  · rw [hgate] at h
    cases h

/-- What the gate withholds leaves no trace in the application. -/
theorem proxyRequest_withholds (h : (requestGate fl env cfg st c).2.withholds = true) :
    (proxyRequest fl env cfg st c).1.app = st.app
      ∧ (proxyRequest fl env cfg st c).2.2.2 = []
      ∧ ((proxyRequest fl env cfg st c).2.2.1 = .panicked
        ∨ ∃ delayMs response, (requestGate fl env cfg st c).2 = .error delayMs response
          ∧ (proxyRequest fl env cfg st c).2.2.1 = .injected response) := by
  unfold proxyRequest
  rcases hgate : requestGate fl env cfg st c with ⟨markov, delayMs | ⟨delayMs, response⟩ | _⟩
  · rw [hgate] at h
    cases h
  · exact ⟨rfl, rfl, Or.inr ⟨delayMs, response, rfl, rfl⟩⟩
  · exact ⟨rfl, rfl, Or.inl rfl⟩

end Request

-- =============================================================== the mark

/-- What a header call adds to goes on standing in front. -/
theorem prefix_foldl_builderHeader (headers : List (HashMap.Entry Text Text))
    {start hs hs' : HeaderMap} (hstart : start <+: hs)
    (h : headers.foldl builderHeader (some hs) = some hs') : start <+: hs' := by
  have hspoilt : ∀ headers : List (HashMap.Entry Text Text),
      headers.foldl builderHeader none = none := by
    intro headers
    induction headers with
    | nil => rfl
    | cons header headers ih => exact ih
  induction headers generalizing hs with
  | nil =>
      rw [List.foldl_nil, Option.some.injEq] at h
      exact h ▸ hstart
  | cons header headers ih =>
      rw [List.foldl_cons] at h
      cases hnext : builderHeader (some hs) header with
      | none =>
          rw [hnext, hspoilt] at h
          cases h
      | some next =>
          rw [hnext] at h
          refine ih ?_ h
          simp only [builderHeader, Option.bind_some, Option.bind_eq_some_iff,
            Option.map_eq_some_iff] at hnext
          obtain ⟨name, -, val, -, rfl⟩ := hnext
          exact hstart.trans (List.prefix_append hs _)

/-- A response that chaos wrote, as its client can tell: the first values
of the two headers are the gate's own. -/
structure Marked (r : Response) : Prop where
  mark : r.headers.get xGhostChaos.toText = some valueTrue
  contentType : r.headers.get contentTypeHeader.toText = some valueJson

theorem marked_of_prefix {r : Response} (h : chaosHeaders <+: r.headers) : Marked r := by
  obtain ⟨rest, hrest⟩ := h
  constructor
  · rw [← hrest, HeaderMap.get, HeaderMap.getAll_append]
    rfl
  · rw [← hrest, HeaderMap.get, HeaderMap.getAll_append]
    rfl

/-- No header of a drawn error takes the mark away. -/
theorem marked_errorResponse (order : RandomState) (drawn : DrawnError) :
    Marked (errorResponse order drawn) := by
  apply marked_of_prefix
  unfold errorResponse
  cases hfold : (order.iter drawn.headers).foldl builderHeader (some chaosHeaders) with
  | none => exact List.prefix_rfl
  | some hs => exact prefix_foldl_builderHeader _ List.prefix_rfl hfold

/-- An error of the gate is one that was drawn, at a rate above zero. -/
theorem chaosGate_error {fl : ℚ → ℚ} {order : RandomState} {draws : Draws}
    {active : Option ChaosConfig} {svcId : Text} {markov : HashMap Text MarkovState}
    {delayMs : UInt64} {response : Response}
    (h : (chaosGate fl order draws active svcId markov).2 = .error delayMs response) :
    ∃ cc effect drawn, active = some cc
      ∧ (chaosEffect fl draws cc svcId markov).2 = some effect ∧ 0 < effect.1
      ∧ drawError draws.pickDraw cc = some drawn ∧ response = errorResponse order drawn
      ∧ delayMs = chaosLatency fl draws cc effect.2 := by
  cases active with
  | none => cases h
  | some cc =>
      unfold chaosGate at h
      dsimp only at h
      rcases heffect : chaosEffect fl draws cc svcId markov with ⟨markov', _ | effect⟩
      · rw [heffect] at h
        cases h
      · rw [heffect] at h
        dsimp only at h
        unfold injected chaosError at h
        by_cases hrate : 0 < effect.1 ∧ draws.errorDraw < effect.1
        · rw [if_pos hrate] at h
          cases hdrawn : drawError draws.pickDraw cc with
          | none =>
              rw [hdrawn] at h
              cases h
          | some drawn =>
              rw [hdrawn] at h
              cases h
              exact ⟨cc, effect, drawn, rfl, by rw [heffect], hrate.1, hdrawn, rfl, rfl⟩
        · rw [if_neg hrate] at h
          cases h

/-- What a proxy injects is marked. -/
theorem marked_injected {fl : ℚ → ℚ} {env : Externals} {cfg : Config} {st : ProxyState}
    {c : ChaosCall} {response : Response}
    (h : (proxyRequest fl env cfg st c).2.2.1 = .injected response) : Marked response := by
  cases hgate : (requestGate fl env cfg st c).2.withholds with
  | false =>
      rw [(proxyRequest_passes hgate).2.1] at h
      cases h
  | true =>
      obtain ⟨-, -, hpanic | ⟨delayMs, r, hverdict, hr⟩⟩ := proxyRequest_withholds hgate
      · rw [hpanic] at h
        cases h
      · rw [hr, ProxyAnswer.injected.injEq] at h
        subst h
        obtain ⟨ctx, mode, cc, hdisp, -⟩ := dispatched_of_withholds hgate
        rw [requestGate_dispatched hdisp] at hverdict
        obtain ⟨cc', effect, drawn, -, -, -, -, rfl, -⟩ := chaosGate_error hverdict
        exact marked_errorResponse c.call.order drawn

-- ================================================================ the run

section System

variable (fl : ℚ → ℚ) (env : Externals) (cfg : Config)

/-- Does the gate let the action through? Admin calls pass by it. -/
def letThrough (st : ProxyState) : ProxyAction → Bool
  | .request c => !(requestGate fl env cfg st c).2.withholds
  | _ => true

/-- What the application answers of it. -/
def ProxyOutput.plain (o : ProxyOutput) : PlainOutput where
  answer := match o.answer with
    | some (_, .handled answer) => some answer
    | _ => none
  spawned := o.spawned

/-- The proxy with chaos is the proxy without, behind the gate. -/
theorem isGate_proxyStep : IsGate (proxyStep fl env cfg) (letThrough fl env cfg)
    (plainStep env cfg) ProxyState.app ProxyAction.plain ProxyOutput.plain where
  passes := by
    intro st a h
    cases a with
    | request c =>
        obtain ⟨happ, hanswer, hspawned⟩ := proxyRequest_passes
          (show (requestGate fl env cfg st c).2.withholds = false by simpa [letThrough] using h)
        simp only [ProxyAction.plain, plainStep, proxyStep, ProxyOutput.plain, happ, hanswer,
          hspawned]
    | createMock entry => rfl
    | setMode mode => rfl
    | setConfig status body => rfl
    | setUpstreams upstreams => rfl
    | createSequence seq => rfl
    | resetSequence id => rfl
    | deleteSequence id => rfl
  withholds := by
    intro st a h
    cases a with
    | request c =>
        exact (proxyRequest_withholds
          (show (requestGate fl env cfg st c).2.withholds = true by
            simpa [letThrough] using h)).1
    | createMock entry => cases h
    | setMode mode => cases h
    | setConfig status body => cases h
    | setUpstreams upstreams => cases h
    | createSequence seq => cases h
    | resetSequence id => cases h
    | deleteSequence id => cases h

/-- The actions of a run that reach the application. -/
def survivors (st : ProxyState) (actions : List ProxyAction) : List PlainAction :=
  passed (proxyStep fl env cfg) (letThrough fl env cfg) ProxyAction.plain st actions

/-- What a withheld request comes to. -/
structure WithheldOutput (o : ProxyOutput) : Prop where
  spawned : o.spawned = []
  answer : (∃ delayMs, o.answer = some (delayMs, .panicked))
    ∨ ∃ delayMs response, o.answer = some (delayMs, .injected response) ∧ Marked response

theorem withheldOutput_proxyStep (st : ProxyState) (a : ProxyAction)
    (h : (!letThrough fl env cfg st a) = true) :
    WithheldOutput (proxyStep fl env cfg st a).2 := by
  cases a with
  | request c =>
      have hgate : (requestGate fl env cfg st c).2.withholds = true := by
        simpa [letThrough] using h
      obtain ⟨-, hspawned, hanswer⟩ := proxyRequest_withholds hgate
      refine ⟨hspawned, ?_⟩
      rcases hanswer with hpanic | ⟨delayMs, response, -, hinjected⟩
      · exact Or.inl ⟨_, congrArg (fun answer => some (_, answer)) hpanic⟩
      · exact Or.inr ⟨_, response, congrArg (fun answer => some (_, answer)) hinjected,
          marked_injected hinjected⟩
  | createMock entry => cases h
  | setMode mode => cases h
  | setConfig status body => cases h
  | setUpstreams upstreams => cases h
  | createSequence seq => cases h
  | resetSequence id => cases h
  | deleteSequence id => cases h

/-- Chaos only withholds: what a run lets through is the run of a proxy
without chaos, in its state and in every answer and task, and what it
withholds is answered by a marked error or dies. -/
theorem proxy_withholds (st : ProxyState) (actions : List ProxyAction) :
    (run (fun st a => (proxyStep fl env cfg st a).1) st actions).app
        = run (fun st a => (plainStep env cfg st a).1) st.app
            (survivors fl env cfg st actions)
      ∧ (passedOutputs (proxyStep fl env cfg) (letThrough fl env cfg) st actions).map
          ProxyOutput.plain
        = outputs (plainStep env cfg) (fun _ => true) st.app (survivors fl env cfg st actions)
      ∧ ∀ o ∈ passedOutputs (proxyStep fl env cfg) (fun st a => !letThrough fl env cfg st a)
          st actions, WithheldOutput o :=
  ⟨run_passed (isGate_proxyStep fl env cfg) st actions,
    passedOutputs_eq (isGate_proxyStep fl env cfg) st actions,
    forall_mem_passedOutputs (withheldOutput_proxyStep fl env cfg) st actions⟩

end System

-- ========================================================= the recordings

/-- Two states that record alike. -/
structure SameRecordings (st t : AppState) : Prop where
  mode : st.mode = t.mode
  upstreams : st.upstreams = t.upstreams
  mocks : st.mocks = t.mocks
  entryCounter : st.entryCounter = t.entryCounter

section Recordings

variable {fl : ℚ → ℚ} {env : Externals} {cfg : Config} {st t : AppState} {call : Call}
  {ctx : RequestContext} {mode : Mode}

theorem SameRecordings.context (h : SameRecordings st t) (req : Request) (bytes : Bytes) :
    requestContext env cfg t req bytes = requestContext env cfg st req bytes := by
  unfold requestContext
  rw [h.upstreams, h.mocks]

theorem SameRecordings.dispatched (h : SameRecordings st t)
    (hdisp : Dispatched env cfg st call ctx mode) : Dispatched env cfg t call ctx mode :=
  ⟨hdisp.fits, (h.context _ _).trans hdisp.context, h.mode ▸ hdisp.mode⟩

theorem entryCounter_settle (now : Nat) (spawned : List Spawned) (st : AppState) :
    (settle now st spawned).entryCounter = st.entryCounter := by
  induction spawned generalizing st with
  | nil => rfl
  | cons task spawned ih =>
      show (settle now (runSpawned now st task) spawned).entryCounter = _
      rw [ih]
      cases task <;> rfl

/-- A request outside of LEARN records nothing. -/
theorem sameRecordings_handle (hdisp : Dispatched env cfg st call ctx mode)
    (hmode : mode ≠ .learn) :
    SameRecordings (handle env cfg st call).1 st
      ∧ (proxyHandler env cfg st call).2.2 = [] := by
  rw [hdisp.proxyHandler, dispatch, hdisp.mode]
  cases mode with
  | learn => exact absurd rfl hmode
  | mock =>
      rw [handle_mock hdisp]
      have hframe := mockFrame_mockBranch env cfg call ctx st
      refine ⟨⟨hframe.mode, hframe.upstreams, hframe.mocks, ?_⟩, rfl⟩
      obtain ⟨st', answer, hout⟩ := exists_mockOutcome env cfg call ctx st
      rw [hout.eq]
      cases hout <;> rfl
  | passthrough =>
      rw [handle_passthrough hdisp]
      exact ⟨⟨rfl, rfl, rfl, rfl⟩, rfl⟩
  | transitioning =>
      rw [handle_transitioning hdisp]
      exact ⟨⟨rfl, rfl, rfl, rfl⟩, rfl⟩

/-- States that record alike record the same request alike. -/
theorem SameRecordings.handle (h : SameRecordings st t) (call : Call) :
    SameRecordings (handle env cfg st call).1 (handle env cfg t call).1
      ∧ (proxyHandler env cfg st call).2.2 = (proxyHandler env cfg t call).2.2 := by
  cases requestCase env cfg st call with
  | tooLarge hlarge =>
      rw [handle_tooLarge hlarge, handle_tooLarge hlarge, proxyHandler_tooLarge hlarge,
        proxyHandler_tooLarge hlarge]
      exact ⟨h, rfl⟩
  | noTenant hfits hnone =>
      rw [handle_noTenant hfits hnone, handle_noTenant hfits hnone,
        proxyHandler_noTenant hfits hnone, proxyHandler_noTenant hfits hnone]
      exact ⟨h, rfl⟩
  | dispatched ctx mode hdisp =>
      have hdisp' := h.dispatched hdisp
      by_cases hmode : mode = .learn
      · subst hmode
        rw [hdisp.proxyHandler, hdisp'.proxyHandler, dispatch, dispatch, hdisp.mode, hdisp'.mode]
        dsimp only
        unfold learnBranch
        cases hres : call.upstream (forwarded call ctx) with
        | none =>
            rw [handle_noUpstream hdisp hres, handle_noUpstream hdisp' hres]
            exact ⟨h, rfl⟩
        | some res =>
            rw [handle_learn hdisp hres, handle_learn hdisp' hres]
            dsimp only
            rw [h.entryCounter]
            refine ⟨?_, rfl⟩
            have hframe := mockFrame_settle call.systemTime (learnCapture env call ctx res)
            refine ⟨?_, ?_, ?_, ?_⟩
            · rw [(hframe _).mode, (hframe _).mode]
              exact h.mode
            · rw [(hframe _).upstreams, (hframe _).upstreams]
              exact h.upstreams
            · rw [(hframe _).mocks, (hframe _).mocks, mocks_learnState, mocks_learnState, h.mocks]
            · rw [entryCounter_settle, entryCounter_settle]
              simp only [learnState, fireFirstRequestProxied, h.entryCounter]
      · obtain ⟨hst, hnil⟩ := sameRecordings_handle hdisp hmode
        obtain ⟨ht, hnil'⟩ := sameRecordings_handle hdisp' hmode
        refine ⟨⟨?_, ?_, ?_, ?_⟩, hnil.trans hnil'.symm⟩
        · rw [hst.mode, ht.mode, h.mode]
        · rw [hst.upstreams, ht.upstreams, h.upstreams]
        · rw [hst.mocks, ht.mocks, h.mocks]
        · rw [hst.entryCounter, ht.entryCounter, h.entryCounter]

/-- One action records alike with chaos and without, also when it is
withheld. -/
theorem SameRecordings.step {st : ProxyState} (h : SameRecordings st.app t)
    (a : ProxyAction) :
    SameRecordings (proxyStep fl env cfg st a).1.app (plainStep env cfg t a.plain).1
      ∧ (proxyStep fl env cfg st a).2.spawned = (plainStep env cfg t a.plain).2.spawned := by
  cases a with
  | request c =>
      show SameRecordings (proxyRequest fl env cfg st c).1.app (GostlyProxy.handle env cfg t c.call).1
        ∧ (proxyRequest fl env cfg st c).2.2.2 = (proxyHandler env cfg t c.call).2.2
      cases hgate : (requestGate fl env cfg st c).2.withholds with
      | false =>
          obtain ⟨happ, -, hspawned⟩ := proxyRequest_passes hgate
          rw [happ, hspawned]
          exact h.handle c.call
      | true =>
          -- the same request without chaos is a MOCK or PASSTHROUGH request
          obtain ⟨happ, hspawned, -⟩ := proxyRequest_withholds hgate
          obtain ⟨ctx, mode, cc, hdisp, hactive⟩ := dispatched_of_withholds hgate
          have hmode : mode ≠ .learn := by
            rcases mode_of_activeConfig hactive with rfl | rfl <;> simp
          obtain ⟨hquiet, hnil⟩ := sameRecordings_handle (h.dispatched hdisp) hmode
          rw [happ, hspawned, hnil]
          exact ⟨⟨h.mode.trans hquiet.mode.symm, h.upstreams.trans hquiet.upstreams.symm,
            h.mocks.trans hquiet.mocks.symm, h.entryCounter.trans hquiet.entryCounter.symm⟩, rfl⟩
  | createMock entry =>
      refine ⟨⟨h.mode, h.upstreams, ?_, h.entryCounter⟩, rfl⟩
      exact congrArg (MockLibrary.publish · _ _) h.mocks
  | setMode mode => exact ⟨⟨rfl, h.upstreams, h.mocks, h.entryCounter⟩, rfl⟩
  | setConfig status body => exact ⟨⟨h.mode, h.upstreams, h.mocks, h.entryCounter⟩, rfl⟩
  | setUpstreams upstreams => exact ⟨⟨h.mode, rfl, h.mocks, h.entryCounter⟩, rfl⟩
  | createSequence seq => exact ⟨⟨h.mode, h.upstreams, h.mocks, h.entryCounter⟩, rfl⟩
  | resetSequence id => exact ⟨⟨h.mode, h.upstreams, h.mocks, h.entryCounter⟩, rfl⟩
  | deleteSequence id => exact ⟨⟨h.mode, h.upstreams, h.mocks, h.entryCounter⟩, rfl⟩

end Recordings

/-- Chaos never touches a recording: a run with chaos publishes the library
and leaves the tasks, log lines and captures, action by action, that the
same run without chaos does. -/
theorem recordings_without_chaos (fl : ℚ → ℚ) (env : Externals) (cfg : Config)
    (st : ProxyState) (actions : List ProxyAction) :
    SameRecordings (run (fun st a => (proxyStep fl env cfg st a).1) st actions).app
        (run (fun st a => (plainStep env cfg st a).1) st.app (actions.map ProxyAction.plain))
      ∧ (outputs (proxyStep fl env cfg) (fun _ => true) st actions).map ProxyOutput.spawned
        = (outputs (plainStep env cfg) (fun _ => true) st.app
            (actions.map ProxyAction.plain)).map PlainOutput.spawned := by
  have hgen : ∀ (st : ProxyState) (t : AppState), SameRecordings st.app t →
      SameRecordings (run (fun st a => (proxyStep fl env cfg st a).1) st actions).app
          (run (fun st a => (plainStep env cfg st a).1) t (actions.map ProxyAction.plain))
        ∧ (outputs (proxyStep fl env cfg) (fun _ => true) st actions).map ProxyOutput.spawned
          = (outputs (plainStep env cfg) (fun _ => true) t
              (actions.map ProxyAction.plain)).map PlainOutput.spawned := by
    induction actions with
    | nil => exact fun st t h => ⟨h, rfl⟩
    | cons a actions ih =>
        intro st t h
        obtain ⟨hstep, hspawned⟩ := @SameRecordings.step fl env cfg t st h a
        obtain ⟨hrun, houts⟩ := ih _ _ hstep
        refine ⟨hrun, ?_⟩
        simp only [List.map_cons, outputs, if_true, houts, hspawned]
  exact hgen st st.app ⟨rfl, rfl, rfl, rfl⟩

end GostlyProxy
