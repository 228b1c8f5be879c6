/-
Replay, step by step.

A request asks the layers of the MOCK branch one after the other, and each
layer holds its lock only while it is asked, so between two layers other
requests may take steps of their own. The requests are threads
(`Lib/Threads.lean`) over one state, which comes with the order in which they
took effect (`Lib/Linearize.lean`).

The mode, the routes, the library and the runtime configuration are read on
the way and written by nobody here. A request that a route would record is
not enabled: a request keeps the library of its arrival, so that a recording
made meanwhile is seen by the later layers and not by the first. A milestone
is reached in one step with the layer that reaches it;
`MilestoneRuns.lean` takes these apart. Chaos is off: its gate steps the
Markov state of a service before the layers, in an order of its own.

`ReplayStep` has one case for each way a step can go (`replayAct_iff`), and
alone a request gets the answer of the handler (`replay_alone`).

# What a step leaves

No step of a request makes or removes a resource, and it moves the one
resource it names at most (`Later`).
-/
import GostlyProxy.Lib.Linearize
import GostlyProxy.Proofs.LinkedMocks

namespace GostlyProxy

open Lib

-- =============================================================== the steps

/-- Where a request stands: the layer it asks next, or what it has left to
do. -/
inductive ReplayPhase where
  | arrived
  | sequences (ctx : RequestContext)
  | resources (ctx : RequestContext)
  | transitions (ctx : RequestContext)
  | moved (ctx : RequestContext) (coll id nextState : Text)
  | missing (ctx : RequestContext)
  | finished (answer : Answer)

/-- The request has taken effect. -/
def ReplayPhase.effected : ReplayPhase → Bool
  | .arrived | .sequences _ | .resources _ | .transitions _ => false
  | .moved .. | .missing _ | .finished _ => true

/-- What a request has yet to add to the list of unmatched requests. -/
def ReplayPhase.owed : ReplayPhase → Option MockRequest
  | .missing ctx => some ⟨ctx.method, ctx.pathQuery, ctx.bodyStr⟩
  | _ => none

section Steps

variable (env : Externals) (cfg : Config) (call : Call)

/-- The last layer, which asks the library only. -/
def lastLayer (ctx : RequestContext) (st : AppState) : AppState × ReplayPhase :=
  match smartSwapLayer env cfg call ctx st with
  | (st', some answer) => (st', .finished answer)
  | (st', none) => (st', .missing ctx)

def replayAct {ι : Type} (i : ι) (s : Linearize.Ordered ι AppState) :
    ReplayPhase → Unit → Option (Linearize.Ordered ι AppState × ReplayPhase)
  | .arrived, _ =>
      match contextOf env cfg s.state call with
      | none => some (s.effect i s.state, .finished (proxyHandler env cfg s.state call).2.1)
      | some ctx =>
          match ctx.resolved.mode.getD s.state.mode with
          | .mock =>
              match exactLayer env call ctx s.state with
              | (st, some answer) => some (s.effect i st, .finished answer)
              | (st, none) => some ({ s with state := st }, .sequences ctx)
          | .learn => none
          | .transitioning => some (s.effect i s.state, .finished transitioningAnswer)
          | .passthrough =>
              some (s.effect i s.state, .finished (passthroughAnswer env call ctx))
  | .sequences ctx, _ =>
      match sequenceLayer env call ctx s.state with
      | (st, some answer) => some (s.effect i st, .finished answer)
      | (st, none) => some ({ s with state := st }, .resources ctx)
  | .resources ctx, _ =>
      match resourceLayer env call ctx s.state with
      | (st, some answer) => some (s.effect i st, .finished answer)
      | (st, none) => some ({ s with state := st }, .transitions ctx)
  | .transitions ctx, _ =>
      match transitionTarget env ctx with
      | none =>
          let (st, phase) := lastLayer env cfg call ctx s.state
          some (s.effect i st, phase)
      | some (coll, id, action) =>
          match s.state.resourceStore.applyTransition ctx.svcKey coll id action
              call.systemTime with
          | (store, none) =>
              let (st, phase) := lastLayer env cfg call ctx { s.state with resourceStore := store }
              some (s.effect i st, phase)
          | (store, some nextState) =>
              some (s.effect i { s.state with resourceStore := store },
                .moved ctx coll id nextState)
  | .moved ctx coll id nextState, _ =>
      match s.state.resourceStore.lookup ctx.svcKey coll id with
      | some resource =>
          some (s, .finished
            (serveResource env call .resourceTransition xGhostTransition nextState resource))
      | none =>
          let (st, phase) := lastLayer env cfg call ctx s.state
          some ({ s with state := st }, phase)
  | .missing ctx, _ =>
      let (st, answer) := missAnswer ctx s.state
      some ({ s with state := st }, .finished answer)
  | .finished _, _ => none

/-- What a step does, one case for each way it can go. -/
inductive ReplayStep {ι : Type} (i : ι) (s : Linearize.Ordered ι AppState) :
    ReplayPhase → Linearize.Ordered ι AppState → ReplayPhase → Prop where
  | refused : contextOf env cfg s.state call = none →
      ReplayStep i s .arrived (s.effect i s.state)
        (.finished (proxyHandler env cfg s.state call).2.1)
  | transitioning {ctx : RequestContext} : Dispatched env cfg s.state call ctx .transitioning →
      ReplayStep i s .arrived (s.effect i s.state) (.finished transitioningAnswer)
  | passthrough {ctx : RequestContext} : Dispatched env cfg s.state call ctx .passthrough →
      ReplayStep i s .arrived (s.effect i s.state)
        (.finished (passthroughAnswer env call ctx))
  | exactHit {ctx : RequestContext} {entry : MockEntry} :
      Dispatched env cfg s.state call ctx .mock →
      ctx.library.findExact call.order ctx.svcKey ctx.method ctx.pathQuery ctx.tenant
        = some entry → entry.request.body = ctx.bodyStr →
      ReplayStep i s .arrived (s.effect i (fireFirstMockServed ctx.resolved.serviceId s.state))
        (.finished (serveEntry env call .exact xGhostMock entry))
  | exactSilent {ctx : RequestContext} :
      Dispatched env cfg s.state call ctx .mock → ExactSilent call ctx →
      ReplayStep i s .arrived s (.sequences ctx)
  | sequenceHit {ctx : RequestContext} {counters : HashMap Text UInt32}
      {resp : SequenceResponse} :
      findSequenceResponse env s.state.sequences s.state.sequenceCounters ctx.method
        ctx.pathQuery = (counters, some resp) →
      ReplayStep i s (.sequences ctx)
        (s.effect i (fireFirstMockServed ctx.resolved.serviceId
          { s.state with sequenceCounters := counters }))
        (.finished (serveSequence env call resp))
  | sequenceSilent {ctx : RequestContext} : SequenceSilent env ctx s.state →
      ReplayStep i s (.sequences ctx) s (.resources ctx)
  | resourceHit {ctx : RequestContext} {resource : ResourceState} :
      GostlyProxy.resourceHit ctx s.state = some resource →
      ReplayStep i s (.resources ctx)
        (s.effect i (fireFirstMockServed ctx.resolved.serviceId s.state))
        (.finished (serveResource env call .resourceStore xGhostResource "true" resource))
  | resourceSilent {ctx : RequestContext} : GostlyProxy.resourceHit ctx s.state = none →
      ReplayStep i s (.resources ctx) s (.transitions ctx)
  | transition {ctx : RequestContext} {coll id action nextState : Text}
      {resource : ResourceState} :
      transitionTarget env ctx = some (coll, id, action) →
      s.state.resourceStore.transition ctx.svcKey coll id action call.systemTime
        = some (resource, nextState) →
      ReplayStep i s (.transitions ctx)
        (s.effect i { s.state with
          resourceStore := s.state.resourceStore.put ctx.svcKey coll id resource })
        (.moved ctx coll id nextState)
  | swap {ctx : RequestContext} {entry : MockEntry} : TransitionSilent env call ctx s.state →
      swapHit env cfg call ctx = some entry →
      ReplayStep i s (.transitions ctx)
        (s.effect i (fireFirstMockServed ctx.resolved.serviceId s.state))
        (.finished (serveEntry env call .smartSwap xGhostSwapMatch entry))
  | miss {ctx : RequestContext} : TransitionSilent env call ctx s.state →
      swapHit env cfg call ctx = none →
      ReplayStep i s (.transitions ctx) (s.effect i s.state) (.missing ctx)
  | readBack {ctx : RequestContext} {coll id nextState : Text} {resource : ResourceState} :
      s.state.resourceStore.lookup ctx.svcKey coll id = some resource →
      ReplayStep i s (.moved ctx coll id nextState) s
        (.finished
          (serveResource env call .resourceTransition xGhostTransition nextState resource))
  | vanished {ctx : RequestContext} {coll id nextState : Text} :
      s.state.resourceStore.lookup ctx.svcKey coll id = none →
      ReplayStep i s (.moved ctx coll id nextState)
        { s with state := (lastLayer env cfg call ctx s.state).1 }
        (lastLayer env cfg call ctx s.state).2
  | unmatched {ctx : RequestContext} :
      ReplayStep i s (.missing ctx) { s with state := (missAnswer ctx s.state).1 }
        (.finished (missAnswer ctx s.state).2)

variable {env cfg call}

theorem contextOf_eq_some {st : AppState} {ctx : RequestContext}
    (h : contextOf env cfg st call = some ctx) :
    Dispatched env cfg st call ctx (ctx.resolved.mode.getD st.mode) := by
  obtain ⟨bytes, hbytes, hctx⟩ := Option.bind_eq_some_iff.mp h
  rw [collectBody] at hbytes
  split at hbytes
  · rename_i hfits
    cases hbytes
    exact ⟨hfits, hctx, rfl⟩
  · cases hbytes

/-- A request without a context is answered without a look at the state. -/
theorem handle_of_contextOf_none {st : AppState} (h : contextOf env cfg st call = none)
    (st' : AppState) :
    handle env cfg st' call = (st', (proxyHandler env cfg st call).2.1) := by
  cases requestCase env cfg st call with
  | tooLarge hlarge =>
      rw [handle_tooLarge hlarge, proxyHandler_tooLarge hlarge]
  | noTenant hfits htenant =>
      rw [handle_noTenant hfits htenant, proxyHandler_noTenant hfits htenant]
  | dispatched ctx mode hdisp =>
      rw [contextOf, collectBody, if_pos hdisp.fits, Option.bind_some, hdisp.context] at h
      cases h

/-- What a request is dispatched to, the layers do not change. -/
theorem Dispatched.frame {st st' : AppState} {ctx : RequestContext} {mode : Mode}
    (h : Dispatched env cfg st call ctx mode) (hframe : MockFrame st st') :
    Dispatched env cfg st' call ctx mode := by
  refine ⟨h.fits, ?_, ?_⟩
  · rw [← h.context]
    unfold requestContext
    rw [hframe.mocks, hframe.upstreams]
  · rw [hframe.mode]
    exact h.mode

theorem Dispatched.contextOf {st : AppState} {ctx : RequestContext} {mode : Mode}
    (h : Dispatched env cfg st call ctx mode) :
    GostlyProxy.contextOf env cfg st call = some ctx := by
  rw [GostlyProxy.contextOf, collectBody, if_pos h.fits, Option.bind_some, h.context]

section Act

variable {ι : Type} {i : ι} {s s' : Linearize.Ordered ι AppState} {phase phase' : ReplayPhase}

/-- The transition layer has held back. -/
theorem replayStep_lastLayer {ctx : RequestContext} (h : TransitionSilent env call ctx s.state) :
    ReplayStep env cfg call i s (.transitions ctx)
      (s.effect i (lastLayer env cfg call ctx s.state).1)
      (lastLayer env cfg call ctx s.state).2 := by
  rw [lastLayer, smartSwapLayer_eq]
  cases hswap : swapHit env cfg call ctx with
  | some entry => exact .swap h hswap
  | none => exact .miss h hswap

theorem replayStep_arrived
    (h : replayAct env cfg call i s .arrived () = some (s', phase')) :
    ReplayStep env cfg call i s .arrived s' phase' := by
  rw [replayAct] at h
  cases hctx : contextOf env cfg s.state call with
  | none =>
      rw [hctx] at h
      cases h
      exact .refused hctx
  | some ctx =>
      have hdisp := contextOf_eq_some hctx
      rw [hctx] at h
      dsimp only at h
      cases hmode : ctx.resolved.mode.getD s.state.mode with
      | mock =>
          rw [hmode] at h hdisp
          dsimp only at h
          rcases exactLayer_cases call ctx with hexact | ⟨entry, hfind, hbody⟩
          · rw [exactLayer_of_silent hexact] at h
            cases h
            exact .exactSilent hdisp hexact
          · rw [exactLayer_of_hit hfind hbody] at h
            cases h
            exact .exactHit hdisp hfind hbody
      | learn =>
          rw [hmode] at h
          cases h
      | transitioning =>
          rw [hmode] at h hdisp
          cases h
          exact .transitioning hdisp
      | passthrough =>
          rw [hmode] at h hdisp
          cases h
          exact .passthrough hdisp

/-- The transition layer holds back: the last layer is asked. -/
theorem replayAct_silent {ctx : RequestContext} (h : TransitionSilent env call ctx s.state) :
    replayAct env cfg call i s (.transitions ctx) ()
      = some (s.effect i (lastLayer env cfg call ctx s.state).1,
          (lastLayer env cfg call ctx s.state).2) := by
  rw [replayAct]
  rcases htarget : transitionTarget env ctx with _ | ⟨coll, id, action⟩
  · rfl
  · dsimp only
    unfold ResourceStore.applyTransition
    rw [h coll id action htarget]

theorem replayStep_transitions {ctx : RequestContext}
    (h : replayAct env cfg call i s (.transitions ctx) () = some (s', phase')) :
    ReplayStep env cfg call i s (.transitions ctx) s' phase' := by
  rcases transitionLayer_cases env call ctx s.state with
    hsilent | ⟨coll, id, action, resource, nextState, htarget, htrans⟩
  · rw [replayAct_silent hsilent] at h
    cases h
    exact replayStep_lastLayer hsilent
  · rw [replayAct, htarget] at h
    dsimp only at h
    unfold ResourceStore.applyTransition at h
    rw [htrans] at h
    cases h
    exact .transition htarget htrans

theorem replayStep_of_act (h : replayAct env cfg call i s phase () = some (s', phase')) :
    ReplayStep env cfg call i s phase s' phase' := by
  cases phase with
  | arrived => exact replayStep_arrived h
  | sequences ctx =>
      rw [replayAct] at h
      rcases hseq : findSequenceResponse env s.state.sequences s.state.sequenceCounters
        ctx.method ctx.pathQuery with ⟨counters, _ | resp⟩
      · have hsilent : SequenceSilent env ctx s.state := by rw [SequenceSilent, hseq]
        rw [sequenceLayer_of_silent hsilent] at h
        cases h
        exact .sequenceSilent hsilent
      · rw [sequenceLayer_of_hit hseq] at h
        cases h
        exact .sequenceHit hseq
  | resources ctx =>
      rw [replayAct] at h
      cases hres : GostlyProxy.resourceHit ctx s.state with
      | none =>
          rw [resourceLayer_of_silent hres] at h
          cases h
          exact .resourceSilent hres
      | some resource =>
          rw [resourceLayer_of_hit hres] at h
          cases h
          exact .resourceHit hres
  | transitions ctx => exact replayStep_transitions h
  | moved ctx coll id nextState =>
      rw [replayAct] at h
      cases hlookup : s.state.resourceStore.lookup ctx.svcKey coll id with
      | some resource =>
          rw [hlookup] at h
          cases h
          exact .readBack hlookup
      | none =>
          rw [hlookup] at h
          cases h
          exact .vanished hlookup
  | missing ctx =>
      cases h
      exact .unmatched
  | finished answer => cases h

theorem act_of_replayStep (h : ReplayStep env cfg call i s phase s' phase') :
    replayAct env cfg call i s phase () = some (s', phase') := by
  cases h with
  | refused hctx =>
      rw [replayAct, hctx]
  | transitioning hdisp | passthrough hdisp =>
      rw [replayAct, hdisp.contextOf]
      dsimp only
      rw [hdisp.mode]
  | exactHit hdisp hfind hbody =>
      rw [replayAct, hdisp.contextOf]
      dsimp only
      rw [hdisp.mode, exactLayer_of_hit hfind hbody]
  | exactSilent hdisp hexact =>
      rw [replayAct, hdisp.contextOf]
      dsimp only
      rw [hdisp.mode, exactLayer_of_silent hexact]
  | sequenceHit hseq => rw [replayAct, sequenceLayer_of_hit hseq]
  | sequenceSilent hseq => rw [replayAct, sequenceLayer_of_silent hseq]
  | resourceHit hres => rw [replayAct, resourceLayer_of_hit hres]
  | resourceSilent hres => rw [replayAct, resourceLayer_of_silent hres]
  | transition htarget htrans =>
      rw [replayAct, htarget]
      dsimp only
      unfold ResourceStore.applyTransition
      rw [htrans]
  | @swap ctx entry htrans hswap =>
      rw [replayAct_silent htrans, lastLayer, smartSwapLayer_eq, hswap]
  | miss htrans hswap =>
      rw [replayAct_silent htrans, lastLayer, smartSwapLayer_eq, hswap]
  | readBack hlookup => rw [replayAct, hlookup]
  | vanished hlookup => rw [replayAct, hlookup]
  | unmatched => rfl

theorem replayAct_iff : replayAct env cfg call i s phase () = some (s', phase')
    ↔ ReplayStep env cfg call i s phase s' phase' :=
  ⟨replayStep_of_act, act_of_replayStep⟩

end Act

section Alone

variable (env cfg call) in
/-- One step of the only request. -/
abbrev aloneStep :
    Threads.World Unit (Linearize.Ordered Unit AppState) ReplayPhase → Unit × Unit →
      Option (Threads.World Unit (Linearize.Ordered Unit AppState) ReplayPhase) :=
  Threads.step fun i => replayAct env cfg call i

variable (env cfg call) in
/-- From here on the request gets an answer, and leaves a state. -/
def Completes (s : Linearize.Ordered Unit AppState) (phase : ReplayPhase)
    (result : AppState × Answer) : Prop :=
  ∃ moves, Machine.exec (aloneStep env cfg call) (.start s phase) moves
    = some (.start ⟨result.1, [()]⟩ (.finished result.2))

variable {s s' : Linearize.Ordered Unit AppState} {phase phase' : ReplayPhase}
  {result : AppState × Answer}

theorem Completes.cons (hstep : ReplayStep env cfg call () s phase s' phase')
    (hrest : Completes env cfg call s' phase' result) : Completes env cfg call s phase result := by
  obtain ⟨moves, hmoves⟩ := hrest
  exact ⟨_, Threads.exec_alone_cons (replayAct_iff.mpr hstep) hmoves⟩

theorem completes_finished (st : AppState) (answer : Answer) :
    Completes env cfg call ⟨st, [()]⟩ (.finished answer) (st, answer) := ⟨[], rfl⟩

/-- The transition layer is asked once the layers before have held back. -/
theorem completes_of_silent {ctx : RequestContext} {st : AppState}
    (hdisp : Dispatched env cfg st call ctx .mock) (hexact : ExactSilent call ctx)
    (hseq : SequenceSilent env ctx st) (hres : resourceHit ctx st = none)
    (hrest : Completes env cfg call (.start st) (.transitions ctx) result) :
    Completes env cfg call (.start st) .arrived result :=
  .cons (.exactSilent hdisp hexact) <| .cons (.sequenceSilent hseq) <|
    .cons (.resourceSilent hres) hrest

/-- Alone, a request in MOCK mode does what the MOCK branch does. -/
theorem completes_mock {ctx : RequestContext} {st : AppState}
    (hdisp : Dispatched env cfg st call ctx .mock) :
    Completes env cfg call (.start st) .arrived (mockBranch env cfg call ctx st) := by
  obtain ⟨st', a, hout⟩ := exists_mockOutcome env cfg call ctx st
  rw [hout.eq]
  cases hout with
  | exact entry hfind hbody =>
      exact .cons (.exactHit hdisp hfind hbody) (completes_finished ..)
  | sequence counters resp hexact hseq =>
      refine .cons (.exactSilent hdisp hexact) ?_
      exact .cons (.sequenceHit hseq) (completes_finished ..)
  | resource resource hexact hseq hres =>
      refine .cons (.exactSilent hdisp hexact) (.cons (.sequenceSilent hseq) ?_)
      exact .cons (.resourceHit hres) (completes_finished ..)
  | transition coll id action resource nextState hexact hseq hres htarget htrans =>
      refine completes_of_silent hdisp hexact hseq hres (.cons (.transition htarget htrans) ?_)
      refine .cons (.readBack ?_) (completes_finished ..)
      show (st.resourceStore.put ctx.svcKey coll id resource).lookup ctx.svcKey coll id = _
      rw [ResourceStore.lookup_put, if_pos rfl]
  | smartSwap entry hexact hseq hres htrans hswap =>
      refine completes_of_silent hdisp hexact hseq hres ?_
      exact .cons (.swap htrans hswap) (completes_finished ..)
  | miss hexact hseq hres htrans hswap =>
      refine completes_of_silent hdisp hexact hseq hres (.cons (.miss htrans hswap) ?_)
      exact .cons .unmatched (completes_finished ..)

/-- Alone, a request that no route records does what the handler does. -/
theorem replay_alone {st : AppState} (hlearn : ∀ ctx, ¬ Dispatched env cfg st call ctx .learn) :
    Completes env cfg call (.start st) .arrived (handle env cfg st call) := by
  cases hctx : contextOf env cfg st call with
  | none =>
      rw [handle_of_contextOf_none hctx]
      exact .cons (.refused hctx) (completes_finished ..)
  | some ctx =>
      have hdisp := contextOf_eq_some hctx
      cases hmode : ctx.resolved.mode.getD st.mode with
      | mock =>
          rw [hmode] at hdisp
          rw [handle_mock hdisp]
          exact completes_mock hdisp
      | learn =>
          rw [hmode] at hdisp
          exact absurd hdisp (hlearn ctx)
      | transitioning =>
          rw [hmode] at hdisp
          rw [handle_transitioning hdisp]
          exact .cons (.transitioning hdisp) (completes_finished ..)
      | passthrough =>
          rw [hmode] at hdisp
          rw [handle_passthrough hdisp]
          exact .cons (.passthrough hdisp) (completes_finished ..)

end Alone

-- =========================================================== the two frames

/-- Sequences answer a path or they do not, whatever was served before. -/
theorem sequenceSilent_iff {ctx : RequestContext} {st : AppState} :
    SequenceSilent env ctx st
      ↔ ∀ seq, matchSequence env st.sequences ctx.method ctx.pathQuery = some seq →
        seq.responses = [] := by
  unfold SequenceSilent findSequenceResponse
  cases hmatch : matchSequence env st.sequences ctx.method ctx.pathQuery with
  | none => simp
  | some seq =>
      cases hresp : seq.responses with
      | nil => simp [hresp]
      | cons resp rest => simp [hresp]

theorem sequenceSilent_frame {ctx : RequestContext} {st st' : AppState}
    (h : SequenceSilent env ctx st) (hframe : MockFrame st st') :
    SequenceSilent env ctx st' := by
  rw [sequenceSilent_iff] at h ⊢
  rw [hframe.sequences]
  exact h

variable (env cfg) in
/-- The resource that a request asks a transition of. -/
def movedKey (st : AppState) (call : Call) : Option ResourceStore.ResourceKey :=
  (contextOf env cfg st call).bind fun ctx =>
    (transitionTarget env ctx).map fun (coll, id, _) => (ctx.svcKey, coll, id)

theorem movedKey_frame {st st' : AppState} (hframe : MockFrame st st') (call : Call) :
    movedKey env cfg st' call = movedKey env cfg st call := by
  unfold movedKey contextOf requestContext
  rw [hframe.mocks, hframe.upstreams]

theorem Dispatched.movedKey {st : AppState} {ctx : RequestContext} {mode : Mode}
    {coll id action : Text} (h : Dispatched env cfg st call ctx mode)
    (htarget : transitionTarget env ctx = some (coll, id, action)) :
    movedKey env cfg st call = some (ctx.svcKey, coll, id) := by
  rw [GostlyProxy.movedKey, h.contextOf, Option.bind_some, htarget]
  rfl

/-- A transition finds its resource. -/
theorem lookup_of_transition {store : ResourceStore} {svc coll id action nextState : Text}
    {now : Nat} {resource : ResourceState}
    (h : store.transition svc coll id action now = some (resource, nextState)) :
    (store.lookup svc coll id).isSome = true := by
  rw [transition_eq] at h
  obtain ⟨r, hr, -⟩ := Option.bind_eq_some_iff.mp h
  rw [hr, Option.isSome_some]

section Later

variable {ι : Type}

variable (env cfg call) in
/-- What a step of a request leaves of the state before: the frame, which
resources there are, and every resource but the one it moves. -/
structure Later (i : ι) (s s' : Linearize.Ordered ι AppState) : Prop where
  frame : MockFrame s.state s'.state
  order : s.order <+: s'.order
  stored : ∀ svc coll id, (s'.state.resourceStore.lookup svc coll id).isSome
    = (s.state.resourceStore.lookup svc coll id).isSome
  moved : ∀ svc coll id, s'.state.resourceStore.lookup svc coll id
      = s.state.resourceStore.lookup svc coll id
    ∨ movedKey env cfg s.state call = some (svc, coll, id) ∧ s'.order = s.order ++ [i]

variable {i : ι} {s : Linearize.Ordered ι AppState}

theorem Later.of_store {s' : Linearize.Ordered ι AppState} (hframe : MockFrame s.state s'.state)
    (horder : s.order <+: s'.order) (hstore : s'.state.resourceStore = s.state.resourceStore) :
    Later env cfg call i s s' := by
  refine ⟨hframe, horder, fun svc coll id => ?_, fun svc coll id => .inl ?_⟩
  · rw [hstore]
  · rw [hstore]

theorem Later.transition {ctx : RequestContext} {mode : Mode} {coll id action nextState : Text}
    {resource : ResourceState} (hdisp : Dispatched env cfg s.state call ctx mode)
    (htarget : transitionTarget env ctx = some (coll, id, action))
    (htrans : s.state.resourceStore.transition ctx.svcKey coll id action call.systemTime
      = some (resource, nextState)) :
    Later env cfg call i s (s.effect i { s.state with
      resourceStore := s.state.resourceStore.put ctx.svcKey coll id resource }) := by
  refine ⟨⟨⟨rfl, rfl, rfl, rfl, ResourceStore.registry_put ..⟩, rfl⟩, List.prefix_append _ _,
    fun svc' coll' id' => ?_, fun svc' coll' id' => ?_⟩
  · show ((s.state.resourceStore.put ctx.svcKey coll id resource).lookup svc' coll' id').isSome
      = _
    rw [ResourceStore.lookup_put]
    split
    · rename_i hkey
      cases hkey
      rw [lookup_of_transition htrans, Option.isSome_some]
    · rfl
  · show (s.state.resourceStore.put ctx.svcKey coll id resource).lookup svc' coll' id' = _ ∨ _
    rw [ResourceStore.lookup_put]
    split
    · rename_i hkey
      cases hkey
      exact .inr ⟨hdisp.movedKey htarget, rfl⟩
    · exact .inl rfl

end Later

end Steps

end GostlyProxy
