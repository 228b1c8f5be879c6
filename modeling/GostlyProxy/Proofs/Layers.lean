/-
What the MOCK branch does with a request, layer by layer.

# One statement for five layers

`MockOutcome` lists the six ways the branch can go: which layer answers,
that the layers before it held back, and the state and answer that come of
it. `exists_mockOutcome` says that these are all, `MockOutcome.eq` that
each of them decides the result. A proof about the branch is then a case
analysis here, and a proof about two runs is a case analysis in one of
them and the same constructor in the other.

A layer that holds back leaves the state alone. That is not the shape of
the source, where the sequence layer hands its counters on and a
transition is written before its resource is read back: it rests on
`findSequenceResponse_of_none` and on the read after the write
(`lookup_put`).
-/
import GostlyProxy.Model.Handler
import GostlyProxy.Proofs.ResourceStore

namespace GostlyProxy

open Lib

-- ========================================================= what each reads

/-- A sequence that does not answer does not count either. -/
theorem findSequenceResponse_of_none {env : Externals} {seqs : List MockSequence}
    {counters : HashMap Text UInt32} {method uri : Text}
    (h : (findSequenceResponse env seqs counters method uri).2 = none) :
    findSequenceResponse env seqs counters method uri = (counters, none) := by
  rw [findSequenceResponse] at h ⊢
  cases hmatch : matchSequence env seqs method uri with
  | none => rfl
  | some seq =>
      rw [hmatch] at h
      dsimp only at h ⊢
      cases hidx : seq.responses[min ((counters.lookup seq.id).getD 0).toNat
          (seq.responses.length - 1)]? with
      | none => rfl
      | some resp =>
          rw [hidx] at h
          cases h

section Layers

variable (env : Externals) (cfg : Config) (call : Call) (ctx : RequestContext)

/-- The resource a GET names. -/
def resourceTarget : Option (Text × Text) :=
  if ctx.method = "GET" then parseCollectionAndId ctx.pathQuery else none

/-- The captured resource a GET finds. -/
def resourceHit (st : AppState) : Option ResourceState :=
  (resourceTarget ctx).bind fun (coll, id) => st.resourceStore.lookup ctx.svcKey coll id

/-- The exact layer holds back: no entry, or one with another body. -/
def ExactSilent : Prop :=
  ∀ entry, ctx.library.findExact call.order ctx.svcKey ctx.method ctx.pathQuery
    ctx.tenant = some entry → entry.request.body ≠ ctx.bodyStr

def SequenceSilent (st : AppState) : Prop :=
  (findSequenceResponse env st.sequences st.sequenceCounters ctx.method
    ctx.pathQuery).2 = none

def TransitionSilent (st : AppState) : Prop :=
  ∀ coll id action, transitionTarget env ctx = some (coll, id, action) →
    st.resourceStore.transition ctx.svcKey coll id action call.systemTime = none

/-- What smart swap makes of the tenant's entries. -/
def swapHit : Option MockEntry :=
  if cfg.smartSwapEnabled then
    findSmartSwap env call.order
      (ctx.library.entriesForService call.order ctx.svcKey (some ctx.tenant))
      ctx.method ctx.pathQuery ctx.bodyStr
  else none

/-- A sequence's response, as it is served. -/
def serveSequence (resp : SequenceResponse) : Answer :=
  .served .sequence (serveMockResponse env call.order resp.status resp.headers
    (Text.utf8 resp.body) resp.latencyMs xGhostSequence "true")

-- =========================================================== the six ways

/-- The ways the MOCK branch can go from a state. -/
inductive MockOutcome (st : AppState) : AppState → Answer → Prop
  | exact (entry : MockEntry)
      (hfind : ctx.library.findExact call.order ctx.svcKey ctx.method ctx.pathQuery
        ctx.tenant = some entry)
      (hbody : entry.request.body = ctx.bodyStr) :
      MockOutcome st (fireFirstMockServed ctx.resolved.serviceId st)
        (serveEntry env call .exact xGhostMock entry)
  | sequence (counters : HashMap Text UInt32) (resp : SequenceResponse)
      (hexact : ExactSilent call ctx)
      (hseq : findSequenceResponse env st.sequences st.sequenceCounters ctx.method
        ctx.pathQuery = (counters, some resp)) :
      MockOutcome st
        (fireFirstMockServed ctx.resolved.serviceId
          { st with sequenceCounters := counters })
        (serveSequence env call resp)
  | resource (resource : ResourceState)
      (hexact : ExactSilent call ctx) (hseq : SequenceSilent env ctx st)
      (hres : resourceHit ctx st = some resource) :
      MockOutcome st (fireFirstMockServed ctx.resolved.serviceId st)
        (serveResource env call .resourceStore xGhostResource "true" resource)
  | transition (coll id action : Text) (resource : ResourceState) (nextState : Text)
      (hexact : ExactSilent call ctx) (hseq : SequenceSilent env ctx st)
      (hres : resourceHit ctx st = none)
      (htarget : transitionTarget env ctx = some (coll, id, action))
      (htrans : st.resourceStore.transition ctx.svcKey coll id action call.systemTime
        = some (resource, nextState)) :
      MockOutcome st
        { st with
          resourceStore := st.resourceStore.put ctx.svcKey coll id resource }
        (serveResource env call .resourceTransition xGhostTransition nextState resource)
  | smartSwap (entry : MockEntry)
      (hexact : ExactSilent call ctx) (hseq : SequenceSilent env ctx st)
      (hres : resourceHit ctx st = none) (htrans : TransitionSilent env call ctx st)
      (hswap : swapHit env cfg call ctx = some entry) :
      MockOutcome st (fireFirstMockServed ctx.resolved.serviceId st)
        (serveEntry env call .smartSwap xGhostSwapMatch entry)
  | miss
      (hexact : ExactSilent call ctx) (hseq : SequenceSilent env ctx st)
      (hres : resourceHit ctx st = none) (htrans : TransitionSilent env call ctx st)
      (hswap : swapHit env cfg call ctx = none) :
      MockOutcome st (missAnswer ctx st).1 (missAnswer ctx st).2

-- ======================================================= layer by layer

variable {env cfg call ctx}

theorem exactLayer_of_silent {st : AppState} (h : ExactSilent call ctx) :
    exactLayer env call ctx st = (st, none) := by
  unfold exactLayer
  cases hfind : ctx.library.findExact call.order ctx.svcKey ctx.method ctx.pathQuery
      ctx.tenant with
  | none => rfl
  | some entry => simp only [if_neg (h entry hfind)]

theorem exactLayer_of_hit {st : AppState} {entry : MockEntry}
    (hfind : ctx.library.findExact call.order ctx.svcKey ctx.method ctx.pathQuery
      ctx.tenant = some entry) (hbody : entry.request.body = ctx.bodyStr) :
    exactLayer env call ctx st
      = (fireFirstMockServed ctx.resolved.serviceId st,
          some (serveEntry env call .exact xGhostMock entry)) := by
  unfold exactLayer
  rw [hfind]
  simp only [if_pos hbody]

theorem sequenceLayer_of_silent {st : AppState} (h : SequenceSilent env ctx st) :
    sequenceLayer env call ctx st = (st, none) := by
  unfold sequenceLayer
  rw [findSequenceResponse_of_none h]

theorem sequenceLayer_of_hit {st : AppState} {counters : HashMap Text UInt32}
    {resp : SequenceResponse}
    (hseq : findSequenceResponse env st.sequences st.sequenceCounters ctx.method
      ctx.pathQuery = (counters, some resp)) :
    sequenceLayer env call ctx st
      = (fireFirstMockServed ctx.resolved.serviceId
            { st with sequenceCounters := counters },
          some (serveSequence env call resp)) := by
  unfold sequenceLayer
  rw [hseq]
  rfl

/-- The resource layer is the answer of `resourceHit`. -/
theorem resourceLayer_eq (st : AppState) :
    resourceLayer env call ctx st
      = match resourceHit ctx st with
        | none => (st, none)
        | some resource => (fireFirstMockServed ctx.resolved.serviceId st,
            some (serveResource env call .resourceStore xGhostResource "true"
              resource)) := by
  unfold resourceLayer
  rw [resourceHit, resourceTarget]
  by_cases hget : ctx.method = "GET"
  · rw [if_pos hget, if_pos hget]
    rcases parseCollectionAndId ctx.pathQuery with _ | ⟨coll, id⟩
    · rfl
    · rfl
  · rw [if_neg hget, if_neg hget]
    rfl

theorem resourceLayer_of_silent {st : AppState} (h : resourceHit ctx st = none) :
    resourceLayer env call ctx st = (st, none) := by
  rw [resourceLayer_eq, h]

theorem resourceLayer_of_hit {st : AppState} {resource : ResourceState}
    (h : resourceHit ctx st = some resource) :
    resourceLayer env call ctx st
      = (fireFirstMockServed ctx.resolved.serviceId st,
          some (serveResource env call .resourceStore xGhostResource "true"
            resource)) := by
  rw [resourceLayer_eq, h]

theorem transitionLayer_of_silent {st : AppState}
    (h : TransitionSilent env call ctx st) :
    transitionLayer env call ctx st = (st, none) := by
  unfold transitionLayer
  rcases htarget : transitionTarget env ctx with _ | ⟨coll, id, action⟩
  · rfl
  · dsimp only
    unfold ResourceStore.applyTransition
    rw [h coll id action htarget]

theorem transitionLayer_of_hit {st : AppState} {coll id action : Text}
    {resource : ResourceState} {nextState : Text}
    (htarget : transitionTarget env ctx = some (coll, id, action))
    (htrans : st.resourceStore.transition ctx.svcKey coll id action call.systemTime
      = some (resource, nextState)) :
    transitionLayer env call ctx st
      = ({ st with
            resourceStore := st.resourceStore.put ctx.svcKey coll id resource },
          some (serveResource env call .resourceTransition xGhostTransition nextState
            resource)) := by
  unfold transitionLayer
  rw [htarget]
  dsimp only
  unfold ResourceStore.applyTransition
  rw [htrans]
  dsimp only
  rw [ResourceStore.lookup_put, if_pos rfl]
  rfl

/-- The smart swap layer is the answer of `swapHit`. -/
theorem smartSwapLayer_eq (st : AppState) :
    smartSwapLayer env cfg call ctx st
      = match swapHit env cfg call ctx with
        | none => (st, none)
        | some entry => (fireFirstMockServed ctx.resolved.serviceId st,
            some (serveEntry env call .smartSwap xGhostSwapMatch entry)) := by
  unfold smartSwapLayer
  rw [swapHit]
  cases cfg.smartSwapEnabled with
  | true => rfl
  | false => rfl

variable (env call ctx) in
theorem transitionLayer_cases (st : AppState) :
    TransitionSilent env call ctx st
      ∨ ∃ coll id action resource nextState,
        transitionTarget env ctx = some (coll, id, action)
          ∧ st.resourceStore.transition ctx.svcKey coll id action call.systemTime
            = some (resource, nextState) := by
  rcases htarget : transitionTarget env ctx with _ | ⟨coll, id, action⟩
  · refine Or.inl fun coll id action h => ?_
    rw [htarget] at h
    cases h
  · rcases htrans : st.resourceStore.transition ctx.svcKey coll id action
      call.systemTime with _ | ⟨resource, nextState⟩
    · refine Or.inl fun coll' id' action' h => ?_
      rw [htarget] at h
      cases h
      exact htrans
    · exact Or.inr ⟨coll, id, action, resource, nextState, rfl, htrans⟩

variable (call ctx) in
theorem exactLayer_cases :
    ExactSilent call ctx
      ∨ ∃ entry, ctx.library.findExact call.order ctx.svcKey ctx.method ctx.pathQuery
          ctx.tenant = some entry ∧ entry.request.body = ctx.bodyStr := by
  by_cases h : ExactSilent call ctx
  · exact Or.inl h
  · simp only [ExactSilent, not_forall, not_not] at h
    obtain ⟨entry, hfind, hbody⟩ := h
    exact Or.inr ⟨entry, hfind, hbody⟩

-- ============================================================ the branch

theorem Layer.orElse_of_some {first second : Layer} {st st' : AppState} {a : Answer}
    (h : first st = (st', some a)) : first.orElse second st = (st', some a) := by
  unfold Layer.orElse
  rw [h]

theorem Layer.orElse_of_none {first second : Layer} {st st' : AppState}
    (h : first st = (st', none)) : first.orElse second st = second st' := by
  unfold Layer.orElse
  rw [h]

/-- An outcome is the result of the branch. -/
theorem MockOutcome.eq {st st' : AppState} {a : Answer}
    (h : MockOutcome env cfg call ctx st st' a) :
    mockBranch env cfg call ctx st = (st', a) := by
  rw [mockBranch, mockLayers]
  cases h with
  | exact entry hfind hbody =>
      rw [Layer.orElse_of_some (exactLayer_of_hit hfind hbody)]
  | sequence counters resp hexact hseq =>
      rw [Layer.orElse_of_none (exactLayer_of_silent hexact),
        Layer.orElse_of_some (sequenceLayer_of_hit hseq)]
  | resource resource hexact hseq hres =>
      rw [Layer.orElse_of_none (exactLayer_of_silent hexact),
        Layer.orElse_of_none (sequenceLayer_of_silent hseq),
        Layer.orElse_of_some (resourceLayer_of_hit hres)]
  | transition coll id action resource nextState hexact hseq hres htarget htrans =>
      rw [Layer.orElse_of_none (exactLayer_of_silent hexact),
        Layer.orElse_of_none (sequenceLayer_of_silent hseq),
        Layer.orElse_of_none (resourceLayer_of_silent hres),
        Layer.orElse_of_some (transitionLayer_of_hit htarget htrans)]
  | smartSwap entry hexact hseq hres htrans hswap =>
      rw [Layer.orElse_of_none (exactLayer_of_silent hexact),
        Layer.orElse_of_none (sequenceLayer_of_silent hseq),
        Layer.orElse_of_none (resourceLayer_of_silent hres),
        Layer.orElse_of_none (transitionLayer_of_silent htrans),
        smartSwapLayer_eq, hswap]
  | miss hexact hseq hres htrans hswap =>
      rw [Layer.orElse_of_none (exactLayer_of_silent hexact),
        Layer.orElse_of_none (sequenceLayer_of_silent hseq),
        Layer.orElse_of_none (resourceLayer_of_silent hres),
        Layer.orElse_of_none (transitionLayer_of_silent htrans),
        smartSwapLayer_eq, hswap]

variable (env cfg call ctx) in
/-- The branch always goes one of the six ways. -/
theorem exists_mockOutcome (st : AppState) :
    ∃ st' a, MockOutcome env cfg call ctx st st' a := by
  rcases exactLayer_cases call ctx with
    hexact | ⟨entry, hfind, hbody⟩
  case inr => exact ⟨_, _, .exact entry hfind hbody⟩
  rcases hrun : findSequenceResponse env st.sequences st.sequenceCounters ctx.method
    ctx.pathQuery with ⟨counters, _ | resp⟩
  case some => exact ⟨_, _, .sequence counters resp hexact hrun⟩
  have hseq : SequenceSilent env ctx st := by rw [SequenceSilent, hrun]
  cases hres : resourceHit ctx st with
  | some resource => exact ⟨_, _, .resource resource hexact hseq hres⟩
  | none =>
      rcases transitionLayer_cases env call ctx st with
        htrans | ⟨coll, id, action, resource, nextState, htarget, htrans⟩
      case inr =>
        exact ⟨_, _, .transition coll id action resource nextState hexact hseq hres
          htarget htrans⟩
      cases hswap : swapHit env cfg call ctx with
      | some entry => exact ⟨_, _, .smartSwap entry hexact hseq hres htrans hswap⟩
      | none => exact ⟨_, _, .miss hexact hseq hres htrans hswap⟩

variable (env cfg call ctx)

/-- An exact answer comes from the exact layer. -/
theorem mockBranch_exact_iff (st : AppState) (s : Served) :
    (mockBranch env cfg call ctx st).2 = .served .exact s
      ↔ ∃ entry, ctx.library.findExact call.order ctx.svcKey ctx.method ctx.pathQuery
            ctx.tenant = some entry
          ∧ entry.request.body = ctx.bodyStr
          ∧ serveEntry env call .exact xGhostMock entry = .served .exact s := by
  constructor
  · intro h
    obtain ⟨st', a, hout⟩ := exists_mockOutcome env cfg call ctx st
    rw [hout.eq] at h
    cases hout with
    | exact entry hfind hbody => exact ⟨entry, hfind, hbody, h⟩
    | sequence => cases h
    | resource => cases h
    | transition => cases h
    | smartSwap => cases h
    | miss => cases h
  · rintro ⟨entry, hfind, hbody, hserve⟩
    rw [(MockOutcome.exact entry hfind hbody : MockOutcome env cfg call ctx st _ _).eq]
    exact hserve

end Layers

end GostlyProxy
