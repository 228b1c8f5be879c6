/-
Tenant isolation over whole runs.

The answers a tenant gets in a run are compared with those it gets in the
run from which the requests of all others are deleted. The mocks never
stand in the way, in no layer but the order smart swap takes them in;
what is shared does (`SharedCell`). `isolated_of_clean` is noninterference
for the runs in which no MOCK request of the tenant reads a shared cell
another tenant has written; `polled_by_another` is a run in which one does.

`Agree` relates the two runs: the same setup, the same mocks of the
tenant, the same content in every cell that is not tainted.
-/
import GostlyProxy.Proofs.Footprint
import GostlyProxy.Proofs.Replay

namespace GostlyProxy

open Lib

-- ============================================================ the relation

/-- Two states that a tenant cannot tell apart, off a set of tainted cells. -/
structure Agree (t : Text) (tainted : Set SharedCell) (st st' : AppState) : Prop where
  sequences : st.sequences = st'.sequences
  runtimeConfig : st.runtimeConfig = st'.runtimeConfig
  upstreams : st.upstreams = st'.upstreams
  registry : st.resourceStore.registry = st'.resourceStore.registry
  wellFormed : st.mocks.WellFormed
  wellFormed' : st'.mocks.WellFormed
  mocks : ∀ svc m u,
    (st.mocks.mocksOf svc).lookup (m, u, t) = (st'.mocks.mocksOf svc).lookup (m, u, t)
  shared : ∀ c, c ∉ tainted → st.content c = st'.content c

/-- The context of the same request over another library. -/
def RequestContext.withLibrary (ctx : RequestContext) (lib : MockLibrary) :
    RequestContext := { ctx with library := lib }

section Agree

variable {env : Externals} {cfg : Config} {t : Text} {tainted : Set SharedCell}
  {st st' : AppState} {call : Call} {ctx : RequestContext}

theorem Agree.refl (hwf : st.mocks.WellFormed) : Agree t tainted st st :=
  ⟨rfl, rfl, rfl, rfl, hwf, hwf, fun _ _ _ => rfl, fun _ _ => rfl⟩

/-- The mode is no part of the relation: every request comes with its own. -/
theorem Agree.withMode (h : Agree t tainted st st') (mode mode' : Mode) :
    Agree t tainted { st with mode := mode } { st' with mode := mode' } :=
  ⟨h.sequences, h.runtimeConfig, h.upstreams, h.registry, h.wellFormed, h.wellFormed',
    h.mocks, h.shared⟩

/-- Where the setup is the same a request goes the same way. -/
theorem Agree.dispatched (h : Agree t tainted st st') (hmode : st.mode = st'.mode)
    {mode : Mode} (hdisp : Dispatched env cfg st call ctx mode) :
    Dispatched env cfg st' call (ctx.withLibrary st'.mocks) mode := by
  obtain ⟨tenant, htenant, rfl⟩ := requestContext_some hdisp.context
  refine ⟨hdisp.fits, ?_, hmode ▸ hdisp.mode⟩
  rw [requestContext_eq, htenant, Option.map_some, Option.some.injEq,
    RequestContext.withLibrary, contextFor, contextFor, h.upstreams]

-- =========================================================== layer by layer

section Layers

variable (h : Agree t tainted st st') (hlib : ctx.library = st.mocks)
  (htenant : ctx.tenant = t)
include h hlib htenant

theorem Agree.findExact : (ctx.withLibrary st'.mocks).library.findExact call.order
      ctx.svcKey ctx.method ctx.pathQuery ctx.tenant
    = ctx.library.findExact call.order ctx.svcKey ctx.method ctx.pathQuery ctx.tenant := by
  unfold RequestContext.withLibrary
  rw [hlib, htenant, MockLibrary.findExact_eq h.wellFormed,
    MockLibrary.findExact_eq h.wellFormed', h.mocks]

theorem Agree.exactSilent (hexact : ExactSilent call ctx) :
    ExactSilent call (ctx.withLibrary st'.mocks) := by
  intro entry hfind
  exact hexact entry ((h.findExact hlib htenant).symm.trans hfind)

theorem Agree.mem_entriesForService (e : MockEntry) :
    e ∈ ctx.library.entriesForService call.order ctx.svcKey (some ctx.tenant)
      ↔ e ∈ (ctx.withLibrary st'.mocks).library.entriesForService call.order ctx.svcKey
        (some ctx.tenant) := by
  unfold RequestContext.withLibrary
  rw [hlib, MockLibrary.mem_entriesForService h.wellFormed,
    MockLibrary.mem_entriesForService h.wellFormed', htenant]
  refine and_congr_right fun ht => ?_
  unfold MockEntry.key
  rw [ht, h.mocks]

/-- Smart swap makes the same of the tenant's entries, unless it has two to
choose from and the order is tainted. -/
theorem Agree.swapHit (hexact : ExactSilent call ctx) (hseq : SequenceSilent env ctx st)
    (hres : resourceHit ctx st = none) (htrans : TransitionSilent env call ctx st)
    (hclean : ∀ c, MockReads env cfg call ctx st c → c ∉ tainted) :
    swapHit env cfg call (ctx.withLibrary st'.mocks) = swapHit env cfg call ctx := by
  rw [GostlyProxy.swapHit, GostlyProxy.swapHit]
  by_cases hon : cfg.smartSwapEnabled = true
  case neg => rw [if_neg hon, if_neg hon]
  rw [if_pos hon, if_pos hon, findSmartSwap, findSmartSwap]
  congr 1
  by_cases hunique : ∀ e ∈ (ctx.library.entriesForService call.order ctx.svcKey
      (some ctx.tenant)).reverse, ∀ e' ∈ (ctx.library.entriesForService call.order
      ctx.svcKey (some ctx.tenant)).reverse, fitsRequest env ctx.method ctx.pathQuery e = true
      → fitsRequest env ctx.method ctx.pathQuery e' = true → e = e'
  · refine (find?_eq_of_unique (fun e => ?_) hunique).symm
    rw [List.mem_reverse, List.mem_reverse]
    exact h.mem_entriesForService hlib htenant e
  · simp only [not_forall, List.mem_reverse] at hunique
    obtain ⟨e, hmem, e', hmem', hfits, hfits', hne⟩ := hunique
    have hsame := h.shared _ (hclean _ (.order e e' hexact hseq hres htrans hon hmem hmem'
      hfits hfits' hne))
    unfold AppState.content at hsame
    rw [CellContent.order.injEq] at hsame
    have hentries : (ctx.withLibrary st'.mocks).library.entriesForService call.order
        ctx.svcKey (some ctx.tenant)
        = ctx.library.entriesForService call.order ctx.svcKey (some ctx.tenant) := by
      unfold RequestContext.withLibrary
      rw [hlib, MockLibrary.entriesForService_eq h.wellFormed,
        MockLibrary.entriesForService_eq h.wellFormed', hsame]
    exact congrArg (fun l => List.find? _ (List.reverse l)) hentries

end Layers

/-- The cursors a MOCK request reads give it the same response. -/
theorem Agree.findSequenceResponse (h : Agree t tainted st st')
    (hexact : ExactSilent call ctx)
    (hclean : ∀ c, MockReads env cfg call ctx st c → c ∉ tainted) :
    (findSequenceResponse env st.sequences st.sequenceCounters ctx.method
          ctx.pathQuery).2
        = (findSequenceResponse env st'.sequences st'.sequenceCounters ctx.method
          ctx.pathQuery).2
      ∧ ∀ id, st.sequenceCounters.lookup id = st'.sequenceCounters.lookup id →
        (findSequenceResponse env st.sequences st.sequenceCounters ctx.method
            ctx.pathQuery).1.lookup id
          = (findSequenceResponse env st'.sequences st'.sequenceCounters ctx.method
            ctx.pathQuery).1.lookup id := by
  rw [← h.sequences]
  refine findSequenceResponse_congr fun seq hmatch hne => ?_
  have hsame := h.shared _ (hclean _ (.cursor seq hexact hmatch hne))
  unfold AppState.content at hsame
  rw [CellContent.cursor.injEq] at hsame
  exact hsame

theorem Agree.sequenceSilent (h : Agree t tainted st st') (hexact : ExactSilent call ctx)
    (hclean : ∀ c, MockReads env cfg call ctx st c → c ∉ tainted)
    (hseq : SequenceSilent env ctx st) :
    SequenceSilent env (ctx.withLibrary st'.mocks) st' :=
  (h.findSequenceResponse hexact hclean).1.symm.trans hseq

theorem Agree.lookup (h : Agree t tainted st st') {svc coll id : Text}
    (hclean : SharedCell.resource svc coll id ∉ tainted) :
    st.resourceStore.lookup svc coll id = st'.resourceStore.lookup svc coll id := by
  have hsame := h.shared _ hclean
  rwa [AppState.content, AppState.content, CellContent.resource.injEq] at hsame

/-- The resource a GET reads is the same. -/
theorem Agree.resourceHit (h : Agree t tainted st st') (hexact : ExactSilent call ctx)
    (hseq : SequenceSilent env ctx st)
    (hclean : ∀ c, MockReads env cfg call ctx st c → c ∉ tainted) :
    resourceHit (ctx.withLibrary st'.mocks) st' = resourceHit ctx st := by
  rw [GostlyProxy.resourceHit, GostlyProxy.resourceHit]
  have htarget : resourceTarget (ctx.withLibrary st'.mocks) = resourceTarget ctx := rfl
  rw [htarget]
  cases hname : resourceTarget ctx with
  | none => rfl
  | some target =>
      exact (h.lookup (hclean _ (.lookup target.1 target.2 hexact hseq hname))).symm

/-- The resource a transition moves is the same. -/
theorem Agree.transition (h : Agree t tainted st st') (hexact : ExactSilent call ctx)
    (hseq : SequenceSilent env ctx st) (hres : GostlyProxy.resourceHit ctx st = none)
    (hclean : ∀ c, MockReads env cfg call ctx st c → c ∉ tainted)
    {coll id action : Text} (htarget : transitionTarget env ctx = some (coll, id, action)) :
    st'.resourceStore.transition ctx.svcKey coll id action call.systemTime
      = st.resourceStore.transition ctx.svcKey coll id action call.systemTime :=
  (ResourceStore.transition_congr h.registry (h.lookup
    (hclean _ (.transition coll id action hexact hseq hres htarget)))).symm

theorem Agree.transitionSilent (h : Agree t tainted st st') (hexact : ExactSilent call ctx)
    (hseq : SequenceSilent env ctx st) (hres : GostlyProxy.resourceHit ctx st = none)
    (hclean : ∀ c, MockReads env cfg call ctx st c → c ∉ tainted)
    (htrans : TransitionSilent env call ctx st) :
    TransitionSilent env call (ctx.withLibrary st'.mocks) st' := by
  intro coll id action htarget
  exact (h.transition hexact hseq hres hclean htarget).trans
    (htrans coll id action htarget)

/-- The MOCK branch answers alike in both runs, and leaves the clean cells
agreeing. -/
theorem Agree.mockBranch (h : Agree t tainted st st') (hlib : ctx.library = st.mocks)
    (htenant : ctx.tenant = t)
    (hclean : ∀ c, MockReads env cfg call ctx st c → c ∉ tainted) :
    (mockBranch env cfg call ctx st).2
        = (mockBranch env cfg call (ctx.withLibrary st'.mocks) st').2
      ∧ ∀ c, c ∉ tainted →
        (mockBranch env cfg call ctx st).1.content c
          = (mockBranch env cfg call (ctx.withLibrary st'.mocks) st').1.content c := by
  obtain ⟨st₁, a, hout⟩ := exists_mockOutcome env cfg call ctx st
  rw [hout.eq]
  cases hout with
  | exact entry hfind hbody =>
      have hout' : MockOutcome env cfg call (ctx.withLibrary st'.mocks) st' _ _ :=
        .exact entry ((h.findExact hlib htenant).trans hfind) hbody
      rw [hout'.eq]
      refine ⟨rfl, fun c hc => ?_⟩
      rw [content_fireFirstMockServed, content_fireFirstMockServed, h.shared c hc]
  | sequence counters resp hexact hseq =>
      obtain ⟨hresp, hcounters⟩ := h.findSequenceResponse hexact hclean
      rw [hseq] at hresp hcounters
      have hout' : MockOutcome env cfg call (ctx.withLibrary st'.mocks) st' _ _ :=
        .sequence _ resp (h.exactSilent hlib htenant hexact) (Prod.ext rfl hresp.symm)
      rw [hout'.eq]
      refine ⟨rfl, fun c hc => ?_⟩
      rw [content_fireFirstMockServed, content_fireFirstMockServed]
      have hsame := h.shared c hc
      cases c with
      | resource svc coll id => exact hsame
      | order svc => exact hsame
      | cursor id =>
          unfold AppState.content at hsame
          rw [CellContent.cursor.injEq] at hsame
          exact congrArg CellContent.cursor (hcounters id hsame)
  | resource resource hexact hseq hres =>
      have hout' : MockOutcome env cfg call (ctx.withLibrary st'.mocks) st' _ _ :=
        .resource resource (h.exactSilent hlib htenant hexact)
          (h.sequenceSilent hexact hclean hseq)
          ((h.resourceHit hexact hseq hclean).trans hres)
      rw [hout'.eq]
      refine ⟨rfl, fun c hc => ?_⟩
      rw [content_fireFirstMockServed, content_fireFirstMockServed, h.shared c hc]
  | transition coll id action resource nextState hexact hseq hres htarget htrans =>
      have hout' : MockOutcome env cfg call (ctx.withLibrary st'.mocks) st' _ _ :=
        .transition coll id action resource nextState
          (h.exactSilent hlib htenant hexact) (h.sequenceSilent hexact hclean hseq)
          ((h.resourceHit hexact hseq hclean).trans hres) htarget
          ((h.transition hexact hseq hres hclean htarget).trans htrans)
      rw [hout'.eq]
      exact ⟨rfl, fun c hc => content_put_congr (Or.inr (h.shared c hc))⟩
  | smartSwap entry hexact hseq hres htrans hswap =>
      have hout' : MockOutcome env cfg call (ctx.withLibrary st'.mocks) st' _ _ :=
        .smartSwap entry (h.exactSilent hlib htenant hexact)
          (h.sequenceSilent hexact hclean hseq)
          ((h.resourceHit hexact hseq hclean).trans hres)
          (h.transitionSilent hexact hseq hres hclean htrans)
          ((h.swapHit hlib htenant hexact hseq hres htrans hclean).trans hswap)
      rw [hout'.eq]
      refine ⟨rfl, fun c hc => ?_⟩
      rw [content_fireFirstMockServed, content_fireFirstMockServed, h.shared c hc]
  | miss hexact hseq hres htrans hswap =>
      have hout' : MockOutcome env cfg call (ctx.withLibrary st'.mocks) st' _ _ :=
        .miss (h.exactSilent hlib htenant hexact) (h.sequenceSilent hexact hclean hseq)
          ((h.resourceHit hexact hseq hclean).trans hres)
          (h.transitionSilent hexact hseq hres hclean htrans)
          ((h.swapHit hlib htenant hexact hseq hres htrans hclean).trans hswap)
      rw [hout'.eq]
      refine ⟨?_, fun c hc => ?_⟩
      · unfold missAnswer
        rw [h.runtimeConfig]
      · rw [content_missAnswer, content_missAnswer, h.shared c hc]

-- =============================================================== a request

/-- A request publishes the same in both runs. -/
theorem Agree.published (h : Agree t tainted st st') (hmode : st.mode = st'.mode) :
    published env cfg st call = published env cfg st' call := by
  cases requestCase env cfg st call with
  | tooLarge hlarge =>
      rw [GostlyProxy.published, GostlyProxy.published, collectBody,
        if_neg (Nat.not_le.mpr hlarge)]
      rfl
  | noTenant hfits hnone =>
      rw [GostlyProxy.published, GostlyProxy.published, collectBody, if_pos hfits,
        Option.bind_some, Option.bind_some, requestContext_eq, requestContext_eq, hnone]
      rfl
  | dispatched ctx mode hdisp =>
      rw [hdisp.published, (h.dispatched hmode hdisp).published]
      rfl

/-- A request of the tenant that reads clean cells is answered alike in
both runs, and what it replaces is clean afterwards. -/
theorem Agree.handle (h : Agree t tainted st st') (hmode : st.mode = st'.mode)
    (htenant : resolveTenant call.request.headers call.request.query = some t)
    (hclean : ∀ c, Reads env cfg st call c → c ∉ tainted) :
    (handle env cfg st call).2 = (handle env cfg st' call).2
      ∧ ∀ c, Replaces env cfg st call c ∨ c ∉ tainted →
        (handle env cfg st call).1.content c = (handle env cfg st' call).1.content c := by
  have hkept : ∀ c, ¬ Replaces env cfg st call c →
      Replaces env cfg st call c ∨ c ∉ tainted → st.content c = st'.content c :=
    fun c hno hc => h.shared c (hc.resolve_left hno)
  cases requestCase env cfg st call with
  | tooLarge hlarge =>
      rw [handle_tooLarge hlarge, handle_tooLarge hlarge]
      refine ⟨rfl, fun c hc => hkept c ?_ hc⟩
      rintro ⟨ctx, res, c, hlearn, -⟩
      exact absurd hlearn.fits (Nat.not_le.mpr hlarge)
  | noTenant hfits hnone =>
      rw [htenant] at hnone
      cases hnone
  | dispatched ctx mode hdisp =>
      have hdisp' := h.dispatched hmode hdisp
      cases mode with
      | mock =>
          have ht : ctx.tenant = t := Option.some.inj (hdisp.tenant.symm.trans htenant)
          obtain ⟨hanswer, hshared⟩ := h.mockBranch hdisp.library ht
            fun c hc => hclean c (.mock ctx c hdisp hc)
          rw [handle_mock hdisp, handle_mock hdisp']
          refine ⟨hanswer, fun c hc => hshared c (hc.resolve_left fun hrep => ?_)⟩
          cases (hdisp.replaces hrep).1
      | passthrough =>
          rw [handle_passthrough hdisp, handle_passthrough hdisp']
          refine ⟨rfl, fun c hc => hkept c (fun hrep => ?_) hc⟩
          cases (hdisp.replaces hrep).1
      | transitioning =>
          rw [handle_transitioning hdisp, handle_transitioning hdisp']
          refine ⟨rfl, fun c hc => hkept c (fun hrep => ?_) hc⟩
          cases (hdisp.replaces hrep).1
      | learn =>
          cases hres : call.upstream (forwarded call ctx) with
          | none =>
              rw [handle_noUpstream hdisp hres, handle_noUpstream hdisp' hres]
              refine ⟨rfl, fun c hc => hkept c (fun hrep => ?_) hc⟩
              obtain ⟨-, res, hsome, -⟩ := hdisp.replaces hrep
              rw [hres] at hsome
              cases hsome
          | some res =>
              rw [handle_learn hdisp hres, handle_learn hdisp' hres]
              refine ⟨rfl, fun c hc => content_settle_congr h.registry ?_⟩
              refine hc.imp (fun hrep => ?_) fun hc => content_learnState_congr (h.shared c hc)
              obtain ⟨-, res', hres', hcapture⟩ := hdisp.replaces hrep
              rw [hres, Option.some.injEq] at hres'
              subst hres'
              exact hcapture

/-- A request of the tenant keeps the relation. -/
theorem Agree.own (h : Agree t tainted st st') (hmode : st.mode = st'.mode)
    (htenant : resolveTenant call.request.headers call.request.query = some t)
    (hclean : ∀ c, Reads env cfg st call c → c ∉ tainted) :
    Agree t (tainted \ {c | Replaces env cfg st call c})
      (GostlyProxy.handle env cfg st call).1 (GostlyProxy.handle env cfg st' call).1 where
  sequences := by
    rw [(sameSetup_handle env cfg st call).sequences,
      (sameSetup_handle env cfg st' call).sequences, h.sequences]
  runtimeConfig := by
    rw [(sameSetup_handle env cfg st call).runtimeConfig,
      (sameSetup_handle env cfg st' call).runtimeConfig, h.runtimeConfig]
  upstreams := by
    rw [(sameSetup_handle env cfg st call).upstreams,
      (sameSetup_handle env cfg st' call).upstreams, h.upstreams]
  registry := by
    rw [(sameSetup_handle env cfg st call).registry,
      (sameSetup_handle env cfg st' call).registry, h.registry]
  wellFormed := wellFormed_handle h.wellFormed
  wellFormed' := wellFormed_handle h.wellFormed'
  mocks := by
    intro svc m u
    rw [handle_mocks, handle_mocks, h.published hmode]
    cases GostlyProxy.published env cfg st' call with
    | none => exact h.mocks svc m u
    | some p =>
        dsimp only
        rw [MockLibrary.mocksOf_publish, MockLibrary.mocksOf_publish]
        by_cases hsvc : svc = p.1
        · rw [if_pos hsvc, if_pos hsvc]
          by_cases hkey : (m, u, t) = p.2.key
          · rw [hkey, Finmap.lookup_insert, Finmap.lookup_insert]
          · rw [Finmap.lookup_insert_of_ne _ hkey, Finmap.lookup_insert_of_ne _ hkey,
              h.mocks]
        · rw [if_neg hsvc, if_neg hsvc, h.mocks]
  shared := by
    intro c hc
    refine (h.handle hmode htenant hclean).2 c ?_
    by_cases hrep : Replaces env cfg st call c
    · exact Or.inl hrep
    · exact Or.inr fun htainted => hc ⟨htainted, hrep⟩

/-- A request of another tenant keeps the relation, off what it writes. -/
theorem Agree.other (h : Agree t tainted st st')
    (htenant : resolveTenant call.request.headers call.request.query ≠ some t) :
    Agree t (tainted ∪ {c | Writes env cfg st call c})
      (GostlyProxy.handle env cfg st call).1 st' where
  sequences := (sameSetup_handle env cfg st call).sequences.trans h.sequences
  runtimeConfig := (sameSetup_handle env cfg st call).runtimeConfig.trans h.runtimeConfig
  upstreams := (sameSetup_handle env cfg st call).upstreams.trans h.upstreams
  registry := (sameSetup_handle env cfg st call).registry.trans h.registry
  wellFormed := wellFormed_handle h.wellFormed
  wellFormed' := h.wellFormed'
  mocks := by
    intro svc m u
    rw [← h.mocks, handle_mocks]
    cases hpub : GostlyProxy.published env cfg st call with
    | none => rfl
    | some p =>
        have hkey : (m, u, t) ≠ p.2.key := by
          intro hkey
          rw [← tenant_published hpub] at htenant
          exact htenant (congrArg (fun key => some key.2.2) hkey.symm)
        dsimp only
        rw [MockLibrary.mocksOf_publish]
        by_cases hsvc : svc = p.1
        · rw [if_pos hsvc, Finmap.lookup_insert_of_ne _ hkey, hsvc]
        · rw [if_neg hsvc]
  shared := by
    intro c hc
    rw [content_handle fun hw => hc (Or.inr hw)]
    exact h.shared c fun htainted => hc (Or.inl htainted)

end Agree

-- ============================================================== whole runs

/-- A proxied request, in the mode it is handled in. -/
structure ProxiedRequest where
  mode : Mode
  call : Call

def ofTenant (t : Text) (r : ProxiedRequest) : Bool :=
  resolveTenant r.call.request.headers r.call.request.query = some t

section Runs

variable (env : Externals) (cfg : Config)

/-- One request after another, each answered with a status and a body. -/
def requestStep (st : AppState) (r : ProxiedRequest) :
    AppState × Option (StatusCode × Bytes) :=
  let out := handle env cfg { st with mode := r.mode } r.call
  (out.1, out.2.statusAndBody)

def requestFootprint : Taint.Footprint AppState ProxiedRequest SharedCell where
  reads st r := {c | Reads env cfg { st with mode := r.mode } r.call c}
  writes st r := {c | Writes env cfg { st with mode := r.mode } r.call c}
  replaces st r := {c | Replaces env cfg { st with mode := r.mode } r.call c}

/-- The footprint is right about the handler. -/
theorem respects_agree (t : Text) :
    Taint.Respects (requestStep env cfg) (requestFootprint env cfg) (ofTenant t)
      (Agree t) where
  own := by
    intro tainted st st' r h hvis hclean
    have hmoded := h.withMode r.mode r.mode
    have htenant := of_decide_eq_true hvis
    refine ⟨?_, hmoded.own rfl htenant hclean⟩
    rw [requestStep, requestStep, (hmoded.handle rfl htenant hclean).1]
  other := by
    intro tainted st st' r h hvis
    exact (h.withMode r.mode st'.mode).other (of_decide_eq_false hvis)

/-- Noninterference: from any reachable state, in a run in which no MOCK
request of the tenant reads a cell that another tenant has written, the
tenant is answered as if it were alone. -/
theorem isolated_of_clean (codec : EntryCodec) (t : Text) (st : AppState)
    (requests : List ProxiedRequest) (hst : Reachable env cfg codec st)
    (hclean : Taint.Clean (requestStep env cfg) (requestFootprint env cfg) (ofTenant t) st
      requests) :
    Machine.outputs (requestStep env cfg) (ofTenant t) st requests
      = Machine.outputs (requestStep env cfg) (ofTenant t) st
        (requests.filter (ofTenant t)) :=
  Taint.outputs_purge_of_clean (respects_agree env cfg t) (Agree.refl hst.wellFormed) hclean

end Runs

-- ================================================================ two runs

/-- A request that is answered exactly reads nothing that is shared. -/
theorem AnsweredExactly.not_mockReads {env : Externals} {cfg : Config} {call : Call}
    {ctx : RequestContext} {st : AppState} {e : MockEntry}
    (h : AnsweredExactly call ctx e) (c : SharedCell) :
    ¬ MockReads env cfg call ctx st c := by
  have hhit : ¬ ExactSilent call ctx := fun hexact => hexact e h.find h.body
  rintro (⟨_, hexact⟩ | ⟨_, _, hexact⟩ | ⟨_, _, _, hexact⟩ | ⟨_, _, hexact⟩) <;>
    exact hhit hexact

theorem Dispatched.svcKey {env : Externals} {cfg : Config} {call : Call} {st : AppState}
    {ctx : RequestContext} {mode : Mode} (h : Dispatched env cfg st call ctx mode)
    (hroutes : st.upstreams = []) : ctx.svcKey = globalTenant := by
  obtain ⟨tenant, -, rfl⟩ := requestContext_some h.context
  exact svcKey_contextFor env cfg hroutes _ _ tenant

/-- Without routes only a request in MOCK mode reads anything. -/
theorem Reads.mode {env : Externals} {cfg : Config} {call : Call} {st : AppState}
    {c : SharedCell} (h : Reads env cfg st call c) (hroutes : st.upstreams = []) :
    st.mode = .mock := by
  obtain ⟨ctx, c, hdisp, -⟩ := h
  obtain ⟨tenant, -, rfl⟩ := requestContext_some hdisp.context
  have hmode := hdisp.mode
  rw [resolved_contextFor env cfg hroutes] at hmode
  exact hmode

/-- A GET by a tenant. -/
noncomputable def tenantCall (tenant : HeaderValue) (path : Text)
    (answer : Option UpstreamResponse) : Call :=
  Call.plain default
    { method := "GET", pathAndQuery := some path, headers := [(tenantHeader, tenant)]
      body := [] } answer

def tenantA : HeaderValue := ⟨Text.utf8 "a", by decide⟩
def tenantB : HeaderValue := ⟨Text.utf8 "b", by decide⟩

noncomputable def recordB : Call := tenantCall tenantB "/a" (some byteAnswer)
noncomputable def recordA : Call := tenantCall tenantA "/a" (some jsonAnswer)
noncomputable def replayA : Call := tenantCall tenantA "/a" none

/-- The proxy after the other tenant's recording. -/
noncomputable def recordedB : AppState :=
  { (handle default Config.new recordingProxy recordB).1 with mode := .learn }

theorem reachable_recordedB : Reachable default Config.new sampleCodec recordedB :=
  (reachable_recordingProxy.handle _ _ recordB).setMode _ _ .learn

theorem upstreams_recordedB : recordedB.upstreams = [] :=
  (sameSetup_handle default Config.new recordingProxy recordB).upstreams

/-- The tenant's replay reads nothing that is shared. -/
theorem not_reads_replayA (c : SharedCell) :
    ¬ Reads default Config.new
      { (handle default Config.new recordedB recordA).1 with mode := .mock } replayA c := by
  rintro ⟨ctx, c, hdisp, hreads⟩
  have hrec : Recorded default Config.new recordedB recordA
      (contextFor default Config.new recordedB recordA.request [] "a") jsonAnswer :=
    ⟨dispatched_of_unrouted (Nat.zero_le _) rfl upstreams_recordedB rfl, rfl⟩
  have hrep : Repeated default Config.new recordA
      (contextFor default Config.new recordedB recordA.request [] "a")
      (afterwards default Config.new sampleCodec recordedB recordA
        [.admin (.setMode .mock)]).1 replayA ctx := by
    refine ⟨hdisp, rfl, ?_⟩
    rw [svcKey_contextFor _ _ upstreams_recordedB]
    exact hdisp.svcKey ((sameSetup_handle default Config.new recordedB
      recordA).upstreams.trans upstreams_recordedB)
  have hanswered := answeredExactly_repeated default Config.new reachable_recordedB hrec
    (fun _ hw => absurd hw List.not_mem_nil) hrep
  exact hanswered.not_mockReads c hreads

/-- The other tenant records, then the tenant records and replays: it is
answered as if it were alone. -/
theorem isolated_recordAndReplay :
    let requests : List ProxiedRequest :=
      [⟨.learn, recordB⟩, ⟨.learn, recordA⟩, ⟨.mock, replayA⟩]
    Machine.outputs (requestStep default Config.new) (ofTenant "a") recordingProxy requests
      = Machine.outputs (requestStep default Config.new) (ofTenant "a") recordingProxy
        (requests.filter (ofTenant "a")) := by
  intro requests
  refine isolated_of_clean default Config.new sampleCodec "a" recordingProxy requests
    reachable_recordingProxy ⟨?_, ?_, ?_, trivial⟩
  · intro _ c _ hc
    cases hc
  · intro _ c hreads
    have hmode : Mode.learn = Mode.mock := hreads.mode upstreams_recordedB
    cases hmode
  · intro _ c hreads
    exact absurd hreads (not_reads_replayA c)

def pollSequence : MockSequence where
  id := "export"
  method := "GET"
  uri := "/export"
  responses := [⟨202, ∅, "pending", 0⟩, ⟨200, ∅, "ready", 0⟩]
  loopResponses := false

/-- A proxy in MOCK mode with one sequence. -/
def pollingProxy : AppState :=
  AppState.boot .mock MockLibrary.new [pollSequence] (ResourceStore.new none)

noncomputable def poll (tenant : HeaderValue) : ProxiedRequest :=
  ⟨.mock, tenantCall tenant "/export" none⟩

/-- A poll is answered with the next response of the sequence. -/
theorem requestStep_poll (st : AppState) (tenant : HeaderValue) {name : Text}
    {counters : HashMap Text UInt32} {resp : SequenceResponse}
    (htenant : resolveTenant (poll tenant).call.request.headers
      (poll tenant).call.request.query = some name)
    (hmode : st.mode = .mock) (hroutes : st.upstreams = [])
    (hmocks : st.mocks = MockLibrary.new)
    (hnext : findSequenceResponse default st.sequences st.sequenceCounters ("GET" : Text)
      ("/export" : Text) = (counters, some resp)) (hheaders : resp.headers = ∅) :
    requestStep default Config.new st (poll tenant)
      = (fireFirstMockServed none { st with sequenceCounters := counters },
        some ((StatusCode.fromU16 resp.status).getD StatusCode.ok, Text.utf8 resp.body)) := by
  have hdisp : Dispatched default Config.new st (poll tenant).call _ .mock :=
    dispatched_of_unrouted (Nat.zero_le _) htenant hroutes hmode
  have hexact : ExactSilent (poll tenant).call (contextFor default Config.new st
      (poll tenant).call.request (poll tenant).call.request.body name) := by
    intro entry hfind
    rw [hdisp.library, MockLibrary.findExact_eq (hmocks ▸ MockLibrary.wellFormed_new), hmocks,
      MockLibrary.mocksOf_new, Finmap.lookup_empty] at hfind
    cases hfind
  have hout : MockOutcome default Config.new (poll tenant).call _ st _ _ :=
    .sequence counters resp hexact hnext
  have hstate : ({ st with mode := (poll tenant).mode } : AppState) = st := by
    unfold poll
    rw [← hmode]
  unfold requestStep
  rw [hstate, handle_mock hdisp, hout.eq,
    resolved_contextFor default Config.new hroutes, serveSequence, serveMockResponse,
    buildResponse, hheaders, RandomState.iter_empty]
  rfl

/-- A poll of another tenant moves the cursor: the tenant that polls next
gets the second response, where alone it gets the first. -/
theorem polled_by_another :
    Reachable default Config.new sampleCodec pollingProxy
      ∧ Machine.outputs (requestStep default Config.new) (ofTenant "a") pollingProxy
          [poll tenantB, poll tenantA]
        ≠ Machine.outputs (requestStep default Config.new) (ofTenant "a") pollingProxy
          ([poll tenantB, poll tenantA].filter (ofTenant "a")) := by
  refine ⟨.boot pollingProxy none, ?_⟩
  have hvisible : ofTenant "a" (poll tenantA) = true := rfl
  have hhidden : ofTenant "a" (poll tenantB) = false := rfl
  have halone : (requestStep default Config.new pollingProxy (poll tenantA)).2
      = some (⟨202, by decide⟩, Text.utf8 "pending") := by
    rw [requestStep_poll pollingProxy tenantA rfl rfl rfl rfl rfl rfl]
    rfl
  have hmoved := requestStep_poll pollingProxy tenantB rfl rfl rfl rfl rfl rfl
  have hafter : (requestStep default Config.new
      (requestStep default Config.new pollingProxy (poll tenantB)).1 (poll tenantA)).2
      = some (⟨200, by decide⟩, Text.utf8 "ready") := by
    rw [hmoved, requestStep_poll _ tenantA rfl rfl rfl rfl rfl rfl]
    rfl
  rw [List.filter_cons_of_neg (by rw [hhidden]; exact Bool.false_ne_true),
    List.filter_cons_of_pos hvisible, List.filter_nil, Machine.outputs_invisible hhidden,
    Machine.outputs_visible hvisible, Machine.outputs_visible hvisible, halone, hafter]
  intro h
  rw [List.cons.injEq] at h
  exact absurd h.1 (by decide)

end GostlyProxy
