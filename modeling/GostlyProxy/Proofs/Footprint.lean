/-
What the tenants of a proxy share, and what a request touches of it.

# The cells

The mocks are kept under keys that carry the tenant. Three things are not:
the cursor of a sequence, a captured resource, and the hash map that holds
the mocks of one service, whose iteration order smart swap goes by.
`SharedCell` names them, `AppState.content` is what a state holds in one.

# The footprint

`MockReads` lists the cells that decide a MOCK answer, layer by layer in
the way of `MockOutcome`, and `MockWrites` those the branch changes. A
recording changes the hash map of its service and replaces the resource it
captures. `content_handle` is the frame: what is not in the footprint
stays.
-/
import GostlyProxy.Lib.Taint
import GostlyProxy.Proofs.Handler
import GostlyProxy.Proofs.Library

namespace GostlyProxy

open Lib

-- ============================================================== the cells

inductive SharedCell where
  | cursor (sequenceId : Text)
  | resource (svc coll id : Text)
  | order (svc : Text)

/-- What a cell can hold. -/
inductive CellContent where
  | cursor (position : Option UInt32)
  | resource (state : Option ResourceState)
  | order (mocks : ServiceMocks)

def AppState.content (st : AppState) : SharedCell → CellContent
  | .cursor id => .cursor (st.sequenceCounters.lookup id)
  | .resource svc coll id => .resource (st.resourceStore.lookup svc coll id)
  | .order svc => .order (st.mocks.mocksOf svc)

@[simp] theorem content_fireFirstMockServed (serviceId : Option Text) (st : AppState)
    (c : SharedCell) : (fireFirstMockServed serviceId st).content c = st.content c := by
  cases c <;> rfl

@[simp] theorem content_missAnswer (ctx : RequestContext) (st : AppState)
    (c : SharedCell) : (missAnswer ctx st).1.content c = st.content c := by
  cases c <;> rfl

/-- Two states that agree on a cell agree on it after the same put, and on
the cell of the put they agree anyway. -/
theorem content_put_congr {st st' : AppState} {svc coll id : Text} {r : ResourceState}
    {c : SharedCell}
    (h : c = .resource svc coll id ∨ st.content c = st'.content c) :
    ({ st with resourceStore := st.resourceStore.put svc coll id r } : AppState).content c
      = ({ st' with resourceStore := st'.resourceStore.put svc coll id r } :
        AppState).content c := by
  cases c with
  | cursor sequenceId => exact h.resolve_left fun hc => by cases hc
  | order svc' => exact h.resolve_left fun hc => by cases hc
  | resource svc' coll' id' =>
      rw [AppState.content, AppState.content, ResourceStore.lookup_put,
        ResourceStore.lookup_put]
      by_cases hkey : (svc', coll', id') = (svc, coll, id)
      · rw [if_pos hkey, if_pos hkey]
      · rw [if_neg hkey, if_neg hkey]
        refine h.resolve_left fun hc => hkey ?_
        cases hc
        rfl

theorem content_put_of_ne {st : AppState} {svc coll id : Text} {r : ResourceState}
    {c : SharedCell} (hne : c ≠ .resource svc coll id) :
    ({ st with resourceStore := st.resourceStore.put svc coll id r } : AppState).content c
      = st.content c := by
  cases c with
  | cursor sequenceId => rfl
  | order svc' => rfl
  | resource svc' coll' id' =>
      rw [AppState.content, ResourceStore.lookup_put, if_neg]
      · rfl
      · intro hkey
        cases hkey
        exact hne rfl

-- ============================================================== sequences

/-- Off the cursor of the sequence that fits, a lookup changes no cursor. -/
theorem lookup_findSequenceResponse {env : Externals} {seqs : List MockSequence}
    {method uri id : Text} (counters : HashMap Text UInt32)
    (h : ∀ seq, matchSequence env seqs method uri = some seq → seq.responses ≠ [] →
      id ≠ seq.id) :
    (findSequenceResponse env seqs counters method uri).1.lookup id
      = counters.lookup id := by
  rw [findSequenceResponse]
  cases hmatch : matchSequence env seqs method uri with
  | none => rfl
  | some seq =>
      dsimp only
      cases hidx : seq.responses[min ((counters.lookup seq.id).getD 0).toNat
          (seq.responses.length - 1)]? with
      | none => rfl
      | some resp =>
          refine Finmap.lookup_insert_of_ne _ (h seq hmatch ?_)
          intro hnil
          rw [hnil] at hidx
          cases hidx

/-- Two sets of cursors that agree on the sequence that fits give the same
response, and agree afterwards where they agreed. -/
theorem findSequenceResponse_congr {env : Externals} {seqs : List MockSequence}
    {counters counters' : HashMap Text UInt32} {method uri : Text}
    (h : ∀ seq, matchSequence env seqs method uri = some seq → seq.responses ≠ [] →
      counters.lookup seq.id = counters'.lookup seq.id) :
    (findSequenceResponse env seqs counters method uri).2
        = (findSequenceResponse env seqs counters' method uri).2
      ∧ ∀ id, counters.lookup id = counters'.lookup id →
        (findSequenceResponse env seqs counters method uri).1.lookup id
          = (findSequenceResponse env seqs counters' method uri).1.lookup id := by
  rw [findSequenceResponse, findSequenceResponse]
  cases hmatch : matchSequence env seqs method uri with
  | none => exact ⟨rfl, fun _ hid => hid⟩
  | some seq =>
      dsimp only
      by_cases hnil : seq.responses = []
      · rw [hnil]
        exact ⟨rfl, fun _ hid => hid⟩
      · rw [h seq hmatch hnil]
        cases seq.responses[min ((counters'.lookup seq.id).getD 0).toNat
            (seq.responses.length - 1)]? with
        | none => exact ⟨rfl, fun _ hid => hid⟩
        | some resp =>
            refine ⟨rfl, fun id hid => ?_⟩
            dsimp only
            by_cases hself : id = seq.id
            · rw [hself, Finmap.lookup_insert, Finmap.lookup_insert]
            · rw [Finmap.lookup_insert_of_ne _ hself, Finmap.lookup_insert_of_ne _ hself,
                hid]

-- ============================================================ MOCK, by layer

section Mock

variable (env : Externals) (cfg : Config) (call : Call) (ctx : RequestContext)
  (st : AppState)

/-- The cells that decide the answer of the MOCK branch. The order of the
mocks does when smart swap has two entries to choose from. -/
inductive MockReads : SharedCell → Prop
  | cursor (seq : MockSequence) (hexact : ExactSilent call ctx)
      (hmatch : matchSequence env st.sequences ctx.method ctx.pathQuery = some seq)
      (hne : seq.responses ≠ []) : MockReads (.cursor seq.id)
  | lookup (coll id : Text) (hexact : ExactSilent call ctx)
      (hseq : SequenceSilent env ctx st) (htarget : resourceTarget ctx = some (coll, id)) :
      MockReads (.resource ctx.svcKey coll id)
  | transition (coll id action : Text) (hexact : ExactSilent call ctx)
      (hseq : SequenceSilent env ctx st) (hres : resourceHit ctx st = none)
      (htarget : transitionTarget env ctx = some (coll, id, action)) :
      MockReads (.resource ctx.svcKey coll id)
  | order (e e' : MockEntry) (hexact : ExactSilent call ctx)
      (hseq : SequenceSilent env ctx st) (hres : resourceHit ctx st = none)
      (htrans : TransitionSilent env call ctx st) (hon : cfg.smartSwapEnabled = true)
      (hmem : e ∈ ctx.library.entriesForService call.order ctx.svcKey (some ctx.tenant))
      (hmem' : e' ∈ ctx.library.entriesForService call.order ctx.svcKey (some ctx.tenant))
      (hfits : fitsRequest env ctx.method ctx.pathQuery e = true)
      (hfits' : fitsRequest env ctx.method ctx.pathQuery e' = true) (hne : e ≠ e') :
      MockReads (.order ctx.svcKey)

/-- The cells the MOCK branch changes. -/
inductive MockWrites : SharedCell → Prop
  | cursor (seq : MockSequence) (hexact : ExactSilent call ctx)
      (hmatch : matchSequence env st.sequences ctx.method ctx.pathQuery = some seq)
      (hne : seq.responses ≠ []) : MockWrites (.cursor seq.id)
  | transition (coll id action : Text) (moved : ResourceState × Text)
      (hexact : ExactSilent call ctx) (hseq : SequenceSilent env ctx st)
      (hres : resourceHit ctx st = none)
      (htarget : transitionTarget env ctx = some (coll, id, action))
      (htrans : st.resourceStore.transition ctx.svcKey coll id action call.systemTime
        = some moved) : MockWrites (.resource ctx.svcKey coll id)

variable {env cfg call ctx st}

/-- The MOCK branch keeps what it does not write. -/
theorem content_mockBranch {c : SharedCell} (h : ¬ MockWrites env call ctx st c) :
    (mockBranch env cfg call ctx st).1.content c = st.content c := by
  obtain ⟨st', a, hout⟩ := exists_mockOutcome env cfg call ctx st
  rw [hout.eq]
  cases hout with
  | exact => exact content_fireFirstMockServed _ _ c
  | resource => exact content_fireFirstMockServed _ _ c
  | smartSwap => exact content_fireFirstMockServed _ _ c
  | miss => exact content_missAnswer _ _ c
  | transition coll id action resource nextState hexact hseq hres htarget htrans =>
      refine content_put_of_ne fun hc => h ?_
      rw [hc]
      exact .transition coll id action _ hexact hseq hres htarget htrans
  | sequence counters resp hexact hseq =>
      rw [content_fireFirstMockServed]
      cases c with
      | resource svc coll id => rfl
      | order svc => rfl
      | cursor id =>
          have hother : ∀ seq, matchSequence env st.sequences ctx.method ctx.pathQuery
              = some seq → seq.responses ≠ [] → id ≠ seq.id := by
            rintro seq hmatch hne rfl
            exact h (.cursor seq hexact hmatch hne)
          have hkept := lookup_findSequenceResponse st.sequenceCounters hother
          rw [hseq] at hkept
          exact congrArg CellContent.cursor hkept

end Mock

-- ================================================================== LEARN

/-- The cell a spawned task replaces: the captured resource's. -/
def Spawned.cell : Spawned → Option SharedCell
  | .captureCreate svcKey coll body _ _ =>
      (extractId body coll none).map fun id => .resource svcKey coll id
  | _ => none

theorem content_runSpawned {now : Nat} {st : AppState} {task : Spawned} {c : SharedCell}
    (h : task.cell ≠ some c) : (runSpawned now st task).content c = st.content c := by
  cases task with
  | captureCreate svcKey coll body ct status =>
      rw [runSpawned]
      rcases st.resourceStore.captureCreate_cases svcKey coll body none ct status now with
        ⟨-, hstore⟩ | ⟨id, hid, hstore⟩
      · rw [hstore]
      · rw [hstore]
        refine content_put_of_ne fun hc => h ?_
        rw [Spawned.cell, hid, hc]
        rfl
  | appendTrafficLog svcId entry => rfl
  | appendMockLog svcId entry => rfl
  | appendWideEvent serviceId method uri status latency workload => rfl

/-- A task leaves two states that agree on a cell agreeing on it, and
makes them agree on the cell it replaces. -/
theorem content_runSpawned_congr {now : Nat} {st st' : AppState} {task : Spawned}
    {c : SharedCell} (hreg : st.resourceStore.registry = st'.resourceStore.registry)
    (h : task.cell = some c ∨ st.content c = st'.content c) :
    (runSpawned now st task).content c = (runSpawned now st' task).content c := by
  cases task with
  | captureCreate svcKey coll body ct status =>
      rw [runSpawned, runSpawned, ResourceStore.captureCreate, ResourceStore.captureCreate]
      rw [Spawned.cell] at h
      cases hid : extractId body coll none with
      | none =>
          rw [hid] at h
          exact h.resolve_left fun hc => by cases hc
      | some id =>
          rw [hid, Option.map_some, Option.some.injEq] at h
          rw [hreg]
          exact content_put_congr (h.imp_left Eq.symm)
  | appendTrafficLog svcId entry => exact h.resolve_left fun hc => by cases hc
  | appendMockLog svcId entry => exact h.resolve_left fun hc => by cases hc
  | appendWideEvent serviceId method uri status latency workload =>
      exact h.resolve_left fun hc => by cases hc

theorem content_settle {now : Nat} {st : AppState} {tasks : List Spawned}
    {c : SharedCell} (h : ∀ task ∈ tasks, task.cell ≠ some c) :
    (settle now st tasks).content c = st.content c := by
  induction tasks generalizing st with
  | nil => rfl
  | cons task tasks ih =>
      unfold settle
      rw [List.foldl_cons]
      exact (ih fun t ht => h t (List.mem_cons_of_mem _ ht)).trans
        (content_runSpawned (h task (List.mem_cons_self ..)))

theorem content_settle_congr {now : Nat} {st st' : AppState} {tasks : List Spawned}
    {c : SharedCell} (hreg : st.resourceStore.registry = st'.resourceStore.registry)
    (h : (∃ task ∈ tasks, task.cell = some c) ∨ st.content c = st'.content c) :
    (settle now st tasks).content c = (settle now st' tasks).content c := by
  induction tasks generalizing st st' with
  | nil =>
      refine h.resolve_left ?_
      rintro ⟨task, hmem, -⟩
      cases hmem
  | cons task tasks ih =>
      unfold settle
      rw [List.foldl_cons, List.foldl_cons]
      refine ih ?_ ?_
      · rw [(mockFrame_runSpawned now st task).registry,
          (mockFrame_runSpawned now st' task).registry, hreg]
      · rcases h with ⟨task', hmem, hcell⟩ | hsame
        · rcases List.mem_cons.mp hmem with rfl | hmem
          · exact Or.inr (content_runSpawned_congr hreg (Or.inl hcell))
          · exact Or.inl ⟨task', hmem, hcell⟩
        · exact Or.inr (content_runSpawned_congr hreg (Or.inr hsame))

-- ============================================================== a request

section Request

variable (env : Externals) (cfg : Config) (st : AppState) (call : Call)

/-- The cells that decide the answer to a request. -/
inductive Reads : SharedCell → Prop
  | mock (ctx : RequestContext) (c : SharedCell)
      (h : Dispatched env cfg st call ctx .mock) (hc : MockReads env cfg call ctx st c) :
      Reads c

/-- The cells a request replaces: the resource that a recording captures. -/
inductive Replaces : SharedCell → Prop
  | capture (ctx : RequestContext) (res : UpstreamResponse) (c : SharedCell)
      (h : Dispatched env cfg st call ctx .learn)
      (hres : call.upstream (forwarded call ctx) = some res) (task : Spawned)
      (hmem : task ∈ learnCapture env call ctx res) (hcell : task.cell = some c) :
      Replaces c

/-- The cells a request changes. -/
inductive Writes : SharedCell → Prop
  | mock (ctx : RequestContext) (c : SharedCell)
      (h : Dispatched env cfg st call ctx .mock) (hc : MockWrites env call ctx st c) :
      Writes c
  | order (ctx : RequestContext) (h : Dispatched env cfg st call ctx .learn) :
      Writes (.order ctx.svcKey)
  | capture (c : SharedCell) (h : Replaces env cfg st call c) : Writes c

variable {env cfg st call}

/-- What a request replaces, read off its own recording. -/
theorem Dispatched.replaces {ctx : RequestContext} {mode : Mode}
    (h : Dispatched env cfg st call ctx mode) {c : SharedCell}
    (hc : Replaces env cfg st call c) :
    mode = .learn ∧ ∃ res, call.upstream (forwarded call ctx) = some res
      ∧ ∃ task ∈ learnCapture env call ctx res, task.cell = some c := by
  obtain ⟨ctx', res, c, hlearn, hres, task, hmem, hcell⟩ := hc
  have hctx : ctx = ctx' := Option.some.inj (h.context.symm.trans hlearn.context)
  subst hctx
  exact ⟨h.mode.symm.trans hlearn.mode, res, hres, task, hmem, hcell⟩

/-- A recording changes the hash map of its own service. -/
theorem content_learnState {ctx : RequestContext} {entry : MockEntry} {c : SharedCell}
    (h : c ≠ .order ctx.svcKey) : (learnState ctx entry st).content c = st.content c := by
  cases c with
  | cursor id => rfl
  | resource svc coll id => rfl
  | order svc =>
      refine congrArg CellContent.order ?_
      rw [mocks_learnState, MockLibrary.mocksOf_publish, if_neg]
      rintro rfl
      exact h rfl

theorem content_learnState_congr {st' : AppState} {ctx : RequestContext}
    {entry : MockEntry} {c : SharedCell} (h : st.content c = st'.content c) :
    (learnState ctx entry st).content c = (learnState ctx entry st').content c := by
  cases c with
  | cursor id => exact h
  | resource svc coll id => exact h
  | order svc =>
      rw [AppState.content, AppState.content, mocks_learnState, mocks_learnState,
        MockLibrary.mocksOf_publish, MockLibrary.mocksOf_publish]
      unfold AppState.content at h
      rw [CellContent.order.injEq] at h
      by_cases hsvc : svc = ctx.svcKey
      · rw [if_pos hsvc, if_pos hsvc, ← hsvc, h]
      · rw [if_neg hsvc, if_neg hsvc, h]

/-- The frame of a request: a cell it does not write stays as it is. -/
theorem content_handle {c : SharedCell} (h : ¬ Writes env cfg st call c) :
    (handle env cfg st call).1.content c = st.content c := by
  cases requestCase env cfg st call with
  | tooLarge hlarge => rw [handle_tooLarge hlarge]
  | noTenant hfits hnone => rw [handle_noTenant hfits hnone]
  | dispatched ctx mode hdisp =>
      cases mode with
      | mock =>
          rw [handle_mock hdisp]
          exact content_mockBranch fun hc => h (.mock ctx c hdisp hc)
      | passthrough => rw [handle_passthrough hdisp]
      | transitioning => rw [handle_transitioning hdisp]
      | learn =>
          cases hres : call.upstream (forwarded call ctx) with
          | none => rw [handle_noUpstream hdisp hres]
          | some res =>
              rw [handle_learn hdisp hres, content_settle, content_learnState]
              · rintro rfl
                exact h (.order ctx hdisp)
              · intro task hmem hcell
                exact h (.capture c (.capture ctx res c hdisp hres task hmem hcell))

end Request

end GostlyProxy
