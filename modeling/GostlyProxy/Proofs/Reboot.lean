/-
What a client can tell of a restart.

# The proxy without files

`KeptProxy` is a proxy that keeps its mocks, its sequences and its captured
resources in memory across restarts, and of the modes that were set the last
one that is kept. A reload does nothing to it. It says what a restart is meant
to lose: the mode if it is TRANSITIONING, the routes, the configuration, the
cursors of the sequences, the recorded misses, the counters and the
milestones. Chaos is off in these runs.

# The process has the same answers

`InSync` is that the files are read as what is in memory. Each call keeps it
when it is followed by its appends, and so do the loads, which compact files.
With it a boot builds the state that the other proxy keeps, so the process
gives the same answers in any run (`restart_forgets`): what it writes is
enough, and what it reads at boot is neither older nor more than that.

A service has files under its name, so the name can be no path and must not
end like a resource file.
-/
import GostlyProxy.Proofs.DataFiles
import GostlyProxy.Proofs.Linked
import GostlyProxy.Proofs.ModeFile
import GostlyProxy.Proofs.SequenceFile
import GostlyProxy.Proofs.Serde

namespace GostlyProxy

open Lib Machine

-- ================================================== the proxy without files

/-- `saved` is the mode that a restart comes back in. -/
structure KeptProxy where
  state : AppState
  saved : Option Mode

/-- The mode that is kept; TRANSITIONING is not. -/
def keptMode (saved : Option Mode) : AdminCall → Option Mode
  | .setMode mode => if mode = .transitioning then saved else some mode
  | _ => saved

section Kept

variable (env : Externals) (cfg : Config) (startup : Startup)

/-- The state after a restart. -/
def AppState.restarted (saved : Option Mode) (st : AppState) : AppState :=
  AppState.boot (initialMode startup saved) st.mocks st.sequences st.resourceStore

/-- Nothing was kept yet. -/
def KeptProxy.fresh : KeptProxy where
  state := AppState.boot (initialMode startup none) MockLibrary.new []
    (ResourceStore.new (some withBundledFixtures))
  saved := none

def keptStep (s : KeptProxy) : ProcessAction → KeptProxy × Option Answer
  | .request call =>
      let (st, answer) := handle env cfg s.state call
      ({ s with state := st }, some answer)
  | .createMock entry => ({ s with state := (handleCreateMock s.state entry).1 }, none)
  | .admin call => (⟨(handleAdmin s.state call).1, keptMode s.saved call⟩, none)
  | .reloadFull _ => (s, none)
  | .reloadOneFile _ _ => (s, none)
  | .restart _ => ({ s with state := s.state.restarted startup s.saved }, none)

end Kept

/-- The services a call names have files that are loaded under their
names. -/
def ProcessAction.Plain : ProcessAction → Prop
  | .createMock entry => PlainService (injectedService (acceptedEntry entry))
  | .admin (.setUpstreams upstreams) => ∀ up ∈ upstreams, PlainService up.serviceId
  | _ => True

/-- The stored resources are read back from the lines they are printed
as. -/
def StoredRoundTrip (codec : ResourceCodec) (store : ResourceStore) : Prop :=
  ∀ svc coll id r, store.lookup svc coll id = some r → codec.RoundTrips r

theorem plain_resolveUpstream {upstreams : List UpstreamRoute}
    (h : ∀ up ∈ upstreams, PlainService up.serviceId) (host path defaultUrl : Text) :
    PlainService ((resolveUpstream upstreams host path defaultUrl).serviceId.getD
      globalTenant) := by
  unfold resolveUpstream
  cases hfind : upstreams.find? fun up => up.isMatch host path with
  | none =>
      dsimp only [Option.getD_none]
      exact plainService_global
  | some up =>
      dsimp only [Option.getD_some]
      exact h up (List.mem_of_find?_eq_some hfind)

-- =========================================================== the invariant

/-- The files are read as what is in memory, and the mode as `saved`. -/
structure InSync (env : Externals) (startup : Startup) (p : Process) (saved : Option Mode) :
    Prop where
  mode : readModeFromFile env p.files.mode = saved
  registry : p.state.resourceStore.registry = some withBundledFixtures
  routes : ∀ up ∈ p.state.upstreams, PlainService up.serviceId
  mocks : LibrarySync startup.entries p.state.mocks p.files.mockDir
  sequences : loadSequences startup.sequences p.files.sequenceDir startup.sequenceFilePath
    = p.state.sequences
  resources : ResourceSync startup.resources p.state.resourceStore.byService
    p.files.resourceDir

namespace InSync

variable {env : Externals} {cfg : Config} {startup : Startup} {p : Process}
  {saved : Option Mode}

/-- Changes of what is in no file. -/
theorem frame (h : InSync env startup p saved) {st : AppState} (hframe : MockFrame p.state st)
    (hstore : st.resourceStore = p.state.resourceStore) :
    InSync env startup { p with state := st } saved where
  mode := h.mode
  registry := (congrArg ResourceStore.registry hstore).trans h.registry
  routes := fun up hup => h.routes up (hframe.upstreams ▸ hup)
  mocks := (congrArg (LibrarySync startup.entries · p.files.mockDir) hframe.mocks).mpr h.mocks
  sequences := h.sequences.trans hframe.sequences.symm
  resources := by
    show ResourceSync startup.resources st.resourceStore.byService p.files.resourceDir
    rw [hstore]
    exact h.resources

/-- A publish with its append. -/
theorem published (h : InSync env startup p saved) (hentries : startup.entries.Lawful)
    {svc : Text} (hsvc : PlainService svc) (e : MockEntry) {st : AppState}
    (hsetup : SameSetup p.state st) (hmocks : st.mocks = p.state.mocks.publish svc e)
    (hstore : st.resourceStore = p.state.resourceStore) (now : Nat) :
    InSync env startup
      (completeOnDisk startup now { p with state := st } (.appendMockLog svc e)) saved := by
  have hdone : completeOnDisk startup now { p with state := st } (.appendMockLog svc e)
      = { state := st
          files := { p.files with
            mockDir := appendToMockLog p.files.mockDir svc (startup.entries.print e) } } :=
    if_pos hsvc.mockFile
  rw [hdone]
  refine ⟨h.mode, hsetup.registry.trans h.registry,
    fun up hup => h.routes up (hsetup.upstreams ▸ hup), ?_,
    h.sequences.trans hsetup.sequences.symm, ?_⟩
  · show LibrarySync startup.entries st.mocks _
    rw [hmocks]
    exact h.mocks.publish hentries svc e
  · show ResourceSync startup.resources st.resourceStore.byService _
    rw [hstore]
    exact h.resources

/-- An update of a stored resource with its append. -/
theorem put (h : InSync env startup p saved) {svc : Text} (hsvc : PlainService svc)
    {coll id : Text} {r : ResourceState} (hcoll : r.collection = coll) (hid : r.id = id)
    (hround : StoredRoundTrip startup.resources (p.state.resourceStore.put svc coll id r)) :
    InSync env startup
      { state := { p.state with resourceStore := p.state.resourceStore.put svc coll id r }
        files := { p.files with
          resourceDir := persistJsonl startup.resources p.files.resourceDir svc r } } saved := by
  have hread := ResourceStore.lookup_put p.state.resourceStore svc coll id r svc coll id
  rw [if_pos rfl] at hread
  subst hcoll hid
  exact ⟨h.mode, h.registry, h.routes, h.mocks, h.sequences,
    h.resources.put hsvc (hround _ _ _ _ hread)⟩

/-- A capture with its append. -/
theorem captured (h : InSync env startup p saved) {svc : Text} (hsvc : PlainService svc)
    (coll : Text) (body : Json) (contentType : Option Text) (status : UInt16) (now : Nat)
    (hround : StoredRoundTrip startup.resources
      (runSpawned now p.state (.captureCreate svc coll body contentType status)).resourceStore) :
    InSync env startup
      (completeOnDisk startup now p (.captureCreate svc coll body contentType status))
      saved := by
  cases hid : extractId body coll none with
  | none =>
      have hdone : completeOnDisk startup now p (.captureCreate svc coll body contentType status)
          = p := by
        simp only [completeOnDisk, ResourceStore.captureCreate, hid]
      rw [hdone]
      exact h
  | some id =>
      obtain ⟨r, hr⟩ : ∃ r, r = ResourceStore.captured p.state.resourceStore.registry coll id body
        contentType status now := ⟨_, rfl⟩
      have hstore : (runSpawned now p.state
          (.captureCreate svc coll body contentType status)).resourceStore
            = p.state.resourceStore.put svc coll id r := by
        simp only [runSpawned, ResourceStore.captureCreate, hid, hr]
      have hdone : completeOnDisk startup now p (.captureCreate svc coll body contentType status)
          = { state := { p.state with resourceStore := p.state.resourceStore.put svc coll id r }
              files := { p.files with
                resourceDir := persistJsonl startup.resources p.files.resourceDir svc r } } := by
        simp only [completeOnDisk, ResourceStore.captureCreate, hid, hr]
      rw [hstore] at hround
      rw [hdone]
      exact h.put hsvc (by rw [hr]; rfl) (by rw [hr]; rfl) hround

/-- A request is for the service of a route, or the global one. -/
theorem plain_svcKey (h : InSync env startup p saved) {call : Call} {ctx : RequestContext}
    {mode : Mode} (hctx : Dispatched env cfg p.state call ctx mode) :
    PlainService ctx.svcKey := by
  obtain ⟨tenant, -, rfl⟩ := requestContext_some hctx.context
  exact plain_resolveUpstream h.routes _ _ _

end InSync

-- ============================================================== a request

section Request

variable {env : Externals} {cfg : Config} {startup : Startup} {p : Process}
  {saved : Option Mode} {call : Call}

theorem serveRequest_eq {st : AppState} {answer : Answer} {spawned : List Spawned}
    (h : proxyHandler env cfg p.state call = (st, answer, spawned)) :
    serveRequest env cfg startup p call
      = (spawned.foldl (completeOnDisk startup call.systemTime)
          { state := st
            files := { p.files with
              resourceDir := persistMoved startup st.resourceStore p.files.resourceDir
                (movedResource env cfg p.state call answer) } }, answer) := by
  unfold serveRequest
  rw [h]

/-- Only a transition moves a resource. -/
theorem movedResource_of_ne {st : AppState} {answer : Answer}
    (h : ∀ served, answer ≠ .served .resourceTransition served) :
    movedResource env cfg st call answer = none := by
  unfold movedResource
  split
  · next served => exact absurd rfl (h served)
  · rfl

/-- A request that spawns nothing and moves no resource. -/
theorem serveRequest_of_quiet {st : AppState} {answer : Answer}
    (h : proxyHandler env cfg p.state call = (st, answer, []))
    (hmoved : ∀ served, answer ≠ .served .resourceTransition served) :
    serveRequest env cfg startup p call = ({ p with state := st }, answer) := by
  rw [serveRequest_eq h, movedResource_of_ne hmoved]
  rfl

/-- A task does on disk to the state what it does without. -/
theorem state_completeOnDisk (now : Nat) (s : Process) (task : Spawned) :
    (completeOnDisk startup now s task).state = runSpawned now s.state task := by
  cases task with
  | appendMockLog svcId entry =>
      unfold completeOnDisk
      dsimp only
      split <;> rfl
  | captureCreate svcKey coll body contentType status =>
      unfold completeOnDisk runSpawned ResourceStore.captureCreate
      dsimp only
      cases extractId body coll none <;> rfl
  | appendTrafficLog svcId entry => rfl
  | appendWideEvent serviceId method uri status latency workload => rfl

theorem state_completeAll (now : Nat) (spawned : List Spawned) (s : Process) :
    (spawned.foldl (completeOnDisk startup now) s).state = settle now s.state spawned := by
  induction spawned generalizing s with
  | nil => rfl
  | cons task spawned ih =>
      rw [List.foldl_cons, ih, state_completeOnDisk]
      rfl

variable (env cfg startup) in
/-- With its files a request answers as without. -/
theorem serveRequest_handle (s : Process) (call : Call) :
    (serveRequest env cfg startup s call).1.state = (handle env cfg s.state call).1
      ∧ (serveRequest env cfg startup s call).2 = (handle env cfg s.state call).2 :=
  ⟨state_completeAll .., rfl⟩

/-- Of what a recording leaves behind, the append and the capture are kept
here. -/
theorem completeAll_learnSpawned (now : Nat) (s : Process) (ctx : RequestContext) (seq : UInt64)
    (entry : MockEntry) (res : UpstreamResponse) :
    (learnSpawned env cfg call ctx seq entry res).foldl (completeOnDisk startup now) s
      = (learnCapture env call ctx res).foldl (completeOnDisk startup now)
          (completeOnDisk startup now s (.appendMockLog ctx.svcKey entry)) := by
  rw [learnSpawned, List.foldl_append]
  congr 1
  cases cfg.observabilityEnabled <;> cases ctx.resolved.serviceId <;> rfl

/-- A recording captures for its own service. -/
theorem learnCapture_cases (env : Externals) (call : Call) (ctx : RequestContext)
    (res : UpstreamResponse) :
    learnCapture env call ctx res = []
      ∨ ∃ coll body contentType,
        learnCapture env call ctx res
          = [.captureCreate ctx.svcKey coll body contentType res.status.1] := by
  unfold learnCapture
  split
  · split
    · exact Or.inl rfl
    · split
      · exact Or.inl rfl
      · exact Or.inr ⟨_, _, _, rfl⟩
  · exact Or.inl rfl

/-- A recording that the upstream has answered. -/
theorem InSync.recorded (h : InSync env startup p saved) (hentries : startup.entries.Lawful)
    {ctx : RequestContext} (hdisp : Dispatched env cfg p.state call ctx .learn)
    {res : UpstreamResponse} (hres : call.upstream (forwarded call ctx) = some res)
    (hround : StoredRoundTrip startup.resources
      (handle env cfg p.state call).1.resourceStore) :
    InSync env startup (serveRequest env cfg startup p call).1 saved := by
  let entry := learnEntry env cfg call ctx res
  have hserve : proxyHandler env cfg p.state call
      = (learnState ctx entry p.state,
          .served .learn
            { delayMs := 0
              response := buildResponse env call.order res.status.1
                (collectHeaders res.headers) res.body },
          learnSpawned env cfg call ctx p.state.entryCounter entry res) := by
    rw [hdisp.proxyHandler, dispatch, hdisp.mode]
    dsimp only
    unfold learnBranch
    rw [hres]
  have hplain := h.plain_svcKey hdisp
  have hpublished := h.published hentries hplain entry (sameSetup_learnState ctx entry p.state)
    (mocks_learnState ctx entry p.state) rfl call.systemTime
  rw [handle_learn hdisp hres] at hround
  have hstill : ∀ served, movedResource env cfg p.state call (.served .learn served) = none :=
    fun _ => rfl
  rw [serveRequest_eq hserve, hstill, completeAll_learnSpawned]
  rcases learnCapture_cases env call ctx res with hnone | ⟨coll, body, contentType, hsome⟩
  · rw [hnone]
    exact hpublished
  · rw [hsome] at hround ⊢
    refine hpublished.captured hplain coll body contentType _ call.systemTime ?_
    rw [state_completeOnDisk]
    exact hround

/-- A request in MOCK mode. -/
theorem InSync.replayed (h : InSync env startup p saved) {ctx : RequestContext}
    (hdisp : Dispatched env cfg p.state call ctx .mock)
    (hround : StoredRoundTrip startup.resources
      (handle env cfg p.state call).1.resourceStore) :
    InSync env startup (serveRequest env cfg startup p call).1 saved := by
  have hserve : proxyHandler env cfg p.state call
      = ((mockBranch env cfg call ctx p.state).1, (mockBranch env cfg call ctx p.state).2,
          []) := by
    rw [hdisp.proxyHandler, dispatch, hdisp.mode]
  have hframe := mockFrame_mockBranch env cfg call ctx p.state
  rw [handle_mock hdisp] at hround
  obtain ⟨st', a, hout⟩ := exists_mockOutcome env cfg call ctx p.state
  rw [hout.eq] at hserve hframe hround
  dsimp only at hserve hframe hround
  have hquiet : st'.resourceStore = p.state.resourceStore →
      (∀ served, a ≠ .served .resourceTransition served) →
      InSync env startup (serveRequest env cfg startup p call).1 saved := by
    intro hstore hmoved
    rw [serveRequest_of_quiet hserve hmoved]
    exact h.frame hframe hstore
  cases hout with
  | exact => exact hquiet rfl fun _ heq => by cases heq
  | sequence => exact hquiet rfl fun _ heq => by cases heq
  | resource => exact hquiet rfl fun _ heq => by cases heq
  | smartSwap => exact hquiet rfl fun _ heq => by cases heq
  | miss => exact hquiet rfl fun _ heq => by cases heq
  | transition coll id action resource nextState hexact hseq hres htarget htrans =>
      obtain ⟨reg, r, m, s, s', -, hr, -, -, -, hmoved⟩ := ResourceStore.of_transition htrans
      rw [Prod.mk.injEq] at hmoved
      obtain ⟨bucket, hbucket, hlook⟩ := Option.bind_eq_some_iff.mp hr
      obtain ⟨hcoll, hid⟩ := h.resources.key hbucket hlook
      have hkey : movedResource env cfg p.state call
          (serveResource env call .resourceTransition xGhostTransition nextState resource)
            = some (ctx.svcKey, coll, id) := by
        unfold movedResource serveResource
        dsimp only
        rw [collectBody, if_pos hdisp.fits, Option.bind_some, hdisp.context, Option.bind_some,
          htarget]
        rfl
      have hread := ResourceStore.lookup_put p.state.resourceStore ctx.svcKey coll id resource
        ctx.svcKey coll id
      rw [if_pos rfl] at hread
      rw [serveRequest_eq hserve, hkey, persistMoved, hread]
      refine h.put (h.plain_svcKey hdisp) ?_ ?_ hround
      · rw [hmoved.1]
        exact hcoll
      · rw [hmoved.1]
        exact hid

theorem InSync.request (h : InSync env startup p saved) (hentries : startup.entries.Lawful)
    (hround : StoredRoundTrip startup.resources
      (handle env cfg p.state call).1.resourceStore) :
    InSync env startup (serveRequest env cfg startup p call).1 saved := by
  cases requestCase env cfg p.state call with
  | tooLarge hlarge =>
      rw [serveRequest_of_quiet (proxyHandler_tooLarge hlarge) fun _ heq => by cases heq]
      exact h
  | noTenant hfits hnone =>
      rw [serveRequest_of_quiet (proxyHandler_noTenant hfits hnone) fun _ heq => by cases heq]
      exact h
  | dispatched ctx mode hdisp =>
      have hserve := hdisp.proxyHandler
      rw [dispatch, hdisp.mode] at hserve
      cases mode with
      | mock => exact h.replayed hdisp hround
      | learn =>
          cases hres : call.upstream (forwarded call ctx) with
          | some res => exact h.recorded hentries hdisp hres hround
          | none =>
              dsimp only at hserve
              unfold learnBranch at hserve
              rw [hres] at hserve
              rw [serveRequest_of_quiet hserve fun _ heq => by cases heq]
              exact h
      | transitioning =>
          rw [serveRequest_of_quiet hserve fun _ heq => by cases heq]
          exact h
      | passthrough =>
          rw [serveRequest_of_quiet hserve fun served heq => ?_]
          · exact h
          · unfold passthroughAnswer at heq
            split at heq <;> cases heq

end Request

-- ======================================================= the other actions

section Actions

variable {env : Externals} {startup : Startup} {p : Process} {saved : Option Mode}

/-- What a save of sequences is loaded as. -/
theorem loadSequences_save {codec : SequenceCodec} (hround : ∀ seq, codec.RoundTrips seq)
    (dir : Dir) (path : Text) (seqs : List MockSequence) :
    loadSequences codec (saveSequences codec dir path seqs) path = seqs := by
  unfold loadSequences
  rw [lookup_saveSequences]
  exact loadSequences_text fun seq _ => hround seq

theorem InSync.admin (h : InSync env startup p saved) (hplain : ReadsPlainStrings env)
    (hsequences : ∀ seq, startup.sequences.RoundTrips seq) (call : AdminCall)
    (hroutes : (ProcessAction.admin call).Plain) :
    InSync env startup
      { state := (handleAdmin p.state call).1
        files := adminFiles startup p.files (handleAdmin p.state call).1 call }
      (keptMode saved call) := by
  cases call with
  | setMode mode =>
      refine ⟨?_, h.registry, h.routes, h.mocks, h.sequences, h.resources⟩
      show readModeFromFile env (writeModeToFile p.files.mode mode)
        = if mode = .transitioning then saved else some mode
      by_cases hmode : mode = .transitioning
      · rw [if_pos hmode, hmode]
        exact h.mode
      · rw [if_neg hmode]
        exact readMode_writeMode hplain p.files.mode hmode
  | setConfig status body =>
      exact ⟨h.mode, h.registry, h.routes, h.mocks, h.sequences, h.resources⟩
  | setUpstreams upstreams =>
      exact ⟨h.mode, h.registry, hroutes, h.mocks, h.sequences, h.resources⟩
  | createSequence seq =>
      exact ⟨h.mode, h.registry, h.routes, h.mocks, loadSequences_save hsequences .., h.resources⟩
  | resetSequence id =>
      exact ⟨h.mode, h.registry, h.routes, h.mocks, h.sequences, h.resources⟩
  | deleteSequence id =>
      exact ⟨h.mode, h.registry, h.routes, h.mocks, loadSequences_save hsequences .., h.resources⟩

/-- A reload that gives the library that is live. -/
theorem InSync.reloaded (h : InSync env startup p saved) {dir : Dir} {library : MockLibrary}
    (hlibrary : library = p.state.mocks) (hmocks : LibrarySync startup.entries p.state.mocks dir) :
    { p.state with mocks := library } = p.state
      ∧ InSync env startup
        { state := { p.state with mocks := library }, files := { p.files with mockDir := dir } }
        saved := by
  subst hlibrary
  exact ⟨rfl, h.mode, h.registry, h.routes, hmocks, h.sequences, h.resources⟩

/-- A boot builds the state that a restart keeps. -/
theorem InSync.restart (h : InSync env startup p saved) (hentries : startup.entries.Lawful)
    (rs : RandomState) :
    (runProxy env startup rs p.files).state = p.state.restarted startup saved
      ∧ InSync env startup (runProxy env startup rs p.files) saved := by
  obtain ⟨hlibrary, hmocks⟩ := h.mocks.loadAll hentries rs
  obtain ⟨hbyService, hresources⟩ := h.resources.load rs (some withBundledFixtures)
  have hstore : ((ResourceStore.new (some withBundledFixtures)).loadFromDisk startup.resources rs
      p.files.resourceDir).2 = p.state.resourceStore := by
    have hregistry := h.registry
    revert hbyService hregistry
    generalize p.state.resourceStore = store
    cases store with
    | mk byService registry =>
        rintro rfl rfl
        rfl
  have hstate : (runProxy env startup rs p.files).state = p.state.restarted startup saved := by
    show AppState.boot (initialMode startup (readModeFromFile env p.files.mode))
      (loadAllServiceMocks startup.entries rs p.files.mockDir).2
      (loadSequences startup.sequences p.files.sequenceDir startup.sequenceFilePath)
      ((ResourceStore.new (some withBundledFixtures)).loadFromDisk startup.resources rs
        p.files.resourceDir).2 = _
    rw [h.mode, hlibrary, h.sequences, hstore]
    rfl
  refine ⟨hstate, h.mode, ?_, ?_, ?_, ?_, ?_⟩
  · rw [hstate]
    exact h.registry
  · rw [hstate]
    exact fun up hup => nomatch hup
  · rw [hstate]
    exact hmocks
  · rw [hstate]
    exact h.sequences
  · rw [hstate]
    exact hresources

/-- A fresh installation. -/
theorem inSync_fresh (env : Externals) (startup : Startup) :
    InSync env startup { state := (KeptProxy.fresh startup).state, files := DataFiles.fresh }
      none where
  mode := rfl
  registry := rfl
  routes := fun up hup => nomatch hup
  mocks := librarySync_fresh
  sequences := by
    show loadSequences startup.sequences ∅ startup.sequenceFilePath = []
    unfold loadSequences
    rw [Finmap.lookup_empty]
  resources := resourceSync_fresh

end Actions

-- =============================================================== any run

section Runs

variable (env : Externals) (cfg : Config) (startup : Startup)

/-- An action that the files can keep up with. -/
structure Persistable (s : KeptProxy) (a : ProcessAction) : Prop where
  plain : a.Plain
  roundTrip : StoredRoundTrip startup.resources (keptStep env cfg startup s a).1.state.resourceStore

variable {env cfg startup}

/-- One action keeps the two proxies alike. -/
theorem processStep_kept (hplain : ReadsPlainStrings env) (hentries : startup.entries.Lawful)
    (hsequences : ∀ seq, startup.sequences.RoundTrips seq) (s : KeptProxy) (p : Process)
    (a : ProcessAction) (h : p.state = s.state ∧ InSync env startup p s.saved)
    (ha : Persistable env cfg startup s a) :
    (keptStep env cfg startup s a).2 = (processStep env cfg startup p a).2
      ∧ (processStep env cfg startup p a).1.state = (keptStep env cfg startup s a).1.state
      ∧ InSync env startup (processStep env cfg startup p a).1
        (keptStep env cfg startup s a).1.saved := by
  obtain ⟨hstate, hsync⟩ := h
  obtain ⟨state, saved⟩ := s
  dsimp only at hstate hsync
  subst hstate
  cases a with
  | request call =>
      obtain ⟨hhandled, hanswer⟩ := serveRequest_handle env cfg startup p call
      exact ⟨congrArg some hanswer.symm, hhandled, hsync.request hentries ha.roundTrip⟩
  | createMock entry =>
      have hsetup : SameSetup p.state (handleCreateMock p.state entry).1 :=
        ⟨rfl, rfl, rfl, rfl, rfl⟩
      exact ⟨rfl, state_completeAll ..,
        hsync.published hentries ha.plain (acceptedEntry entry) hsetup rfl rfl 0⟩
  | admin call => exact ⟨rfl, rfl, hsync.admin hplain hsequences call ha.plain⟩
  | reloadFull rs =>
      obtain ⟨hlibrary, hmocks⟩ := hsync.mocks.loadAll hentries rs
      exact ⟨rfl, hsync.reloaded hlibrary hmocks⟩
  | reloadOneFile rs fname =>
      obtain ⟨hlibrary, hmocks⟩ := hsync.mocks.reloadOneFile hentries rs fname
      exact ⟨rfl, hsync.reloaded hlibrary hmocks⟩
  | restart rs =>
      obtain ⟨hboot, hrestarted⟩ := hsync.restart hentries rs
      exact ⟨rfl, hboot, hrestarted⟩

/-- From a fresh installation on, whatever is requested, changed, reloaded
and restarted: the process answers as the proxy that keeps its memory, and
has its state. -/
theorem restart_forgets (hplain : ReadsPlainStrings env) (hentries : startup.entries.Lawful)
    (hsequences : ∀ seq, startup.sequences.RoundTrips seq) (rs : RandomState)
    (actions : List ProcessAction)
    (hstored : AlongO (keptStep env cfg startup) (Persistable env cfg startup)
      (KeptProxy.fresh startup) actions) :
    outputs (processStep env cfg startup) (fun _ => true)
        (runProxy env startup rs DataFiles.fresh) actions
      = outputs (keptStep env cfg startup) (fun _ => true) (KeptProxy.fresh startup) actions
    ∧ (run (fun p a => (processStep env cfg startup p a).1)
        (runProxy env startup rs DataFiles.fresh) actions).state
      = (run (fun s a => (keptStep env cfg startup s a).1) (KeptProxy.fresh startup)
        actions).state := by
  obtain ⟨hboot, hsync⟩ := (inSync_fresh env startup).restart hentries rs
  obtain ⟨houtputs, hend, -⟩ := outputs_simulated
    (R := fun s p => p.state = s.state ∧ InSync env startup p s.saved)
    (processStep_kept hplain hentries hsequences) ⟨hboot, hsync⟩ hstored
  exact ⟨houtputs.symm, hend⟩

end Runs

-- ================================================ a charge, and restarts

/-- The parser knows the text of the charge, and quoted texts. -/
def chargeOrQuoted : Externals :=
  { chargeExternals "ch_1" with
    parseJson := fun t => (readQuoted t).or ((chargeExternals "ch_1").parseJson t) }

theorem readsPlainStrings_chargeOrQuoted : ReadsPlainStrings chargeOrQuoted := by
  intro s hs
  have hread : readQuoted ('"' :: (s ++ ['"'])) = some (.string s) :=
    readsPlainStrings_quotedStrings s hs
  show (readQuoted _).or _ = _
  rw [hread]
  rfl

/-- Lines as the compact library prints them, and no `INITIAL_MODE`. -/
noncomputable def compactStartup : Startup where
  entries := entryCodec JsonLibrary.compact default
  sequences := sequenceCodec JsonLibrary.compact default
  resources := resourceCodec JsonLibrary.compact decimalFormats
  sequenceFilePath := sequencesPath
  initialMode := ""

/-- The charge as it is stored in any of its states. -/
def storedCharge (status contentType : Text) : ResourceState where
  collection := "charges"
  id := "ch_1"
  body := charge "ch_1" status
  statechart := some "charge"
  currentState := some status
  createdAt := 0
  updatedAt := 0
  status := 201
  contentType := contentType

theorem roundTrips_storedCharge (status contentType : Text) :
    compactStartup.resources.RoundTrips (storedCharge status contentType) := by
  have htime : decimalFormats.parseFromRfc3339 (decimalFormats.toRfc3339 0) = some 0 := by decide
  refine resourceCodec_roundTrips (JsonLibrary.compact_lawful maxNesting) ⟨?_, htime, htime⟩
  refine .object (by simp; decide) fun m hm => ?_
  simp only [List.mem_cons, List.not_mem_nil, or_false] at hm
  rcases hm with rfl | rfl
  · exact .string _
  · exact .string _

theorem storedRoundTrip_put {store : ResourceStore}
    (h : StoredRoundTrip compactStartup.resources store) (status contentType : Text) :
    StoredRoundTrip compactStartup.resources
      (store.put globalTenant "charges" "ch_1" (storedCharge status contentType)) := by
  intro svc coll id r hr
  rw [ResourceStore.lookup_put] at hr
  split at hr
  · cases hr
    exact roundTrips_storedCharge status contentType
  · exact h svc coll id r hr

/-- The store with the created charge. -/
def chargeStore (contentType : Text) : ResourceStore :=
  (ResourceStore.new (some withBundledFixtures)).put globalTenant "charges" "ch_1"
    (storedCharge "created" contentType)

theorem storedRoundTrip_chargeStore (contentType : Text) :
    StoredRoundTrip compactStartup.resources (chargeStore contentType) := by
  refine storedRoundTrip_put (fun svc coll id r hr => ?_) "created" contentType
  cases hr

/-- A charge is recorded, replayed and captured, with a restart before and
after the capture. -/
noncomputable def captureBetweenRestarts : List ProcessAction :=
  [.request (learnPost "ch_1"), .admin (.setMode .mock), .restart default,
    .request (capture "ch_1"), .restart default]

/-- The proxy after the first restart. -/
noncomputable def replayingRestarted : KeptProxy :=
  run (fun s a => (keptStep chargeOrQuoted Config.new compactStartup s a).1)
    (KeptProxy.fresh compactStartup) (captureBetweenRestarts.take 3)

theorem resourceStore_replayingRestarted :
    ∃ contentType, replayingRestarted.state.resourceStore = chargeStore contentType := ⟨_, rfl⟩

theorem storedRoundTrip_captured :
    StoredRoundTrip compactStartup.resources
      (handle chargeOrQuoted Config.new replayingRestarted.state
        (capture "ch_1")).1.resourceStore := by
  obtain ⟨contentType, hstore⟩ := resourceStore_replayingRestarted
  let ctx := contextFor chargeOrQuoted Config.new replayingRestarted.state
    (capture "ch_1").request (capture "ch_1").request.body globalTenant
  have hdisp : Dispatched chargeOrQuoted Config.new replayingRestarted.state (capture "ch_1") ctx
      .mock := dispatched_of_unrouted (by decide) rfl rfl rfl
  have hbefore : StoredRoundTrip compactStartup.resources replayingRestarted.state.resourceStore :=
    hstore ▸ storedRoundTrip_chargeStore contentType
  rw [handle_mock hdisp]
  obtain ⟨st', a, hout⟩ := exists_mockOutcome chargeOrQuoted Config.new (capture "ch_1") ctx
    replayingRestarted.state
  rw [hout.eq]
  cases hout with
  | exact => exact hbefore
  | sequence => exact hbefore
  | resource => exact hbefore
  | smartSwap => exact hbefore
  | miss => exact hbefore
  | transition coll id action resource nextState hexact hseq hres htarget htrans =>
      have hnamed : transitionTarget chargeOrQuoted ctx
          = some (("charges" : Text), ("ch_1" : Text), ("capture" : Text)) := rfl
      have hmoved : (chargeStore contentType).transition globalTenant "charges" "ch_1" "capture" 0
          = some (storedCharge "captured" contentType, ("captured" : Text)) := rfl
      cases hnamed.symm.trans htarget
      rw [hstore] at htrans
      cases hmoved.symm.trans htrans
      exact storedRoundTrip_put hbefore "captured" contentType

theorem persistable_captureBetweenRestarts :
    AlongO (keptStep chargeOrQuoted Config.new compactStartup)
      (Persistable chargeOrQuoted Config.new compactStartup) (KeptProxy.fresh compactStartup)
      captureBetweenRestarts := by
  refine ⟨⟨trivial, ?_⟩, ⟨trivial, ?_⟩, ⟨trivial, ?_⟩, ⟨trivial, ?_⟩, ⟨trivial, ?_⟩, trivial⟩
  · exact storedRoundTrip_chargeStore _
  · exact storedRoundTrip_chargeStore _
  · exact storedRoundTrip_chargeStore _
  · exact storedRoundTrip_captured
  · exact storedRoundTrip_captured

/-- The restarts are not noticed. -/
theorem restart_forgets_captureBetweenRestarts :
    outputs (processStep chargeOrQuoted Config.new compactStartup) (fun _ => true)
        (runProxy chargeOrQuoted compactStartup default DataFiles.fresh) captureBetweenRestarts
      = outputs (keptStep chargeOrQuoted Config.new compactStartup) (fun _ => true)
        (KeptProxy.fresh compactStartup) captureBetweenRestarts
    ∧ (run (fun p a => (processStep chargeOrQuoted Config.new compactStartup p a).1)
        (runProxy chargeOrQuoted compactStartup default DataFiles.fresh)
        captureBetweenRestarts).state
      = (run (fun s a => (keptStep chargeOrQuoted Config.new compactStartup s a).1)
        (KeptProxy.fresh compactStartup) captureBetweenRestarts).state :=
  restart_forgets readsPlainStrings_chargeOrQuoted
    (entryCodec_lawful (JsonLibrary.compact_lawful maxNesting) default)
    (sequenceCodec_roundTrips (JsonLibrary.compact_lawful maxNesting) default) default
    captureBetweenRestarts persistable_captureBetweenRestarts

end GostlyProxy
