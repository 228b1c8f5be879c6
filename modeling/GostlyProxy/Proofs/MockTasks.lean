/-
The live library and the mock directory, while appends are under way.

A call publishes an entry at once and leaves its append behind, and the
appends run in any order. So the library holds the entry spawned last under
each key and the files stand for the entry appended last
(`publishedInv_exec`), and a library loaded from the directory is the live
one exactly when these are the same (`mock_files_agree_iff`).
-/
import GostlyProxy.Lib.Detached
import GostlyProxy.Model.Tasks
import GostlyProxy.Proofs.Codec
import GostlyProxy.Proofs.Disk
import GostlyProxy.Proofs.Replay

namespace GostlyProxy

open Lib

-- ======================================================== what is spawned

section Returns

variable (env : Externals) (cfg : Config)

/-- A call up to its return: a request records or spawns nothing, a post
publishes. -/
inductive PublishCase (s : LiveProxy) : Publish → LiveProxy × List Spawned → Prop
  | recorded (r : RoutedRequest) (ctx : RequestContext) (res : UpstreamResponse)
      (h : Recorded env cfg (r.setup s.state) r.call ctx res) :
      PublishCase s (.request r)
        ({ s with
            state := learnState ctx (learnEntry env cfg r.call ctx res) (r.setup s.state) },
          learnSpawned env cfg r.call ctx s.state.entryCounter
            (learnEntry env cfg r.call ctx res) res)
  | quiet (r : RoutedRequest) (st : AppState) (hmocks : st.mocks = s.state.mocks) :
      PublishCase s (.request r) ({ s with state := st }, [])
  | created (entry : MockEntry) :
      PublishCase s (.createMock entry)
        ({ s with state := (handleCreateMock s.state entry).1 },
          [.appendMockLog (injectedService (acceptedEntry entry)) (acceptedEntry entry)])

theorem publishCase_request (s : LiveProxy) (r : RoutedRequest) :
    PublishCase env cfg s (.request r)
      ({ s with state := (proxyHandler env cfg (r.setup s.state) r.call).1 },
        (proxyHandler env cfg (r.setup s.state) r.call).2.2) := by
  cases requestCase env cfg (r.setup s.state) r.call with
  | tooLarge h =>
      rw [proxyHandler, collectBody, if_neg (Nat.not_le.mpr h)]
      exact .quiet r _ rfl
  | noTenant hfits h =>
      rw [proxyHandler, collectBody, if_pos hfits]
      dsimp only
      rw [requestContext_eq, h]
      exact .quiet r _ rfl
  | dispatched ctx mode h =>
      rw [h.proxyHandler, dispatch, h.mode]
      cases mode with
      | mock =>
          exact .quiet r _ (mockFrame_mockBranch env cfg r.call ctx (r.setup s.state)).mocks
      | transitioning => exact .quiet r _ rfl
      | passthrough => exact .quiet r _ rfl
      | learn =>
          dsimp only
          unfold learnBranch
          cases hres : r.call.upstream (forwarded r.call ctx) with
          | none => exact .quiet r _ rfl
          | some res => exact .recorded r ctx res ⟨h, hres⟩

theorem publishCase (s : LiveProxy) (p : Publish) :
    PublishCase env cfg s p (publishOp env cfg s p) := by
  cases p with
  | createMock entry => exact .created entry
  | request r => exact publishCase_request env cfg s r

/-- A capture is no append. -/
theorem filterMap_learnCapture {α : Type} (call : Call) (ctx : RequestContext)
    (res : UpstreamResponse) {f : Spawned → Option α}
    (hf : ∀ svcKey coll body ct status, f (.captureCreate svcKey coll body ct status) = none) :
    (learnCapture env call ctx res).filterMap f = [] := by
  unfold learnCapture
  repeat' split
  all_goals first
    | rfl
    | exact List.filterMap_cons_none (hf ..)

/-- The append to a mock file that a task is. -/
def mockAppend : Spawned → Option (Text × MockEntry)
  | .appendMockLog svcId entry => some (svcId, entry)
  | _ => none

/-- A recording leaves one append to a mock file behind, of its entry. -/
theorem mockAppends_learnSpawned (call : Call) (ctx : RequestContext) (seq : UInt64)
    (entry : MockEntry) (res : UpstreamResponse) :
    (learnSpawned env cfg call ctx seq entry res).filterMap mockAppend
      = [(ctx.svcKey, entry)] := by
  unfold learnSpawned
  rw [List.filterMap_append, List.filterMap_append, List.filterMap_append,
    filterMap_learnCapture env call ctx res fun _ _ _ _ _ => rfl]
  cases cfg.observabilityEnabled <;> cases ctx.resolved.serviceId <;> rfl

/-- A call publishes what it leaves to be appended, and nothing else. -/
structure PublishReturns (s s' : LiveProxy) (spawned : List Spawned)
    (published : Option (Text × MockEntry)) : Prop where
  mocks : s'.state.mocks = match published with
    | some (svcId, entry) => s.state.mocks.publish svcId entry
    | none => s.state.mocks
  appends : spawned.filterMap mockAppend = published.toList
  mockDir : s'.mockDir = s.mockDir
  trafficDir : s'.trafficDir = s.trafficDir

theorem publishReturns (s : LiveProxy) (p : Publish) :
    ∃ published, PublishReturns s (publishOp env cfg s p).1 (publishOp env cfg s p).2
      published := by
  have hcase := publishCase env cfg s p
  generalize publishOp env cfg s p = out at hcase ⊢
  cases hcase with
  | recorded r ctx res h =>
      exact ⟨some (ctx.svcKey, learnEntry env cfg r.call ctx res), rfl,
        mockAppends_learnSpawned env cfg r.call ctx _ _ res, rfl, rfl⟩
  | quiet r st hmocks => exact ⟨none, hmocks, rfl, rfl, rfl⟩
  | created entry =>
      exact ⟨some (injectedService (acceptedEntry entry), acceptedEntry entry), rfl, rfl, rfl,
        rfl⟩

end Returns

-- ==================================================== last write per key

/-- The entries the appends of a service are of, in order. -/
def appendsOf (svc : Text) (tasks : List Spawned) : List MockEntry :=
  ((tasks.filterMap mockAppend).filter fun p => p.1 = svc).map (·.2)

/-- The entry appended last under a key of a service. -/
def lastAppend (tasks : List Spawned) (svc : Text) (key : MockKey) : Option MockEntry :=
  ((appendsOf svc tasks).filter (·.key = key)).getLast?

/-- The map some entries stand for: last write wins. -/
def lastByKey (entries : List MockEntry) : ServiceMocks :=
  HashMap.collect (entries.map fun e => (e.key, e))

theorem lookup_lastByKey_appendsOf (tasks : List Spawned) (svc : Text) (key : MockKey) :
    (lastByKey (appendsOf svc tasks)).lookup key = lastAppend tasks svc key :=
  HashMap.lookup_collect_by MockEntry.key (appendsOf svc tasks) key

theorem lastByKey_append_singleton (entries : List MockEntry) (e : MockEntry) :
    lastByKey (entries ++ [e]) = (lastByKey entries).insert e.key e := by
  unfold lastByKey HashMap.collect
  rw [List.map_append, List.foldl_append]
  rfl

theorem appendsOf_append (svc : Text) (tasks later : List Spawned) :
    appendsOf svc (tasks ++ later) = appendsOf svc tasks ++ appendsOf svc later := by
  unfold appendsOf
  rw [List.filterMap_append, List.filter_append, List.map_append]

theorem mem_appendsOf {svc : Text} {tasks : List Spawned} {e : MockEntry} :
    e ∈ appendsOf svc tasks ↔ .appendMockLog svc e ∈ tasks := by
  unfold appendsOf
  rw [List.mem_map]
  constructor
  · rintro ⟨⟨svc', e'⟩, hmem, rfl⟩
    obtain ⟨hmem, hsvc⟩ := List.mem_filter.mp hmem
    obtain ⟨task, htask, happend⟩ := List.mem_filterMap.mp hmem
    cases task with
    | appendMockLog svcId entry =>
        cases happend
        rwa [← of_decide_eq_true hsvc]
    | appendTrafficLog | appendWideEvent | captureCreate => cases happend
  · intro htask
    exact ⟨(svc, e), List.mem_filter.mpr
      ⟨List.mem_filterMap.mpr ⟨_, htask, rfl⟩, decide_eq_true rfl⟩, rfl⟩

-- ========================================================== the invariant

section Runs

variable {env : Externals} {cfg : Config} {codec : EntryCodec}

/-- The text of a service's mock file. -/
def mockText (s : LiveProxy) (svc : Text) : Text :=
  (s.mockDir.lookup (mockFileName svc)).getD []

theorem mocksOf_loadAll_mockText (rs : RandomState) (s : LiveProxy) (svc : Text) :
    (loadAllServiceMocks codec rs s.mockDir).2.mocksOf svc
      = readMocks codec (mockText s svc) := by
  rw [mocksOf_loadAll]
  unfold mockText
  cases s.mockDir.lookup (mockFileName svc) with
  | none => rfl
  | some content => rfl

/-- What tasks append to the mock file of a service. -/
def appendedText (codec : EntryCodec) (svc : Text) (tasks : List Spawned) : Text :=
  if isFileName (mockFileName svc) = true then
    (appendsOf svc tasks).flatMap fun e => codec.print e ++ ['\n']
  else []

theorem appendedText_append (svc : Text) (tasks later : List Spawned) :
    appendedText codec svc (tasks ++ later)
      = appendedText codec svc tasks ++ appendedText codec svc later := by
  unfold appendedText
  split
  · rw [appendsOf_append, List.flatMap_append]
  · rfl

theorem appendedText_self {svc : Text} (hname : isFileName (mockFileName svc) = true)
    (e : MockEntry) :
    appendedText codec svc [.appendMockLog svc e] = codec.print e ++ ['\n'] := by
  unfold appendedText appendsOf
  rw [if_pos hname]
  simp [mockAppend]

theorem mockText_completeTask (s : LiveProxy) (now : Nat) (task : Spawned) (svc : Text) :
    mockText (completeTask codec s now task) svc
      = mockText s svc ++ appendedText codec svc [task] := by
  have hnone : mockAppend task = none → appendedText codec svc [task] = [] := by
    intro h
    unfold appendedText appendsOf
    rw [List.filterMap_cons_none h]
    exact ite_self _
  cases task with
  | appendTrafficLog svc' e =>
      rw [hnone rfl, List.append_nil]
      unfold completeTask
      dsimp only
      split <;> rfl
  | appendWideEvent | captureCreate =>
      rw [hnone rfl, List.append_nil]
      rfl
  | appendMockLog svc' e =>
      have happends : appendsOf svc [.appendMockLog svc' e] = if svc' = svc then [e] else [] := by
        unfold appendsOf
        by_cases hsvc : svc' = svc <;> simp [mockAppend, hsvc]
      unfold appendedText completeTask
      rw [happends]
      dsimp only
      by_cases hsvc : svc' = svc
      · subst hsvc
        rw [if_pos rfl, List.flatMap_singleton]
        by_cases hname : isFileName (mockFileName svc') = true
        · rw [if_pos hname, if_pos hname, mockText, appendToMockLog, Finmap.lookup_insert,
            Option.getD_some]
          rfl
        · rw [if_neg hname, if_neg hname, List.append_nil]
      · rw [if_neg hsvc, List.flatMap_nil, ite_self, List.append_nil]
        split
        · have hother : mockFileName svc ≠ mockFileName svc' :=
            fun h => hsvc (mockFileName_injective h).symm
          rw [mockText, appendToMockLog, Finmap.lookup_insert_of_ne _ hother]
          rfl
        · rfl

/-- A task does to the state what it does in a settled request. -/
theorem state_completeTask (s : LiveProxy) (now : Nat) (task : Spawned) :
    (completeTask codec s now task).state = runSpawned now s.state task := by
  cases task with
  | appendMockLog | appendTrafficLog =>
      unfold completeTask
      dsimp only
      split <;> rfl
  | appendWideEvent | captureCreate => rfl

theorem mocks_completeTask (s : LiveProxy) (now : Nat) (task : Spawned) :
    (completeTask codec s now task).state.mocks = s.state.mocks := by
  rw [state_completeTask]
  exact (mockFrame_runSpawned now s.state task).mocks

/-- A request whose tasks all run before anything else happens is the
request of `handle`. -/
theorem state_completed_request (s : LiveProxy) (r : RoutedRequest) :
    ((publishOp env cfg s (.request r)).2.foldl
        (fun s task => completeTask codec s r.call.systemTime task)
        (publishOp env cfg s (.request r)).1).state
      = (handle env cfg (r.setup s.state) r.call).1 := by
  have hsettle : ∀ (tasks : List Spawned) (s : LiveProxy) (now : Nat),
      (tasks.foldl (fun s task => completeTask codec s now task) s).state
        = settle now s.state tasks := by
    intro tasks
    induction tasks with
    | nil => exact fun _ _ => rfl
    | cons task tasks ih =>
        intro s now
        rw [List.foldl_cons, ih, state_completeTask]
        rfl
  rw [hsettle]
  rfl

variable (codec) in
/-- The library holds the last publish of every key, a file what was
appended to it. -/
structure PublishedInv (s : LiveProxy) (spawned completed : List Spawned) : Prop where
  memory : ∀ svc, s.state.mocks.mocksOf svc = lastByKey (appendsOf svc spawned)
  disk : ∀ svc, mockText s svc = appendedText codec svc completed

theorem publishedInv_start {st : AppState} (hnew : st.mocks = MockLibrary.new) :
    PublishedInv codec (LiveProxy.start st) [] [] where
  memory := by
    intro svc
    show st.mocks.mocksOf svc = _
    rw [hnew, MockLibrary.mocksOf_new]
    rfl
  disk := fun _ => (ite_self _).symm

theorem publishedInv_publish {s : LiveProxy} {spawned completed : List Spawned}
    (h : PublishedInv codec s spawned completed) (p : Publish) :
    PublishedInv codec (publishOp env cfg s p).1 (spawned ++ (publishOp env cfg s p).2)
      completed := by
  obtain ⟨published, hreturns⟩ := publishReturns env cfg s p
  refine ⟨fun svc => ?_, fun svc => ?_⟩
  · have happends : appendsOf svc (publishOp env cfg s p).2
        = (published.toList.filter fun p => p.1 = svc).map (·.2) := by
      rw [appendsOf, hreturns.appends]
    rw [appendsOf_append, happends, hreturns.mocks]
    cases published with
    | none =>
        rw [Option.toList_none, List.filter_nil, List.map_nil, List.append_nil]
        exact h.memory svc
    | some pair =>
        obtain ⟨svc', e⟩ := pair
        dsimp only
        rw [MockLibrary.mocksOf_publish, Option.toList_some]
        by_cases hsvc : svc = svc'
        · subst hsvc
          rw [if_pos rfl, List.filter_cons_of_pos (by simp), List.filter_nil,
            List.map_singleton, lastByKey_append_singleton, h.memory]
        · rw [if_neg hsvc, List.filter_cons_of_neg (by simpa using Ne.symm hsvc),
            List.filter_nil, List.map_nil, List.append_nil]
          exact h.memory svc
  · rw [← h.disk, mockText, hreturns.mockDir]
    rfl

theorem publishedInv_complete {s : LiveProxy} {spawned completed : List Spawned}
    (h : PublishedInv codec s spawned completed) (now : Nat) (task : Spawned) :
    PublishedInv codec (completeTask codec s now task) spawned (completed ++ [task]) where
  memory := by
    intro svc
    rw [mocks_completeTask]
    exact h.memory svc
  disk := by
    intro svc
    rw [mockText_completeTask, appendedText_append, h.disk]

theorem publishedInv_exec {st : AppState} (hnew : st.mocks = MockLibrary.new)
    {run : List (Detached.Action Publish Nat)} {w : Detached.World LiveProxy Spawned}
    (hrun : Machine.exec (Detached.step (publishOp env cfg) (completeTask codec))
      (Detached.World.start (LiveProxy.start st)) run = some w) :
    PublishedInv codec w.state w.spawned w.completed := by
  refine Detached.exec_inv (P := fun _ => True) ?_ ?_ (publishedInv_start hnew)
    (fun _ _ => trivial) hrun
  · exact fun _ _ _ p _ h => publishedInv_publish h p
  · exact fun _ _ _ now task _ h => publishedInv_complete h now task

-- =========================================================== the agreement

/-- The text the appends left stands for the last of them. -/
theorem readMocks_appendedText (hcodec : codec.Lawful) {svc : Text}
    (hname : isFileName (mockFileName svc) = true) (tasks : List Spawned) :
    readMocks codec (appendedText codec svc tasks) = lastByKey (appendsOf svc tasks) := by
  unfold appendedText
  rw [if_pos hname]
  generalize appendsOf svc tasks = entries
  induction entries using List.reverseRecOn with
  | nil => rfl
  | append_singleton entries e ih =>
      rw [List.flatMap_append, List.flatMap_singleton,
        readMocks_append hcodec (Text.newlineTerminated_flatMap _ _), ih,
        lastByKey_append_singleton]

/-- After any run of publishes whose appends run in any order, a library
loaded from the directory is the live one exactly when, under every key of
every service, the entry appended last is the one whose append was spawned
last. -/
theorem mock_files_agree_iff (env : Externals) (cfg : Config) (codec : EntryCodec)
    (hcodec : codec.Lawful) (rs : RandomState) (st : AppState)
    (hnew : st.mocks = MockLibrary.new) (run : List (Detached.Action Publish Nat))
    (w : Detached.World LiveProxy Spawned)
    (hrun : Machine.exec (Detached.step (publishOp env cfg) (completeTask codec))
      (Detached.World.start (LiveProxy.start st)) run = some w)
    (hquiet : w.Quiescent)
    (hplain : ∀ svc e, .appendMockLog svc e ∈ w.spawned → isFileName (mockFileName svc) = true) :
    (∀ svc key, ((loadAllServiceMocks codec rs w.state.mockDir).2.mocksOf svc).lookup key
        = (w.state.state.mocks.mocksOf svc).lookup key)
      ↔ ∀ svc key, lastAppend w.completed svc key = lastAppend w.spawned svc key := by
  have hinv := publishedInv_exec hnew hrun
  have hloaded : ∀ svc, (loadAllServiceMocks codec rs w.state.mockDir).2.mocksOf svc
      = lastByKey (appendsOf svc w.completed) := by
    intro svc
    rw [mocksOf_loadAll_mockText, hinv.disk]
    by_cases hname : isFileName (mockFileName svc) = true
    · exact readMocks_appendedText hcodec hname w.completed
    · have hnone : appendsOf svc w.completed = [] := by
        rw [List.eq_nil_iff_forall_not_mem]
        intro e he
        have hmem := (Detached.completed_perm hrun hquiet).mem_iff.mp (mem_appendsOf.mp he)
        exact hname (hplain svc e hmem)
      unfold appendedText
      rw [if_neg hname, hnone]
      rfl
  simp only [hloaded, hinv.memory, lookup_lastByKey_appendsOf]

end Runs

-- ============================================================= two bodies

/-- Two entries of one key, with their lines as the JSON library prints
them. -/
def twoBodies : LineTable :=
  .pair (getEntry "/a" "first") (getEntry "/a" "second") (getLine "/a" "first")
    (getLine "/a" "second") ⟨⟨by decide, by decide⟩, by decide⟩
    ⟨⟨by decide, by decide⟩, by decide⟩ (by decide)

/-- Both are posted, and their two appends run. -/
def twoCreated (first second : Nat) : List (Detached.Action Publish Nat) :=
  [.op (.createMock (getEntry "/a" "first")), .op (.createMock (getEntry "/a" "second")),
    .complete first 0, .complete second 0]

def keyOfA : MockKey := ("GET", "/a", globalTenant)

/-- The appends run in the order of the posts. -/
theorem mock_files_agree_in_turn :
    ∃ w, Machine.exec
        (Detached.step (publishOp default Config.new) (completeTask twoBodies.codec))
        (Detached.World.start (LiveProxy.start emptyProxy)) (twoCreated 0 0) = some w
      ∧ ∀ (rs : RandomState) (svc : Text) (key : MockKey),
        ((loadAllServiceMocks twoBodies.codec rs w.state.mockDir).2.mocksOf svc).lookup key
          = (w.state.state.mocks.mocksOf svc).lookup key := by
  refine ⟨_, rfl, fun rs => ?_⟩
  refine (mock_files_agree_iff default Config.new twoBodies.codec twoBodies.codec_lawful rs
    emptyProxy rfl (twoCreated 0 0) _ rfl rfl ?_).mpr fun _ _ => rfl
  intro svc e h
  have hspawned : Spawned.appendMockLog svc e
      ∈ [Spawned.appendMockLog globalTenant (getEntry "/a" "first"),
        .appendMockLog globalTenant (getEntry "/a" "second")] := h
  have hsvc : svc = globalTenant := by
    simp only [List.mem_cons, Spawned.appendMockLog.injEq, List.not_mem_nil, or_false] at hspawned
    rcases hspawned with ⟨rfl, -⟩ | ⟨rfl, -⟩
    · rfl
    · rfl
  rw [hsvc]
  decide

/-- The appends run in the other order: the library holds the second body,
the file stands for the first. -/
theorem mock_files_keep_first_body :
    ∃ w, Machine.exec
        (Detached.step (publishOp default Config.new) (completeTask twoBodies.codec))
        (Detached.World.start (LiveProxy.start emptyProxy)) (twoCreated 1 0) = some w
      ∧ w.Quiescent
      ∧ (w.state.state.mocks.mocksOf globalTenant).lookup keyOfA
        = some (getEntry "/a" "second")
      ∧ (∀ rs : RandomState,
        ((loadAllServiceMocks twoBodies.codec rs w.state.mockDir).2.mocksOf
          globalTenant).lookup keyOfA = some (getEntry "/a" "first"))
      ∧ getEntry "/a" "first" ≠ getEntry "/a" "second" := by
  have hinv := publishedInv_exec (show emptyProxy.mocks = MockLibrary.new from rfl)
    (show Machine.exec
      (Detached.step (publishOp default Config.new) (completeTask twoBodies.codec))
      (Detached.World.start (LiveProxy.start emptyProxy)) (twoCreated 1 0) = some _ from rfl)
  refine ⟨_, rfl, rfl, ?_, fun rs => ?_, by decide⟩
  · rw [hinv.memory, lookup_lastByKey_appendsOf]
    rfl
  · rw [mocksOf_loadAll_mockText, hinv.disk,
      readMocks_appendedText twoBodies.codec_lawful (by decide), lookup_lastByKey_appendsOf]
    rfl

end GostlyProxy
