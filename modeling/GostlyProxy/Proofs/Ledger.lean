/-
The traffic log as a ledger, and the serving index as its view.

A recording of a routed service leaves two appends behind: its entry, for
the mock file, and the same entry under an id of its own, for the traffic
log. The mock file is compacted and the index keeps one entry per key; the
traffic log keeps every line. So once the tasks have run, in whatever
order, the traffic log of a service holds one line per publish, what the
index serves is among them, and a replay of the log in its order is the
index when the lines came in order (`index_is_view_of_ledger`).
-/
import GostlyProxy.Proofs.MockTasks
import GostlyProxy.Proofs.Secrets

namespace GostlyProxy

open Lib

-- ======================================================= the traffic appends

/-- The append to a traffic log that a task is. -/
def trafficAppend : Spawned → Option (Text × MockEntry)
  | .appendTrafficLog svcId entry => some (svcId, entry)
  | _ => none

/-- The entries the traffic appends of a service are of, in order. -/
def trafficOf (svc : Text) (tasks : List Spawned) : List MockEntry :=
  ((tasks.filterMap trafficAppend).filter fun p => p.1 = svc).map (·.2)

/-- What two records of one exchange have in common. -/
def MockEntry.withoutId (e : MockEntry) : MockEntry := { e with id := [] }

theorem MockEntry.key_withoutId (e : MockEntry) : e.withoutId.key = e.key := rfl

theorem trafficOf_append (svc : Text) (tasks later : List Spawned) :
    trafficOf svc (tasks ++ later) = trafficOf svc tasks ++ trafficOf svc later := by
  unfold trafficOf
  rw [List.filterMap_append, List.filter_append, List.map_append]

theorem trafficFileName_injective : Function.Injective trafficFileName := by
  intro s s' h
  exact List.append_cancel_right (List.append_cancel_left h)

section Ledger

variable {env : Externals} {cfg : Config} {codec : EntryCodec} {svc : Text}

-- ============================================================== one recording

/-- A recording of the service leaves its entry twice, under two ids. -/
theorem trafficOf_learnSpawned (hrouted : svc ≠ globalTenant) (call : Call)
    (ctx : RequestContext) (seq : UInt64) (entry : MockEntry) (res : UpstreamResponse) :
    (trafficOf svc (learnSpawned env cfg call ctx seq entry res)).map MockEntry.withoutId
      = (appendsOf svc (learnSpawned env cfg call ctx seq entry res)).map
        MockEntry.withoutId := by
  have hcapture : (learnCapture env call ctx res).filterMap trafficAppend = [] :=
    filterMap_learnCapture env call ctx res fun _ _ _ _ _ => rfl
  have htraffic : (learnSpawned env cfg call ctx seq entry res).filterMap trafficAppend
      = ctx.resolved.serviceId.toList.map fun svcId => (svcId, trafficEntry call seq entry) := by
    unfold learnSpawned
    rw [List.filterMap_append, List.filterMap_append, List.filterMap_append, hcapture]
    cases cfg.observabilityEnabled <;> cases ctx.resolved.serviceId <;> rfl
  unfold trafficOf appendsOf
  rw [htraffic, mockAppends_learnSpawned]
  cases hsvc : ctx.resolved.serviceId with
  | none =>
      have hkey : ctx.svcKey ≠ svc := by
        rw [RequestContext.svcKey, hsvc, Option.getD_none]
        exact hrouted.symm
      simp [hkey]
  | some svcId =>
      have hkey : ctx.svcKey = svcId := by rw [RequestContext.svcKey, hsvc, Option.getD_some]
      rw [hkey]
      by_cases hs : svcId = svc
      · simp [hs, trafficEntry, MockEntry.withoutId]
      · simp [hs]

/-- A call posts no mock to the service. -/
def Publish.Spares (svc : Text) : Publish → Prop
  | .request _ => True
  | .createMock entry => injectedService (acceptedEntry entry) ≠ svc

theorem trafficOf_publishOp (hrouted : svc ≠ globalTenant) (s : LiveProxy) {p : Publish}
    (hp : p.Spares svc) :
    (trafficOf svc (publishOp env cfg s p).2).map MockEntry.withoutId
      = (appendsOf svc (publishOp env cfg s p).2).map MockEntry.withoutId := by
  have hcase := publishCase env cfg s p
  generalize publishOp env cfg s p = out at hcase ⊢
  cases hcase with
  | recorded r ctx res h => exact trafficOf_learnSpawned hrouted _ ctx _ _ res
  | quiet r st hmocks => rfl
  | created entry =>
      have hne : injectedService (acceptedEntry entry) ≠ svc := hp
      simp [trafficOf, appendsOf, trafficAppend, mockAppend, hne]

-- =================================================================== one task

theorem trafficText_completeTask (hname : isFileName (trafficFileName svc) = true)
    (s : LiveProxy) (now : Nat) (task : Spawned) :
    trafficText (completeTask codec s now task) svc
      = trafficText s svc ++ (trafficOf svc [task]).flatMap fun e => codec.print e ++ ['\n'] := by
  cases task with
  | appendMockLog svc' e =>
      unfold completeTask
      dsimp only
      split <;> exact (List.append_nil _).symm
  | appendWideEvent | captureCreate => exact (List.append_nil _).symm
  | appendTrafficLog svc' e =>
      by_cases hsvc : svc' = svc
      · subst hsvc
        have hone : trafficOf svc' [.appendTrafficLog svc' e] = [e] := by
          simp [trafficOf, trafficAppend]
        rw [hone, List.flatMap_singleton, trafficText, completeTask, if_pos hname,
          appendToTrafficLog, Finmap.lookup_insert, Option.getD_some]
        rfl
      · have hnone : trafficOf svc [.appendTrafficLog svc' e] = [] := by
          simp [trafficOf, trafficAppend, hsvc]
        have hother : trafficFileName svc ≠ trafficFileName svc' :=
          fun h => hsvc (trafficFileName_injective h).symm
        rw [hnone, List.flatMap_nil, List.append_nil]
        unfold completeTask
        dsimp only
        split
        · rw [trafficText, appendToTrafficLog, Finmap.lookup_insert_of_ne _ hother]
          rfl
        · rfl

-- ==================================================================== the runs

/-- The two logs are left the same entries, and the traffic log has the
lines appended so far. -/
structure LedgerInv (codec : EntryCodec) (svc : Text) (s : LiveProxy)
    (spawned completed : List Spawned) : Prop where
  pairs : (trafficOf svc spawned).map MockEntry.withoutId
    = (appendsOf svc spawned).map MockEntry.withoutId
  text : trafficText s svc
    = (trafficOf svc completed).flatMap fun e => codec.print e ++ ['\n']

theorem ledgerInv_publish (hrouted : svc ≠ globalTenant) {s : LiveProxy}
    {spawned completed : List Spawned} (h : LedgerInv codec svc s spawned completed)
    {p : Publish} (hp : p.Spares svc) :
    LedgerInv codec svc (publishOp env cfg s p).1 (spawned ++ (publishOp env cfg s p).2)
      completed where
  pairs := by
    rw [trafficOf_append, appendsOf_append, List.map_append, List.map_append, h.pairs,
      trafficOf_publishOp hrouted s hp]
  text := by
    obtain ⟨published, hreturns⟩ := publishReturns env cfg s p
    rw [← h.text, trafficText, hreturns.trafficDir]
    rfl

theorem ledgerInv_complete (hname : isFileName (trafficFileName svc) = true) {s : LiveProxy}
    {spawned completed : List Spawned} (h : LedgerInv codec svc s spawned completed)
    (now : Nat) (task : Spawned) :
    LedgerInv codec svc (completeTask codec s now task) spawned (completed ++ [task]) where
  pairs := h.pairs
  text := by
    rw [trafficText_completeTask hname, h.text, trafficOf_append, List.flatMap_append]

theorem ledgerInv_exec (hname : isFileName (trafficFileName svc) = true)
    (hrouted : svc ≠ globalTenant) {st : AppState}
    {run : List (Detached.Action Publish Nat)} {w : Detached.World LiveProxy Spawned}
    (hspares : ∀ p, .op p ∈ run → p.Spares svc)
    (hrun : Machine.exec (Detached.step (publishOp env cfg) (completeTask codec))
      (Detached.World.start (LiveProxy.start st)) run = some w) :
    LedgerInv codec svc w.state w.spawned w.completed := by
  refine Detached.exec_inv (P := Publish.Spares svc) ?_ ?_ ⟨rfl, rfl⟩ hspares hrun
  · exact fun _ _ _ _ hp h => ledgerInv_publish hrouted h hp
  · exact fun _ _ _ now task _ h => ledgerInv_complete hname h now task

-- =================================================================== the view

/-- The lines appended to a traffic log are the entries. -/
theorem parseLines_trafficText (hcodec : codec.Lawful) {s : LiveProxy}
    {spawned completed : List Spawned} (h : LedgerInv codec svc s spawned completed) :
    parseLines codec (trafficText s svc) = trafficOf svc completed := by
  unfold parseLines
  rw [h.text]
  generalize trafficOf svc completed = entries
  induction entries using List.reverseRecOn with
  | nil => rfl
  | append_singleton entries e ih =>
      rw [List.flatMap_append, List.flatMap_singleton, Text.lines_append_line
        (Text.newlineTerminated_flatMap _ _) (hcodec.isLine_print e), List.filterMap_append, ih]
      simp [hcodec.parse_print]

/-- What some entries hold under a key does not depend on their ids. -/
theorem map_lookup_lastByKey (entries : List MockEntry) (key : MockKey) :
    ((lastByKey entries).lookup key).map MockEntry.withoutId
      = ((entries.map MockEntry.withoutId).filter (·.key = key)).getLast? := by
  have hlook : (lastByKey entries).lookup key = (entries.filter (·.key = key)).getLast? :=
    HashMap.lookup_collect_by MockEntry.key entries key
  rw [hlook, List.filter_map, List.getLast?_map]
  rfl

end Ledger

/-- Once the tasks of a run of requests and posts have run, in any order,
the traffic log of a routed service that no mock was posted to holds one
line per publish; it has lines of exactly the keys the index serves, and
what the index serves is one of them; and where its lines came in the order
of the requests, the log read as a mock file is the index, up to ids. -/
theorem index_is_view_of_ledger (env : Externals) (cfg : Config) (codec : EntryCodec)
    (hcodec : codec.Lawful) (st : AppState) (hnew : st.mocks = MockLibrary.new)
    (run : List (Detached.Action Publish Nat)) (w : Detached.World LiveProxy Spawned)
    (hrun : Machine.exec (Detached.step (publishOp env cfg) (completeTask codec))
      (Detached.World.start (LiveProxy.start st)) run = some w)
    (hquiet : w.Quiescent) (svc : Text) (hname : isFileName (trafficFileName svc) = true)
    (hrouted : svc ≠ globalTenant) (hspares : ∀ p, .op p ∈ run → p.Spares svc) :
    (parseLines codec (trafficText w.state svc)).length = (appendsOf svc w.spawned).length
      ∧ (∀ key, ((w.state.state.mocks.mocksOf svc).lookup key).isSome
          ↔ ∃ e ∈ parseLines codec (trafficText w.state svc), e.key = key)
      ∧ (∀ key e, (w.state.state.mocks.mocksOf svc).lookup key = some e →
          ∃ e' ∈ parseLines codec (trafficText w.state svc), e'.withoutId = e.withoutId)
      ∧ (trafficOf svc w.completed = trafficOf svc w.spawned → ∀ key,
          ((readMocks codec (trafficText w.state svc)).lookup key).map MockEntry.withoutId
            = ((w.state.state.mocks.mocksOf svc).lookup key).map MockEntry.withoutId) := by
  have hledger := ledgerInv_exec hname hrouted hspares hrun
  have hlines := parseLines_trafficText hcodec hledger
  have hindex := (publishedInv_exec hnew hrun).memory svc
  -- The lines are the publishes, in the order their appends ran.
  have hperm : ((trafficOf svc w.completed).map MockEntry.withoutId).Perm
      ((appendsOf svc w.spawned).map MockEntry.withoutId) := by
    have htasks := Detached.completed_perm hrun hquiet
    have htraffic : (trafficOf svc w.completed).Perm (trafficOf svc w.spawned) :=
      ((htasks.filterMap _).filter _).map _
    rw [← hledger.pairs]
    exact htraffic.map _
  have hlookup : ∀ key, (w.state.state.mocks.mocksOf svc).lookup key
      = ((appendsOf svc w.spawned).filter (·.key = key)).getLast? := by
    intro key
    rw [hindex]
    exact HashMap.lookup_collect_by MockEntry.key _ key
  rw [hlines]
  refine ⟨?_, ?_, ?_, ?_⟩
  · simpa using hperm.length_eq
  · intro key
    have hkeys : ((trafficOf svc w.completed).map MockEntry.key).Perm
        ((appendsOf svc w.spawned).map MockEntry.key) := by
      have hmapped := hperm.map MockEntry.key
      rw [List.map_map, List.map_map] at hmapped
      exact hmapped
    rw [hlookup, List.getLast?_isSome, Ne, List.filter_eq_nil_iff]
    have hmem := hkeys.mem_iff (a := key)
    simp only [List.mem_map] at hmem
    rw [hmem]
    simp
  · intro key e he
    rw [hlookup] at he
    have hmem := (List.mem_filter.mp (List.mem_of_getLast? he)).1
    have hline := hperm.mem_iff.mpr (List.mem_map.mpr ⟨e, hmem, rfl⟩)
    obtain ⟨e', he', heq⟩ := List.mem_map.mp hline
    exact ⟨e', he', heq⟩
  · intro horder key
    have hread : readMocks codec (trafficText w.state svc)
        = lastByKey (trafficOf svc w.spawned) := by
      rw [readMocks, hlines, horder]
      rfl
    rw [hread, hindex, map_lookup_lastByKey, map_lookup_lastByKey, hledger.pairs]

-- ============================================================ one recording

/-- Everything goes to one service. -/
def ledgerRoute : UpstreamRoute where
  routingType := "path"
  routingValue := "/"
  upstreamUrl := "http://billing"
  serviceId := "billing"
  mode := none
  redactHeaders := []

/-- A recording of `GET /a` with the given body. -/
noncomputable def ledgerRequest (body : Text) : RoutedRequest where
  mode := .learn
  upstreams := [ledgerRoute]
  call := Call.plain default getA (some { jsonAnswer with body := Text.utf8 body })

/-- The request is recorded twice, and the four appends run backwards. -/
noncomputable def ledgerRun : List (Detached.Action Publish Nat) :=
  [.op (.request (ledgerRequest "1")), .op (.request (ledgerRequest "2")),
    .complete 3 0, .complete 2 0, .complete 1 0, .complete 0 0]

/-- The traffic log has both recordings, though the index serves one, and
what is served is a line of the log. -/
theorem index_is_view_of_ledger_billing :
    ∃ w, Machine.exec
        (Detached.step (publishOp default Config.new) (completeTask sampleCodec))
        (Detached.World.start (LiveProxy.start emptyProxy)) ledgerRun = some w
      ∧ (trafficOf "billing" w.spawned).map (·.response.body) = ["1", "2"]
      ∧ (trafficOf "billing" w.completed).map (·.response.body) = ["2", "1"]
      ∧ (parseLines sampleCodec (trafficText w.state "billing")).length = 2
      ∧ (∀ key, ((w.state.state.mocks.mocksOf "billing").lookup key).isSome
          ↔ ∃ e ∈ parseLines sampleCodec (trafficText w.state "billing"), e.key = key)
      ∧ (∀ key e, (w.state.state.mocks.mocksOf "billing").lookup key = some e →
          ∃ e' ∈ parseLines sampleCodec (trafficText w.state "billing"),
            e'.withoutId = e.withoutId)
      ∧ (trafficOf "billing" w.completed = trafficOf "billing" w.spawned → ∀ key,
          ((readMocks sampleCodec (trafficText w.state "billing")).lookup key).map
              MockEntry.withoutId
            = ((w.state.state.mocks.mocksOf "billing").lookup key).map MockEntry.withoutId) := by
  have hspares : ∀ p, .op p ∈ ledgerRun → p.Spares "billing" := by
    intro p hp
    simp only [ledgerRun, List.mem_cons, Detached.Action.op.injEq, reduceCtorEq,
      List.not_mem_nil, or_false] at hp
    rcases hp with rfl | rfl <;> trivial
  obtain ⟨hlines, hview⟩ := index_is_view_of_ledger default Config.new sampleCodec
    sampleCodec_lawful emptyProxy rfl ledgerRun _ rfl rfl "billing" (by decide) (by decide) hspares
  exact ⟨_, rfl, rfl, rfl, hlines.trans rfl, hview⟩

end GostlyProxy
