/-
The ids of what LEARN requests record, when the requests overlap.

A request makes two entries. The one for the serving index has the reading
of the millisecond clock as its id. The one for the traffic log, which a
routed request makes, has a later reading and a number taken from the
counter the requests share. The requests are threads (`Lib/Threads.lean`)
that read the clock, take the number, read the clock again and publish, with
any readings.

While fewer numbers are taken than the counter has, no number is taken twice
(`Numbered`), and the number can be read off the id (`trafficId_injective`),
so the ids of the traffic log are distinct. The ids of the serving index have
nothing but the clock: they are distinct exactly when no two requests that
publish had the same first reading (`distinctIds_iff`).
-/
import GostlyProxy.Lib.Threads
import GostlyProxy.Model.Handler

namespace GostlyProxy

open Lib

-- ==================================================================== ids

/-- `timestamp_millis().to_string()`. -/
def entryId (millis : Int) : Text := Text.ofInt millis

/-- `format!("{}_{}", ts, seq)`. -/
def trafficId (millis : Int) (seq : UInt64) : Text :=
  Text.ofInt millis ++ '_' :: Text.ofNat seq.toNat

theorem entryId_injective {m n : Int} (h : entryId m = entryId n) : m = n :=
  Text.ofInt_injective h

/-- The number of a traffic id stands behind its one underscore. -/
theorem trafficId_injective {m n : Int} {seq seq' : UInt64}
    (h : trafficId m seq = trafficId n seq') : seq = seq' := by
  have hcut : ∀ (k : Int) (s : UInt64),
      Text.cut '_' (trafficId k s) = some (Text.ofInt k, Text.ofNat s.toNat) := fun k s =>
    Text.cut_append _ (Text.underscore_not_mem_ofInt k)
  have hpair := (hcut m seq).symm.trans ((congrArg (Text.cut '_') h).trans (hcut n seq'))
  have hseq := Text.ofNat_injective (Prod.mk.inj (Option.some.inj hpair)).2
  exact UInt64.toNat_inj.mp hseq

-- ============================================================== the requests

/-- What a LEARN request records, but for the id, and the two readings of
the clock it gets. -/
structure LearnRequest where
  entry : MockEntry
  entryMillis : Int
  trafficMillis : Int

/-- The entry for the serving index. -/
def LearnRequest.indexed (r : LearnRequest) : MockEntry :=
  { r.entry with id := entryId r.entryMillis }

/-- The entry for the traffic log. -/
def LearnRequest.logged (r : LearnRequest) (seq : UInt64) : MockEntry :=
  { r.indexed with id := trafficId r.trafficMillis seq }

/-- Where a request stands, with what it made so far. -/
inductive LearnPhase where
  | arrived
  | stamped (entry : MockEntry)
  | counted (entry : MockEntry) (seq : UInt64)
  | logged (entry trafficEntry : MockEntry)
  | published (entry : MockEntry) (trafficEntry : Option MockEntry)

inductive LearnMove where
  | readClock
  | fetchAdd
  | readTrafficClock
  | publish
  deriving DecidableEq

/-- The steps of a request on the shared counter; only a routed one takes a
number. -/
def learnAct (r : LearnRequest) (counter : UInt64) :
    LearnPhase → LearnMove → Option (UInt64 × LearnPhase)
  | .arrived, .readClock => some (counter, .stamped { r.entry with id := entryId r.entryMillis })
  | .stamped entry, .fetchAdd =>
      if entry.serviceId.isSome then some (counter + 1, .counted entry counter) else none
  | .counted entry seq, .readTrafficClock =>
      some (counter, .logged entry { entry with id := trafficId r.trafficMillis seq })
  | .logged entry trafficEntry, .publish => some (counter, .published entry (some trafficEntry))
  | .stamped entry, .publish =>
      if entry.serviceId.isSome then none else some (counter, .published entry none)
  | _, _ => none

/-- The entry written to the traffic log. -/
def LearnPhase.trafficEntry : LearnPhase → Option MockEntry
  | .logged _ trafficEntry => some trafficEntry
  | .published _ trafficEntry => trafficEntry
  | _ => none

/-- The entry published to the serving index. -/
def LearnPhase.publishedEntry : LearnPhase → Option MockEntry
  | .published entry _ => some entry
  | _ => none

/-- No two requests made entries of one id. -/
def DistinctIds {n : Nat} (made : Fin n → Option MockEntry) : Prop :=
  ∀ i j e f, i ≠ j → made i = some e → made j = some f → e.id ≠ f.id

/-- The numbers taken in a schedule. -/
def taken {n : Nat} (schedule : List (Fin n × LearnMove)) : Nat :=
  schedule.countP fun a => a.2 = .fetchAdd

-- ============================================== one request and the handler

/-- A routed request takes one number. -/
theorem alone_routed (r : LearnRequest) (start : UInt64) (h : r.entry.serviceId.isSome = true) :
    Machine.exec (Threads.step fun _ : Unit => learnAct r) (.start start .arrived)
        [((), .readClock), ((), .fetchAdd), ((), .readTrafficClock), ((), .publish)] =
      some (.start (start + 1) (.published r.indexed (some (r.logged start)))) := by
  obtain ⟨⟨id, timestamp, request, response, serviceId, tenant, workloadClass⟩, m, n⟩ := r
  obtain ⟨svc, rfl⟩ := Option.isSome_iff_exists.mp h
  rfl

theorem alone_unrouted (r : LearnRequest) (start : UInt64) (h : r.entry.serviceId = none) :
    Machine.exec (Threads.step fun _ : Unit => learnAct r) (.start start .arrived)
        [((), .readClock), ((), .publish)] =
      some (.start start (.published r.indexed none)) := by
  obtain ⟨⟨id, timestamp, request, response, serviceId, tenant, workloadClass⟩, m, n⟩ := r
  cases h
  rfl

section Handler

variable (env : Externals) (cfg : Config) (call : Call) (ctx : RequestContext)

/-- A round trip of the handler as a request of this module. -/
def learnRequest (res : UpstreamResponse) : LearnRequest where
  entry := learnEntry env cfg call ctx res
  entryMillis := call.nowMillis
  trafficMillis := call.trafficMillis

theorem indexed_learnRequest (res : UpstreamResponse) :
    (learnRequest env cfg call ctx res).indexed = learnEntry env cfg call ctx res := by
  show { learnEntry env cfg call ctx res with id := entryId call.nowMillis } = _
  rw [entryId, Text.ofInt_natCast]
  rfl

theorem logged_learnRequest (res : UpstreamResponse) (seq : UInt64) :
    (learnRequest env cfg call ctx res).logged seq =
      trafficEntry call seq (learnEntry env cfg call ctx res) := by
  rw [LearnRequest.logged, indexed_learnRequest, trafficEntry]
  show { learnEntry env cfg call ctx res with id := trafficId call.trafficMillis seq } = _
  rw [trafficId, Text.ofInt_natCast]

/-- Alone, the request leaves the counter of the handler and makes the
handler's entries. -/
theorem learnRequest_alone (st : AppState) (res : UpstreamResponse) :
    ∃ moves, Machine.exec
        (Threads.step fun _ : Unit => learnAct (learnRequest env cfg call ctx res))
        (.start st.entryCounter .arrived) moves =
      some (.start (learnState ctx (learnEntry env cfg call ctx res) st).entryCounter
        (.published (learnEntry env cfg call ctx res)
          (ctx.resolved.serviceId.map fun _ =>
            trafficEntry call st.entryCounter (learnEntry env cfg call ctx res)))) := by
  have hservice : (learnRequest env cfg call ctx res).entry.serviceId = ctx.resolved.serviceId :=
    rfl
  have hindexed := indexed_learnRequest env cfg call ctx res
  have hlogged := logged_learnRequest env cfg call ctx res st.entryCounter
  rw [learnState]
  cases hrouted : ctx.resolved.serviceId with
  | some svc =>
      have halone := alone_routed (learnRequest env cfg call ctx res) st.entryCounter
        (by rw [hservice, hrouted]; rfl)
      rw [hindexed, hlogged] at halone
      exact ⟨_, halone⟩
  | none =>
      have halone := alone_unrouted (learnRequest env cfg call ctx res) st.entryCounter
        (by rw [hservice, hrouted])
      rw [hindexed] at halone
      exact ⟨_, halone⟩

end Handler

-- ================================================================= the runs

section Runs

variable {n : Nat} (requests : Fin n → LearnRequest)

abbrev LearnWorld (n : Nat) := Threads.World (Fin n) UInt64 LearnPhase

/-- One step of one of the requests. -/
abbrev learnStep : LearnWorld n → Fin n × LearnMove → Option (LearnWorld n) :=
  Threads.step fun i => learnAct (requests i)

/-- What a request made, by where it stands and the turn at which it took
its number. -/
def Made (r : LearnRequest) (start : UInt64) (turn : Option Nat) : LearnPhase → Prop
  | .arrived => turn = none
  | .stamped entry => turn = none ∧ entry = r.indexed
  | .counted entry seq =>
      entry = r.indexed ∧ ∃ k, turn = some k ∧ seq = start + UInt64.ofNat k
  | .logged entry trafficEntry =>
      entry = r.indexed ∧ ∃ k, turn = some k ∧ trafficEntry = r.logged (start + UInt64.ofNat k)
  | .published entry trafficEntry =>
      entry = r.indexed ∧ ∀ e, trafficEntry = some e →
        ∃ k, turn = some k ∧ e = r.logged (start + UInt64.ofNat k)

/-- The state of the requests after some steps: no two took their numbers at
the same turn. -/
structure Numbered (start : UInt64) (turn : Fin n → Option Nat) (w : LearnWorld n)
    (past : List (Fin n × LearnMove)) : Prop where
  counter : w.shared = start + UInt64.ofNat (taken past)
  turn_lt : ∀ i k, turn i = some k → k < taken past
  turn_inj : ∀ i j k, turn i = some k → turn j = some k → i = j
  made : ∀ i, Made (requests i) start (turn i) (w.thread i)
  published : ∀ i, (i, .publish) ∈ past ↔ (w.thread i).publishedEntry.isSome

variable {requests}

/-- What a step does, one case for each. -/
inductive LearnStep (r : LearnRequest) (counter : UInt64) :
    LearnPhase → LearnMove → UInt64 → LearnPhase → Prop where
  | readClock : LearnStep r counter .arrived .readClock counter (.stamped r.indexed)
  | fetchAdd {entry : MockEntry} :
      LearnStep r counter (.stamped entry) .fetchAdd (counter + 1) (.counted entry counter)
  | readTrafficClock {entry : MockEntry} {seq : UInt64} :
      LearnStep r counter (.counted entry seq) .readTrafficClock counter
        (.logged entry { entry with id := trafficId r.trafficMillis seq })
  | publish {entry trafficEntry : MockEntry} :
      LearnStep r counter (.logged entry trafficEntry) .publish counter
        (.published entry (some trafficEntry))
  | publishUnrouted {entry : MockEntry} :
      LearnStep r counter (.stamped entry) .publish counter (.published entry none)

theorem learnStep_of_act {r : LearnRequest} {counter counter' : UInt64}
    {phase phase' : LearnPhase} {move : LearnMove}
    (h : learnAct r counter phase move = some (counter', phase')) :
    LearnStep r counter phase move counter' phase' := by
  cases phase with
  | arrived =>
      cases move with
      | readClock =>
          cases h
          exact .readClock
      | _ => cases h
  | stamped entry =>
      cases move with
      | fetchAdd =>
          rw [learnAct] at h
          split at h
          · cases h
            exact .fetchAdd
          · cases h
      | publish =>
          rw [learnAct] at h
          split at h
          · cases h
          · cases h
            exact .publishUnrouted
      | _ => cases h
  | counted entry seq =>
      cases move with
      | readTrafficClock =>
          cases h
          exact .readTrafficClock
      | _ => cases h
  | logged entry trafficEntry =>
      cases move with
      | publish =>
          cases h
          exact .publish
      | _ => cases h
  | published entry trafficEntry => cases move <;> cases h

/-- A step that takes no number keeps what the request made. -/
theorem made_of_quiet {r : LearnRequest} {counter counter' start : UInt64}
    {phase phase' : LearnPhase} {move : LearnMove} {turn : Option Nat}
    (hstep : LearnStep r counter phase move counter' phase') (hmove : move ≠ .fetchAdd)
    (hmade : Made r start turn phase) : counter' = counter ∧ Made r start turn phase' := by
  cases hstep with
  | readClock => exact ⟨rfl, hmade, rfl⟩
  | fetchAdd => exact absurd rfl hmove
  | readTrafficClock =>
      obtain ⟨rfl, k, hturn, rfl⟩ := hmade
      exact ⟨rfl, rfl, k, hturn, rfl⟩
  | publish =>
      obtain ⟨hentry, k, hturn, htraffic⟩ := hmade
      exact ⟨rfl, hentry, fun e he => ⟨k, hturn, Option.some.inj he ▸ htraffic⟩⟩
  | publishUnrouted => exact ⟨rfl, hmade.2, fun e he => nomatch he⟩

/-- The step that takes a number takes it at its turn. -/
theorem made_of_fetchAdd {r : LearnRequest} {counter counter' start : UInt64}
    {phase phase' : LearnPhase} {turn : Option Nat} {k : Nat}
    (hstep : LearnStep r counter phase .fetchAdd counter' phase')
    (hcounter : counter = start + UInt64.ofNat k) (hmade : Made r start turn phase) :
    counter' = counter + 1 ∧ Made r start (some k) phase' := by
  cases hstep
  exact ⟨rfl, hmade.2, k, rfl, hcounter⟩

/-- A request publishes in its last step. -/
theorem publishedEntry_of_step {r : LearnRequest} {counter counter' : UInt64}
    {phase phase' : LearnPhase} {move : LearnMove}
    (hstep : LearnStep r counter phase move counter' phase') :
    phase.publishedEntry = none ∧ (phase'.publishedEntry.isSome ↔ move = .publish) := by
  cases hstep <;> exact ⟨rfl, by simp [LearnPhase.publishedEntry]⟩

theorem published_step {w : LearnWorld n} {past : List (Fin n × LearnMove)} {i : Fin n}
    {move : LearnMove} {counter : UInt64} {phase : LearnPhase}
    (hpub : ∀ j, (j, .publish) ∈ past ↔ (w.thread j).publishedEntry.isSome)
    (hstep : LearnStep (requests i) w.shared (w.thread i) move counter phase) (j : Fin n) :
    (j, .publish) ∈ past ++ [(i, move)] ↔
      (Function.update w.thread i phase j).publishedEntry.isSome := by
  obtain ⟨hbefore, hafter⟩ := publishedEntry_of_step hstep
  rw [List.mem_append, List.mem_singleton, hpub j, Prod.mk.injEq]
  by_cases hji : j = i
  · subst hji
    rw [Function.update_self, hbefore, hafter]
    simp [eq_comm]
  · rw [Function.update_of_ne hji]
    simp [hji]

theorem numbered_step {start : UInt64} {turn : Fin n → Option Nat} {w : LearnWorld n}
    {past : List (Fin n × LearnMove)} {i : Fin n} {move : LearnMove} {counter : UInt64}
    {phase : LearnPhase} (hI : Numbered requests start turn w past)
    (hstep : LearnStep (requests i) w.shared (w.thread i) move counter phase) :
    ∃ turn', Numbered requests start turn'
      { shared := counter, thread := Function.update w.thread i phase } (past ++ [(i, move)]) := by
  have hpub := published_step hI.published hstep
  have hcount : taken (past ++ [(i, move)]) = taken past + if move = .fetchAdd then 1 else 0 := by
    rw [taken, List.countP_append, List.countP_singleton]
    simp [taken]
  by_cases hmove : move = .fetchAdd
  · subst hmove
    obtain ⟨rfl, hmade⟩ := made_of_fetchAdd hstep hI.counter (hI.made i)
    rw [if_pos rfl] at hcount
    refine ⟨Function.update turn i (some (taken past)), ?_, ?_,
      Threads.turn_inj_take hI.turn_lt hI.turn_inj i, ?_, hpub⟩
    · show w.shared + 1 = _
      rw [hI.counter, hcount, UInt64.ofNat_add, ← UInt64.add_assoc]
      rfl
    · rw [hcount]
      exact Threads.turn_lt_take hI.turn_lt i
    · intro j
      show Made _ _ _ (Function.update w.thread i phase j)
      by_cases hji : j = i
      · subst hji
        rw [Function.update_self, Function.update_self]
        exact hmade
      · rw [Function.update_of_ne hji, Function.update_of_ne hji]
        exact hI.made j
  · obtain ⟨rfl, hmade⟩ := made_of_quiet hstep hmove (hI.made i)
    rw [if_neg hmove, Nat.add_zero] at hcount
    refine ⟨turn, ?_, ?_, hI.turn_inj, ?_, hpub⟩
    · show w.shared = _
      rw [hI.counter, hcount]
    · intro j k hj
      rw [hcount]
      exact hI.turn_lt j k hj
    · exact (Function.forall_update_iff w.thread
        (p := fun j => Made (requests j) start (turn j))).mpr ⟨hmade, fun j _ => hI.made j⟩

theorem numbered_exec {start : UInt64} {w : LearnWorld n} {schedule : List (Fin n × LearnMove)}
    (hrun : Machine.exec (learnStep requests) (.start start .arrived) schedule = some w) :
    ∃ turn, Numbered requests start turn w schedule := by
  refine Threads.exec_history (I := fun w past => ∃ turn, Numbered requests start turn w past)
    ?_ ?_ hrun
  · rintro v past i move counter phase ⟨turn, hI⟩ h
    exact numbered_step hI (learnStep_of_act h)
  · refine ⟨fun _ => none, ?_, ?_, ?_, fun i => rfl, ?_⟩
    · show start = start + 0
      rw [UInt64.add_zero]
    · intro i k hi
      cases hi
    · intro i j k hi
      cases hi
    · intro i
      simp [Threads.World.start, LearnPhase.publishedEntry]

-- ==================================================================== ids

/-- Fewer turns than the counter has numbers have different numbers. -/
theorem turn_injective {start : UInt64} {k l : Nat} (hk : k < 2 ^ 64) (hl : l < 2 ^ 64)
    (h : start + UInt64.ofNat k = start + UInt64.ofNat l) : k = l := by
  have hnat := congrArg UInt64.toNat (UInt64.add_right_inj _ |>.mp h)
  rwa [UInt64.toNat_ofNat_of_lt' hk, UInt64.toNat_ofNat_of_lt' hl] at hnat

theorem Made.trafficEntry {r : LearnRequest} {start : UInt64} {turn : Option Nat}
    {phase : LearnPhase} {e : MockEntry} (h : Made r start turn phase)
    (he : phase.trafficEntry = some e) :
    ∃ k, turn = some k ∧ e.id = trafficId r.trafficMillis (start + UInt64.ofNat k) := by
  cases phase with
  | logged entry trafficEntry =>
      obtain ⟨-, k, hturn, rfl⟩ := h
      cases he
      exact ⟨k, hturn, rfl⟩
  | published entry trafficEntry =>
      obtain ⟨k, hturn, rfl⟩ := h.2 e he
      exact ⟨k, hturn, rfl⟩
  | _ => cases he

theorem Made.publishedEntry {r : LearnRequest} {start : UInt64} {turn : Option Nat}
    {phase : LearnPhase} {e : MockEntry} (h : Made r start turn phase)
    (he : phase.publishedEntry = some e) : e.id = entryId r.entryMillis := by
  cases phase with
  | published entry trafficEntry =>
      cases he
      rw [h.1]
      rfl
  | _ => cases he

/-- The ids of the traffic log are distinct. -/
theorem distinctIds_traffic {start : UInt64} {w : LearnWorld n}
    {schedule : List (Fin n × LearnMove)} (hfew : taken schedule < 2 ^ 64)
    (hrun : Machine.exec (learnStep requests) (.start start .arrived) schedule = some w) :
    DistinctIds fun i => (w.thread i).trafficEntry := by
  obtain ⟨turn, hI⟩ := numbered_exec hrun
  intro i j e f hij he hf hid
  obtain ⟨k, hk, hek⟩ := (hI.made i).trafficEntry he
  obtain ⟨l, hl, hfl⟩ := (hI.made j).trafficEntry hf
  have hseq := trafficId_injective (hek.symm.trans (hid.trans hfl))
  have hkl : k = l := turn_injective (Nat.lt_trans (hI.turn_lt i k hk) hfew)
    (Nat.lt_trans (hI.turn_lt j l hl) hfew) hseq
  exact hij (hI.turn_inj i j k hk (hkl ▸ hl))

/-- In every state of every run the ids of each kind are distinct exactly
when no two requests that published had one reading of the clock for the
entry. -/
theorem distinctIds_iff (requests : Fin n → LearnRequest) (start : UInt64) (w : LearnWorld n)
    (schedule : List (Fin n × LearnMove)) (hfew : taken schedule < 2 ^ 64)
    (hrun : Machine.exec (learnStep requests) (.start start .arrived) schedule = some w) :
    ((DistinctIds fun i => (w.thread i).trafficEntry) ∧
        DistinctIds fun i => (w.thread i).publishedEntry) ↔
      ∀ i j, i ≠ j → (i, .publish) ∈ schedule → (j, .publish) ∈ schedule →
        (requests i).entryMillis ≠ (requests j).entryMillis := by
  obtain ⟨turn, hI⟩ := numbered_exec hrun
  constructor
  · rintro ⟨-, hdistinct⟩ i j hij hi hj hmillis
    obtain ⟨e, he⟩ := Option.isSome_iff_exists.mp ((hI.published i).mp hi)
    obtain ⟨f, hf⟩ := Option.isSome_iff_exists.mp ((hI.published j).mp hj)
    refine hdistinct i j e f hij he hf ?_
    rw [(hI.made i).publishedEntry he, (hI.made j).publishedEntry hf, hmillis]
  · intro hclock
    refine ⟨distinctIds_traffic hfew hrun, ?_⟩
    intro i j e f hij he hf hid
    have hi := (hI.published i).mpr (Option.isSome_iff_exists.mpr ⟨e, he⟩)
    have hj := (hI.published j).mpr (Option.isSome_iff_exists.mpr ⟨f, hf⟩)
    rw [(hI.made i).publishedEntry he, (hI.made j).publishedEntry hf] at hid
    exact hclock i j hij hi hj (entryId_injective hid)

end Runs

-- =========================================================== two requests

/-- A recording of `GET /health` for the service `api`. -/
def healthEntry : MockEntry where
  id := []
  timestamp := []
  request := { method := "GET", uri := "/health", body := [] }
  response := { status := 200, headers := ∅, body := [], latencyMs := 0 }
  serviceId := some "api"
  tenant := globalTenant
  workloadClass := "unknown"

/-- Two recordings, the second some milliseconds after the first. -/
def twoRecordings (apart : Nat) (i : Fin 2) : LearnRequest where
  entry := healthEntry
  entryMillis := if i.val = 0 then 1000 else 1000 + apart
  trafficMillis := 1000

/-- Both numbers are taken before either request goes on. -/
def overlapping : List (Fin 2 × LearnMove) :=
  [(⟨0, Nat.zero_lt_two⟩, .readClock), (⟨1, Nat.one_lt_two⟩, .readClock),
    (⟨1, Nat.one_lt_two⟩, .fetchAdd), (⟨0, Nat.zero_lt_two⟩, .fetchAdd),
    (⟨0, Nat.zero_lt_two⟩, .readTrafficClock), (⟨1, Nat.one_lt_two⟩, .readTrafficClock),
    (⟨0, Nat.zero_lt_two⟩, .publish), (⟨1, Nat.one_lt_two⟩, .publish)]

theorem distinctIds_apart :
    ∃ w, Machine.exec (learnStep (twoRecordings 1)) (.start 0 .arrived) overlapping = some w ∧
      (w.thread ⟨0, Nat.zero_lt_two⟩).publishedEntry.isSome ∧
      (w.thread ⟨1, Nat.one_lt_two⟩).publishedEntry.isSome ∧
      (DistinctIds fun i => (w.thread i).trafficEntry) ∧
        DistinctIds fun i => (w.thread i).publishedEntry := by
  refine ⟨_, rfl, rfl, rfl, ?_⟩
  exact (distinctIds_iff (twoRecordings 1) 0 _ overlapping (by decide) rfl).mpr (by decide)

/-- Two requests of one millisecond publish entries of one id. -/
theorem publishedIds_collide :
    ¬ ∀ (n : Nat) (requests : Fin n → LearnRequest) (start : UInt64) (w : LearnWorld n)
      (schedule : List (Fin n × LearnMove)), taken schedule < 2 ^ 64 →
      Machine.exec (learnStep requests) (.start start .arrived) schedule = some w →
      (DistinctIds fun i => (w.thread i).trafficEntry) ∧
        DistinctIds fun i => (w.thread i).publishedEntry := by
  intro h
  have hdistinct := (h 2 (twoRecordings 0) 0 _ overlapping (by decide) rfl).2
  exact hdistinct ⟨0, Nat.zero_lt_two⟩ ⟨1, Nat.one_lt_two⟩ _ _ (by decide) rfl rfl rfl

end GostlyProxy
