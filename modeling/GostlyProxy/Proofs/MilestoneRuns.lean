/-
The onboarding counters, when the requests that reach a milestone overlap.

The requests are threads (`Lib/Threads.lean`). A request is handled, which
decides the milestone it reaches, and then goes through
`fire_onboarding_event` step by step: the check of the seen set under the
read lock, the insert under the write lock, the increment of the counter. A
LEARN request increments the counter of recorded mocks after that, without a
seen set.

The state a request is handled in is part of that step, whatever other
requests, admin calls and reloads made of it, since no answer depends on the
milestones. Alone, a request leaves the milestones as the handler does
(`milestones_alone`).

# What is counted

The double check counts services: a counter and the increments that are
still pending add up to the size of the seen set, and a service that was
reached is in the set or on its way there (`Tallied`). The counter of
recorded mocks counts requests, so it is the number of services exactly when
no service is recorded twice (`milestones_iff`, `recordedOnce_iff`).
-/
import GostlyProxy.Lib.Threads
import GostlyProxy.Proofs.Milestones

namespace GostlyProxy

open Lib

-- =============================================================== the steps

/-- Where a request stands with its milestone. -/
inductive MilestonePhase where
  | arrived
  | checking (x : Milestone)
  | absent (x : Milestone)
  | inserted (x : Milestone)
  | fired (x : Milestone)
  | finished
  deriving DecidableEq

inductive MilestoneMove where
  /-- The request is handled, in this state. -/
  | handle (st : AppState)
  | readCheck
  | insert
  | increment
  | finish

section Steps

variable (env : Externals) (cfg : Config) (call : Call)

def milestoneAct (m : Milestones) :
    MilestonePhase → MilestoneMove → Option (Milestones × MilestonePhase)
  | .arrived, .handle st =>
      match reached env cfg st call with
      | some x => some (m, .checking x)
      | none => some (m, .finished)
  | .checking x, .readCheck =>
      if x.svc ∈ m.seen x.kind then some (m, .fired x) else some (m, .absent x)
  | .absent x, .insert =>
      if x.svc ∈ m.seen x.kind then some (m, .fired x) else some (m.mark x, .inserted x)
  | .inserted x, .increment => some (m.bump x.kind.counter, .fired x)
  | .fired x, .finish => some (m.finish x.kind, .finished)
  | _, _ => none

/-- What a step does, one case for each way it can go. -/
inductive MilestoneStep (m : Milestones) :
    MilestonePhase → MilestoneMove → Milestones → MilestonePhase → Prop where
  | reach {st : AppState} {x : Milestone} : reached env cfg st call = some x →
      MilestoneStep m .arrived (.handle st) m (.checking x)
  | reachNone {st : AppState} : reached env cfg st call = none →
      MilestoneStep m .arrived (.handle st) m .finished
  | seen {x : Milestone} : x.svc ∈ m.seen x.kind →
      MilestoneStep m (.checking x) .readCheck m (.fired x)
  | unseen {x : Milestone} : x.svc ∉ m.seen x.kind →
      MilestoneStep m (.checking x) .readCheck m (.absent x)
  | insertLost {x : Milestone} : x.svc ∈ m.seen x.kind →
      MilestoneStep m (.absent x) .insert m (.fired x)
  | insert {x : Milestone} : x.svc ∉ m.seen x.kind →
      MilestoneStep m (.absent x) .insert (m.mark x) (.inserted x)
  | increment {x : Milestone} :
      MilestoneStep m (.inserted x) .increment (m.bump x.kind.counter) (.fired x)
  | finish {x : Milestone} :
      MilestoneStep m (.fired x) .finish (m.finish x.kind) .finished

variable {env cfg call}

theorem milestoneStep_of_act {m m' : Milestones} {phase phase' : MilestonePhase}
    {move : MilestoneMove} (h : milestoneAct env cfg call m phase move = some (m', phase')) :
    MilestoneStep env cfg call m phase move m' phase' := by
  cases phase with
  | arrived =>
      cases move with
      | handle st =>
          rw [milestoneAct] at h
          cases hreached : reached env cfg st call with
          | some x =>
              rw [hreached] at h
              cases h
              exact .reach hreached
          | none =>
              rw [hreached] at h
              cases h
              exact .reachNone hreached
      | _ => cases h
  | checking x =>
      cases move with
      | readCheck =>
          rw [milestoneAct] at h
          split at h
          · rename_i hseen
            cases h
            exact .seen hseen
          · rename_i hseen
            cases h
            exact .unseen hseen
      | _ => cases h
  | absent x =>
      cases move with
      | insert =>
          rw [milestoneAct] at h
          split at h
          · rename_i hseen
            cases h
            exact .insertLost hseen
          · rename_i hseen
            cases h
            exact .insert hseen
      | _ => cases h
  | inserted x =>
      cases move with
      | increment =>
          cases h
          exact .increment
      | _ => cases h
  | fired x =>
      cases move with
      | finish =>
          cases h
          exact .finish
      | _ => cases h
  | finished => cases move <;> cases h

variable (env cfg call)

/-- Alone, a request leaves the milestones of the handler. -/
theorem milestones_alone (st : AppState) :
    ∃ moves, Machine.exec (Threads.step fun _ : Unit => milestoneAct env cfg call)
        (.start st.milestones .arrived) moves =
      some (.start (handle env cfg st call).1.milestones .finished) := by
  rw [milestones_handle]
  cases hreached : reached env cfg st call with
  | none =>
      refine ⟨[((), .handle st)], Threads.exec_alone_cons ?_ rfl⟩
      rw [milestoneAct, hreached]
  | some x =>
      have hhandle : milestoneAct env cfg call st.milestones .arrived (.handle st) =
          some (st.milestones, .checking x) := by rw [milestoneAct, hreached]
      dsimp only
      by_cases hseen : x.svc ∈ st.milestones.seen x.kind
      · have hcheck : milestoneAct env cfg call st.milestones (.checking x) .readCheck =
            some (st.milestones, .fired x) := if_pos hseen
        refine ⟨[((), .handle st), ((), .readCheck), ((), .finish)], ?_⟩
        refine Threads.exec_alone_cons hhandle ?_
        refine Threads.exec_alone_cons hcheck ?_
        refine Threads.exec_alone_cons rfl ?_
        rw [Milestones.reach_of_seen hseen]
        rfl
      · have hcheck : milestoneAct env cfg call st.milestones (.checking x) .readCheck =
            some (st.milestones, .absent x) := if_neg hseen
        have hinsert : milestoneAct env cfg call st.milestones (.absent x) .insert =
            some (st.milestones.mark x, .inserted x) := if_neg hseen
        refine ⟨[((), .handle st), ((), .readCheck), ((), .insert), ((), .increment),
          ((), .finish)], ?_⟩
        refine Threads.exec_alone_cons hhandle ?_
        refine Threads.exec_alone_cons hcheck ?_
        refine Threads.exec_alone_cons hinsert ?_
        refine Threads.exec_alone_cons rfl ?_
        refine Threads.exec_alone_cons rfl ?_
        rw [Milestones.reach_of_unseen hseen]
        rfl

variable {env cfg call}

-- ============================================== what one step does

/-- The milestone a request is busy with. -/
def MilestonePhase.milestone : MilestonePhase → Option Milestone
  | .checking x | .absent x | .inserted x | .fired x => some x
  | .arrived | .finished => none

/-- The milestone a request has not found or put in the seen set yet. -/
def MilestonePhase.unsettled : MilestonePhase → Option Milestone
  | .checking x | .absent x => some x
  | .arrived | .inserted _ | .fired _ | .finished => none

/-- The increment of its counter that a request owes. -/
def pending (kind : MilestoneKind) : MilestonePhase → Nat
  | .inserted x => if x.kind = kind then 1 else 0
  | _ => 0

theorem pending_inserted (x : Milestone) : pending x.kind (.inserted x) = 1 := if_pos rfl

theorem pending_inserted_of_ne {x : Milestone} {kind : MilestoneKind} (h : kind ≠ x.kind) :
    pending kind (.inserted x) = 0 := if_neg h.symm

/-- The increment of the counter of recorded mocks that a request owes. -/
def unrecorded (phase : MilestonePhase) : Nat :=
  if phase.milestone.map Milestone.kind = some .learned then 1 else 0

variable (env cfg call) in
/-- The service for which a step reaches a milestone of a kind. -/
def reachedIn (kind : MilestoneKind) : MilestoneMove → Option Text
  | .handle st => (reached env cfg st call).bind fun x => if x.kind = kind then some x.svc else none
  | _ => none

variable {m m' : Milestones} {phase phase' : MilestonePhase} {move : MilestoneMove}

theorem seen_subset_of_step (h : MilestoneStep env cfg call m phase move m' phase')
    (kind : MilestoneKind) : m.seen kind ⊆ m'.seen kind := by
  cases h with
  | @insert x =>
      by_cases hkind : kind = x.kind
      · subst hkind
        rw [Milestones.seen_mark_self]
        exact Finset.subset_insert ..
      · rw [Milestones.seen_mark_of_ne m hkind]
  | _ => simp

/-- Only what the request is busy with enters a seen set. -/
theorem seen_of_step (h : MilestoneStep env cfg call m phase move m' phase')
    {kind : MilestoneKind} {svc : Text} (hsvc : svc ∈ m'.seen kind) :
    svc ∈ m.seen kind ∨ phase.milestone = some ⟨kind, svc⟩ := by
  cases h with
  | @insert x =>
      by_cases hkind : kind = x.kind
      · subst hkind
        rw [Milestones.seen_mark_self, Finset.mem_insert] at hsvc
        rcases hsvc with rfl | hsvc
        · exact .inr rfl
        · exact .inl hsvc
      · rw [Milestones.seen_mark_of_ne m hkind] at hsvc
        exact .inl hsvc
  | _ => exact .inl (by simpa using hsvc)

/-- What is on its way to the seen set stays there or arrives. -/
theorem unsettled_of_step (h : MilestoneStep env cfg call m phase move m' phase') {x : Milestone}
    (hx : phase.unsettled = some x) : phase'.unsettled = some x ∨ x.svc ∈ m'.seen x.kind := by
  cases h with
  | seen hseen =>
      cases hx
      exact .inr hseen
  | unseen => exact .inl hx
  | insertLost hseen =>
      cases hx
      exact .inr hseen
  | insert =>
      cases hx
      rw [Milestones.seen_mark_self]
      exact .inr (Finset.mem_insert_self ..)
  | _ => cases hx

/-- A request is busy with what it reached. -/
theorem milestone_of_step (h : MilestoneStep env cfg call m phase move m' phase') {x : Milestone}
    (hx : phase'.milestone = some x) :
    phase.milestone = some x ∨ reachedIn env cfg call x.kind move = some x.svc := by
  cases h with
  | reach hreached =>
      cases hx
      refine .inr ?_
      rw [reachedIn, hreached, Option.bind_some, if_pos rfl]
  | reachNone | finish => cases hx
  | _ => exact .inl hx

theorem reachedIn_of_step (h : MilestoneStep env cfg call m phase move m' phase')
    {kind : MilestoneKind} {svc : Text} (hsvc : reachedIn env cfg call kind move = some svc) :
    phase'.unsettled = some ⟨kind, svc⟩ := by
  cases h with
  | @reach st x hreached =>
      rw [reachedIn, hreached, Option.bind_some] at hsvc
      split at hsvc
      · rename_i hkind
        cases hsvc
        subst hkind
        rfl
      · cases hsvc
  | reachNone hreached =>
      rw [reachedIn, hreached] at hsvc
      cases hsvc
  | _ => cases hsvc

-- ================================================================ counts

/-- A counter with what it is still owed, as often as it has wrapped. -/
def Counts (counter : UInt64) (owed total : Nat) : Prop :=
  (counter.toNat + owed) % 2 ^ 64 = total % 2 ^ 64

theorem Counts.pay {counter : UInt64} {owed total : Nat} (h : Counts counter (owed + 1) total) :
    Counts (counter + 1) owed total := by
  unfold Counts at *
  rw [UInt64.toNat_add]
  show ((counter.toNat + 1) % 2 ^ 64 + owed) % 2 ^ 64 = _
  omega

theorem Counts.owe {counter : UInt64} {owed total : Nat} (h : Counts counter owed total) :
    Counts counter (owed + 1) (total + 1) := by
  unfold Counts at *
  omega

theorem Counts.toNat {counter : UInt64} {total : Nat} (h : Counts counter 0 total) :
    counter.toNat = total % 2 ^ 64 := by
  have hlt := counter.toNat_lt
  unfold Counts at h
  omega

/-- A milestone's counter and the size of its seen set. -/
theorem counts_of_step (h : MilestoneStep env cfg call m phase move m' phase')
    (kind : MilestoneKind) {owed owed' : Nat}
    (howed : owed' + pending kind phase = owed + pending kind phase')
    (hcounts : Counts (m.count kind.counter) owed (m.seen kind).card) :
    Counts (m'.count kind.counter) owed' (m'.seen kind).card := by
  cases h with
  | @insert x hunseen =>
      rw [Milestones.count_mark]
      by_cases hkind : kind = x.kind
      · subst hkind
        rw [pending_inserted] at howed
        rw [Milestones.seen_mark_self, Finset.card_insert_of_notMem hunseen,
          show owed' = owed + 1 from howed]
        exact hcounts.owe
      · rw [pending_inserted_of_ne hkind] at howed
        rw [Milestones.seen_mark_of_ne m hkind, show owed' = owed from howed]
        exact hcounts
  | @increment x =>
      rw [Milestones.seen_bump]
      by_cases hkind : kind = x.kind
      · subst hkind
        rw [pending_inserted] at howed
        rw [Milestones.count_bump_self]
        rw [show owed = owed' + 1 from howed.symm] at hcounts
        exact hcounts.pay
      · rw [pending_inserted_of_ne hkind] at howed
        rw [Milestones.count_bump_of_ne m (counter_injective hkind),
          show owed' = owed from howed]
        exact hcounts
  | finish =>
      rw [Milestones.seen_finish, Milestones.count_finish, Nat.add_right_cancel howed]
      exact hcounts
  | _ =>
      rw [Nat.add_right_cancel howed]
      exact hcounts

/-- The counter of recorded mocks and the LEARN round trips so far. -/
theorem recorded_of_step (h : MilestoneStep env cfg call m phase move m' phase')
    {owed owed' total : Nat} (howed : owed' + unrecorded phase = owed + unrecorded phase')
    (hcounts : Counts (m.count firstMockRecordedTotal) owed total) :
    Counts (m'.count firstMockRecordedTotal) owed'
      (total + (reachedIn env cfg call .learned move).toList.length) := by
  cases h with
  | @reach st x hreached =>
      rw [reachedIn, hreached, Option.bind_some]
      by_cases hkind : x.kind = .learned
      · have howe : owed' = owed + 1 := by
          simpa [unrecorded, MilestonePhase.milestone, hkind] using howed
        rw [if_pos hkind, howe]
        exact hcounts.owe
      · have hsame : owed' = owed := by
          simpa [unrecorded, MilestonePhase.milestone, hkind] using howed
        rw [if_neg hkind, hsame]
        exact hcounts
  | reachNone hreached =>
      rw [reachedIn, hreached, Nat.add_right_cancel howed]
      exact hcounts
  | @increment x =>
      rw [Milestones.count_bump_of_ne m (counter_ne_recorded x.kind).symm,
        Nat.add_right_cancel howed]
      exact hcounts
  | insert =>
      rw [Milestones.count_mark, Nat.add_right_cancel howed]
      exact hcounts
  | @finish x =>
      obtain ⟨kind, svc⟩ := x
      cases kind with
      | learned =>
          have hpay : owed = owed' + 1 := howed.symm
          show Counts ((m.bump firstMockRecordedTotal).count _) _ _
          rw [Milestones.count_bump_self]
          exact Counts.pay (hpay ▸ hcounts)
      | served =>
          rw [show owed' = owed from howed]
          exact hcounts
  | _ =>
      rw [Nat.add_right_cancel howed]
      exact hcounts

end Steps

-- ================================================================= the runs

section Runs

variable (env : Externals) (cfg : Config) {n : Nat} (calls : Fin n → Call)

abbrev MilestoneWorld (n : Nat) := Threads.World (Fin n) Milestones MilestonePhase

/-- One step of one of the requests. -/
abbrev milestoneStep : MilestoneWorld n → Fin n × MilestoneMove → Option (MilestoneWorld n) :=
  Threads.step fun i => milestoneAct env cfg (calls i)

/-- The services for which the milestones of a kind were reached, in the
order in which the requests were handled. -/
def reachedBy (kind : MilestoneKind) (schedule : List (Fin n × MilestoneMove)) : List Text :=
  schedule.filterMap fun a => reachedIn env cfg (calls a.1) kind a.2

/-- What the counters and seen sets say of the steps so far. -/
structure Tallied (w : MilestoneWorld n) (past : List (Fin n × MilestoneMove)) : Prop where
  counter : ∀ kind, Counts (w.shared.count kind.counter)
    (Threads.total (pending kind) w.thread) (w.shared.seen kind).card
  recorded : Counts (w.shared.count firstMockRecordedTotal)
    (Threads.total unrecorded w.thread) (reachedBy env cfg calls .learned past).length
  busy : ∀ i x, (w.thread i).milestone = some x → x.svc ∈ reachedBy env cfg calls x.kind past
  seen : ∀ kind, ∀ svc ∈ w.shared.seen kind, svc ∈ reachedBy env cfg calls kind past
  settled : ∀ kind, ∀ svc ∈ reachedBy env cfg calls kind past,
    svc ∈ w.shared.seen kind ∨ ∃ i, (w.thread i).unsettled = some ⟨kind, svc⟩

variable {env cfg calls}

theorem reachedBy_concat (kind : MilestoneKind) (past : List (Fin n × MilestoneMove)) (i : Fin n)
    (move : MilestoneMove) :
    reachedBy env cfg calls kind (past ++ [(i, move)]) =
      reachedBy env cfg calls kind past ++ (reachedIn env cfg (calls i) kind move).toList := by
  rw [reachedBy, List.filterMap_append]
  cases h : reachedIn env cfg (calls i) kind move with
  | none => simp [reachedBy, h]
  | some svc => simp [reachedBy, h]

theorem tallied_step {w : MilestoneWorld n} {past : List (Fin n × MilestoneMove)} {i : Fin n}
    {move : MilestoneMove} {m' : Milestones} {phase : MilestonePhase}
    (hI : Tallied env cfg calls w past)
    (h : MilestoneStep env cfg (calls i) w.shared (w.thread i) move m' phase) :
    Tallied env cfg calls { shared := m', thread := Function.update w.thread i phase }
      (past ++ [(i, move)]) := by
  have hgrow : ∀ {kind svc}, svc ∈ reachedBy env cfg calls kind past →
      svc ∈ reachedBy env cfg calls kind (past ++ [(i, move)]) := by
    intro kind svc hsvc
    rw [reachedBy_concat]
    exact List.mem_append_left _ hsvc
  constructor
  · intro kind
    exact counts_of_step h kind (Threads.total_update (pending kind) w.thread i phase)
      (hI.counter kind)
  · have hcounts := recorded_of_step h (Threads.total_update unrecorded w.thread i phase)
      hI.recorded
    rwa [← List.length_append, ← reachedBy_concat] at hcounts
  · refine (Function.forall_update_iff w.thread fun j p => ∀ x, p.milestone = some x →
      x.svc ∈ reachedBy env cfg calls x.kind (past ++ [(i, move)])).mpr ⟨?_, ?_⟩
    · intro x hx
      rcases milestone_of_step h hx with hx | hx
      · exact hgrow (hI.busy i x hx)
      · rw [reachedBy_concat, hx]
        exact List.mem_append_right _ (List.mem_singleton_self _)
    · intro j _ x hx
      exact hgrow (hI.busy j x hx)
  · intro kind svc hsvc
    rcases seen_of_step h hsvc with hsvc | hsvc
    · exact hgrow (hI.seen kind svc hsvc)
    · exact hgrow (hI.busy i _ hsvc)
  · intro kind svc hsvc
    rw [reachedBy_concat] at hsvc
    rcases List.mem_append.mp hsvc with hsvc | hsvc
    · rcases hI.settled kind svc hsvc with hseen | ⟨j, hj⟩
      · exact .inl (seen_subset_of_step h kind hseen)
      · by_cases hji : j = i
        · subst hji
          rcases unsettled_of_step h hj with hj | hj
          · exact .inr ⟨j, (congrArg _ (Function.update_self ..)).trans hj⟩
          · exact .inl hj
        · exact .inr ⟨j, (congrArg _ (Function.update_of_ne hji ..)).trans hj⟩
    · have hnew := reachedIn_of_step h (Option.mem_toList.mp hsvc)
      exact .inr ⟨i, (congrArg _ (Function.update_self ..)).trans hnew⟩

/-- At boot only the counter of boots counts. -/
theorem count_boot {mode : Mode} {library : MockLibrary} {sequences : List MockSequence}
    {store : ResourceStore} {name : Text} (h : name ≠ agentBootsTotal) :
    (AppState.boot mode library sequences store).milestones.count name = 0 := by
  show ((Telemetry.incCounter ∅ agentBootsTotal 1).lookup name).getD 0 = 0
  rw [Telemetry.incCounter, Finmap.lookup_insert_of_ne _ h]
  rfl

theorem tallied_exec {mode : Mode} {library : MockLibrary} {sequences : List MockSequence}
    {store : ResourceStore} {schedule : List (Fin n × MilestoneMove)} {w : MilestoneWorld n}
    (hrun : Machine.exec (milestoneStep env cfg calls)
      (.start (AppState.boot mode library sequences store).milestones .arrived) schedule =
        some w) :
    Tallied env cfg calls w schedule := by
  refine Threads.exec_history ?_ ?_ hrun
  · intro v past i move m phase hI h
    exact tallied_step hI (milestoneStep_of_act h)
  · have howed : ∀ weight : MilestonePhase → Nat, weight .arrived = 0 →
        Threads.total weight (fun _ : Fin n => MilestonePhase.arrived) = 0 := fun weight h =>
      Threads.total_eq_zero fun _ => h
    constructor
    · intro kind
      have hname : kind.counter ≠ agentBootsTotal := by cases kind <;> decide
      rw [Threads.World.start, howed (pending kind) rfl, count_boot hname]
      cases kind <;> rfl
    · rw [Threads.World.start, howed unrecorded rfl, count_boot (by decide)]
      rfl
    · intro i x hx
      cases hx
    · intro kind svc hsvc
      cases kind <;> cases hsvc
    · intro kind svc hsvc
      cases hsvc

/-- When all requests have finished, nothing is owed: the double-checked
counters count services, the other one counts LEARN round trips. -/
theorem counters_exec {mode : Mode} {library : MockLibrary} {sequences : List MockSequence}
    {store : ResourceStore} {schedule : List (Fin n × MilestoneMove)} {w : MilestoneWorld n}
    (hrun : Machine.exec (milestoneStep env cfg calls)
      (.start (AppState.boot mode library sequences store).milestones .arrived) schedule =
        some w)
    (hfinished : ∀ i, w.thread i = .finished) :
    (∀ kind, (w.shared.count kind.counter).toNat =
        (reachedBy env cfg calls kind schedule).toFinset.card % 2 ^ 64) ∧
      (w.shared.count firstMockRecordedTotal).toNat =
        (reachedBy env cfg calls .learned schedule).length % 2 ^ 64 := by
  have hI := tallied_exec hrun
  constructor
  · intro kind
    have hseen : w.shared.seen kind = (reachedBy env cfg calls kind schedule).toFinset := by
      ext svc
      rw [List.mem_toFinset]
      constructor
      · exact hI.seen kind svc
      · intro hsvc
        rcases hI.settled kind svc hsvc with h | ⟨i, hi⟩
        · exact h
        · rw [hfinished i] at hi
          cases hi
    have howed : Threads.total (pending kind) w.thread = 0 :=
      Threads.total_eq_zero fun i => by rw [hfinished i]; rfl
    have hcounts := hI.counter kind
    rw [howed, hseen] at hcounts
    exact hcounts.toNat
  · have howed : Threads.total unrecorded w.thread = 0 :=
      Threads.total_eq_zero fun i => by rw [hfinished i]; rfl
    have hcounts := hI.recorded
    rw [howed] at hcounts
    exact hcounts.toNat

/-- Every LEARN round trip was the first of its service, as far as the
counter of recorded mocks can tell, and the counter of served ones has not
wrapped. -/
def RecordedOnce (learned served : List Text) : Prop :=
  learned.length % 2 ^ 64 = learned.toFinset.card ∧ served.toFinset.card < 2 ^ 64

/-- With fewer than `2 ^ 64` steps that says that no service has two LEARN
round trips. -/
theorem recordedOnce_iff {schedule : List (Fin n × MilestoneMove)}
    (hfew : schedule.length < 2 ^ 64) :
    RecordedOnce (reachedBy env cfg calls .learned schedule)
        (reachedBy env cfg calls .served schedule) ↔
      (reachedBy env cfg calls .learned schedule).Nodup := by
  have hlength : ∀ kind, (reachedBy env cfg calls kind schedule).length < 2 ^ 64 := fun kind =>
    Nat.lt_of_le_of_lt (List.length_filterMap_le _ _) hfew
  have hserved := Nat.lt_of_le_of_lt (List.toFinset_card_le _) (hlength .served)
  rw [RecordedOnce, and_iff_left hserved, Nat.mod_eq_of_lt (hlength .learned)]
  exact ⟨fun h => (Multiset.toFinset_card_eq_card_iff_nodup.mp h.symm),
    fun h => (List.toFinset_card_of_nodup h).symm⟩

variable (env cfg) in
/-- When all requests have finished, the counters are the numbers of services
with a LEARN round trip, the same, and of services that were served, exactly
when every service was recorded once. -/
theorem milestones_iff (calls : Fin n → Call) (mode : Mode) (library : MockLibrary)
    (sequences : List MockSequence) (store : ResourceStore)
    (schedule : List (Fin n × MilestoneMove)) (w : MilestoneWorld n)
    (hrun : Machine.exec (milestoneStep env cfg calls)
      (.start (AppState.boot mode library sequences store).milestones .arrived) schedule =
        some w)
    (hfinished : ∀ i, w.thread i = .finished) :
    ((w.shared.count firstRequestProxiedTotal).toNat =
        (reachedBy env cfg calls .learned schedule).toFinset.card ∧
      (w.shared.count firstMockRecordedTotal).toNat =
        (reachedBy env cfg calls .learned schedule).toFinset.card ∧
      (w.shared.count firstMockServedTotal).toNat =
        (reachedBy env cfg calls .served schedule).toFinset.card) ↔
      RecordedOnce (reachedBy env cfg calls .learned schedule)
        (reachedBy env cfg calls .served schedule) := by
  obtain ⟨hcounter, hrecorded⟩ := counters_exec hrun hfinished
  have hproxied : (w.shared.count firstRequestProxiedTotal).toNat = _ := hcounter .learned
  have hserved : (w.shared.count firstMockServedTotal).toNat = _ := hcounter .served
  rw [hproxied, hrecorded, hserved, RecordedOnce]
  constructor
  · rintro ⟨-, hlearned, hserved⟩
    exact ⟨hlearned, by omega⟩
  · rintro ⟨hlearned, hserved⟩
    refine ⟨?_, hlearned, Nat.mod_eq_of_lt hserved⟩
    omega

end Runs

-- =========================================================== two requests

def getHealth : Request where
  method := "GET"
  pathAndQuery := some "/health"
  headers := []
  body := []

def emptyAnswer : UpstreamResponse where
  status := StatusCode.ok
  headers := []
  body := []

/-- Two requests that the upstream answers. -/
abbrev healthChecks (order : RandomState) : Fin 2 → Call := fun _ =>
  Call.plain order getHealth (some emptyAnswer)

abbrev learningBoot : AppState := .boot .learn MockLibrary.new [] (ResourceStore.new none)

def apiRoute : UpstreamRoute where
  routingType := "path"
  routingValue := "/health"
  upstreamUrl := "http://127.0.0.1:4000"
  serviceId := "api"
  mode := none
  redactHeaders := []

/-- Both requests check the seen set before either inserts; the second is
handled after the upstreams were set. -/
def overlappingChecks (upstreams : List UpstreamRoute) (rest : List (Fin 2 × MilestoneMove)) :
    List (Fin 2 × MilestoneMove) :=
  [(⟨0, Nat.zero_lt_two⟩, .handle learningBoot),
    (⟨1, Nat.one_lt_two⟩, .handle { learningBoot with upstreams := upstreams }),
    (⟨0, Nat.zero_lt_two⟩, .readCheck), (⟨1, Nat.one_lt_two⟩, .readCheck),
    (⟨0, Nat.zero_lt_two⟩, .insert), (⟨1, Nat.one_lt_two⟩, .insert),
    (⟨0, Nat.zero_lt_two⟩, .increment)] ++ rest

def distinctServices : List (Fin 2 × MilestoneMove) :=
  overlappingChecks [apiRoute]
    [(⟨1, Nat.one_lt_two⟩, .increment), (⟨0, Nat.zero_lt_two⟩, .finish),
      (⟨1, Nat.one_lt_two⟩, .finish)]

/-- The second request finds the service inserted, so it does not count it
again. -/
def sameService : List (Fin 2 × MilestoneMove) :=
  overlappingChecks [] [(⟨0, Nat.zero_lt_two⟩, .finish), (⟨1, Nat.one_lt_two⟩, .finish)]

theorem forall_finished {w : MilestoneWorld 2} (h0 : w.thread ⟨0, Nat.zero_lt_two⟩ = .finished)
    (h1 : w.thread ⟨1, Nat.one_lt_two⟩ = .finished) : ∀ i, w.thread i = .finished := by
  rintro ⟨_ | _ | i, hi⟩
  · exact h0
  · exact h1
  · omega

/-- Two services, each recorded once. -/
theorem milestones_two_services :
    ∃ w, Machine.exec (milestoneStep default Config.new (healthChecks default))
        (.start learningBoot.milestones .arrived) distinctServices = some w ∧
      (w.shared.count firstRequestProxiedTotal).toNat = 2 ∧
      (w.shared.count firstMockRecordedTotal).toNat = 2 ∧
      (w.shared.count firstMockServedTotal).toNat = 0 := by
  refine ⟨_, rfl, ?_⟩
  have honce : RecordedOnce
      (reachedBy default Config.new (healthChecks default) .learned distinctServices)
      (reachedBy default Config.new (healthChecks default) .served distinctServices) :=
    show RecordedOnce ["_global", "api"] [] from ⟨by decide, by decide⟩
  exact (milestones_iff default Config.new (healthChecks default) .learn MockLibrary.new []
    (ResourceStore.new none) distinctServices _ rfl (forall_finished rfl rfl)).mpr honce

/-- The counters need not be numbers of services: two LEARN round trips of
one service count two recorded mocks. -/
theorem recorded_counts_requests :
    ¬ ∀ (env : Externals) (cfg : Config) (n : Nat) (calls : Fin n → Call) (mode : Mode)
      (library : MockLibrary) (sequences : List MockSequence) (store : ResourceStore)
      (schedule : List (Fin n × MilestoneMove)) (w : MilestoneWorld n),
      Machine.exec (milestoneStep env cfg calls)
        (.start (AppState.boot mode library sequences store).milestones .arrived) schedule =
          some w →
      (∀ i, w.thread i = .finished) →
      (w.shared.count firstRequestProxiedTotal).toNat =
          (reachedBy env cfg calls .learned schedule).toFinset.card ∧
        (w.shared.count firstMockRecordedTotal).toNat =
          (reachedBy env cfg calls .learned schedule).toFinset.card ∧
        (w.shared.count firstMockServedTotal).toNat =
          (reachedBy env cfg calls .served schedule).toFinset.card := by
  intro h
  have hrecorded := (h default Config.new 2 (healthChecks default) .learn MockLibrary.new []
    (ResourceStore.new none) sameService _ rfl (forall_finished rfl rfl)).2.1
  have hcount : 2 = (["_global", "_global"] : List Text).toFinset.card := hrecorded
  exact absurd hcount (by decide)

end GostlyProxy
