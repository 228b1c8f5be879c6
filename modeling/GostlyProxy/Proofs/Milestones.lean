/-
The onboarding milestones of a request.

A request reaches a milestone when the upstream answers it in LEARN mode or
when one of the four mock layers that fire serves it; a statechart
transition and a miss fire nothing. Which milestone it is, and for which
service, is read off the answer (`reached`).

`Milestones` is the part of the state the milestones change, and
`milestones_handle` says that a request changes it by the one it reaches and
by nothing else. The steps of that change, one by one, are the business of
`Proofs/MilestoneRuns.lean`.
-/
import GostlyProxy.Proofs.Handler

namespace GostlyProxy

open Lib

-- ========================================================= the milestones

/-- The state `fire_onboarding_event` works on. -/
structure Milestones where
  proxied : Finset Text
  served : Finset Text
  telemetry : Telemetry

def AppState.milestones (st : AppState) : Milestones where
  proxied := st.onboardingProxied
  served := st.onboardingServed
  telemetry := st.telemetry

/-- A LEARN round trip, or a mock served. -/
inductive MilestoneKind where
  | learned
  | served
  deriving DecidableEq

structure Milestone where
  kind : MilestoneKind
  svc : Text
  deriving DecidableEq

/-- The counter a kind fires. -/
def MilestoneKind.counter : MilestoneKind → Text
  | .learned => firstRequestProxiedTotal
  | .served => firstMockServedTotal

namespace Milestones

def seen (m : Milestones) : MilestoneKind → Finset Text
  | .learned => m.proxied
  | .served => m.served

/-- The seen set with the service. -/
def mark (m : Milestones) : Milestone → Milestones
  | ⟨.learned, svc⟩ => { m with proxied := insert svc m.proxied }
  | ⟨.served, svc⟩ => { m with served := insert svc m.served }

def bump (m : Milestones) (name : Text) : Milestones :=
  { m with telemetry := m.telemetry.incCounter name 1 }

/-- What follows `fire_onboarding_event`. -/
def finish (m : Milestones) : MilestoneKind → Milestones
  | .learned => m.bump firstMockRecordedTotal
  | .served => m

/-- A counter's value. -/
def count (m : Milestones) (name : Text) : UInt64 := (m.telemetry.lookup name).getD 0

/-- All that a request does about its milestone, at once. -/
def reach (m : Milestones) (x : Milestone) : Milestones :=
  (if x.svc ∈ m.seen x.kind then m else (m.mark x).bump x.kind.counter).finish x.kind

variable {m : Milestones}

/-- A service that was seen before fires nothing. -/
theorem reach_of_seen {x : Milestone} (h : x.svc ∈ m.seen x.kind) :
    m.reach x = m.finish x.kind := by rw [reach, if_pos h]

/-- A new service is marked, and its counter goes up. -/
theorem reach_of_unseen {x : Milestone} (h : x.svc ∉ m.seen x.kind) :
    m.reach x = ((m.mark x).bump x.kind.counter).finish x.kind := by rw [reach, if_neg h]

variable (m)

/-- Marking adds the service to the set of its kind. -/
@[simp] theorem seen_mark_self (x : Milestone) :
    (m.mark x).seen x.kind = insert x.svc (m.seen x.kind) := by
  obtain ⟨kind, svc⟩ := x
  cases kind <;> rfl

/-- Marking leaves the set of the other kind alone. -/
theorem seen_mark_of_ne {x : Milestone} {kind : MilestoneKind} (h : kind ≠ x.kind) :
    (m.mark x).seen kind = m.seen kind := by
  obtain ⟨kind', svc⟩ := x
  cases kind <;> cases kind' <;> first | rfl | exact absurd rfl h

/-- A counter is no seen set. -/
@[simp] theorem seen_bump (name : Text) (kind : MilestoneKind) :
    (m.bump name).seen kind = m.seen kind := by cases kind <;> rfl

@[simp] theorem seen_finish (kind kind' : MilestoneKind) :
    (m.finish kind').seen kind = m.seen kind := by cases kind' <;> cases kind <;> rfl

/-- Marking counts nothing. -/
@[simp] theorem count_mark (x : Milestone) (name : Text) :
    (m.mark x).count name = m.count name := by
  obtain ⟨kind, svc⟩ := x
  cases kind <;> rfl

/-- A bump adds one, in 64 bits. -/
@[simp] theorem count_bump_self (name : Text) : (m.bump name).count name = m.count name + 1 := by
  simp only [count, bump, Telemetry.incCounter, Finmap.lookup_insert, Option.getD_some]

/-- A bump leaves the other counters alone. -/
theorem count_bump_of_ne {name name' : Text} (h : name' ≠ name) :
    (m.bump name).count name' = m.count name' := by
  simp only [count, bump, Telemetry.incCounter, Finmap.lookup_insert_of_ne _ h]

end Milestones

/-- The counter of first recordings is fired by no kind. -/
theorem counter_ne_recorded (kind : MilestoneKind) : kind.counter ≠ firstMockRecordedTotal := by
  cases kind <;> decide

/-- Each kind has a counter of its own. -/
theorem counter_injective {kind kind' : MilestoneKind} (h : kind ≠ kind') :
    kind.counter ≠ kind'.counter := by
  cases kind <;> cases kind' <;> first | exact absurd rfl h | decide

/-- What follows the event leaves the counters of the kinds alone. -/
theorem Milestones.count_finish (m : Milestones) (kind kind' : MilestoneKind) :
    (m.finish kind').count kind.counter = m.count kind.counter := by
  cases kind' with
  | learned => exact m.count_bump_of_ne (counter_ne_recorded kind)
  | served => rfl

-- ================================================== what a request reaches

/-- The answers that fire. -/
def MatchType.milestone : MatchType → Option MilestoneKind
  | .exact | .sequence | .resourceStore | .smartSwap => some .served
  | .learn => some .learned
  | .resourceTransition | .miss | .transitioning | .passthrough => none

def Answer.milestone : Answer → Option MilestoneKind
  | .served matchType _ => matchType.milestone
  | _ => none

section Reached

variable (env : Externals) (cfg : Config)

/-- The milestone a request reaches in a state, with its service; an
unrouted request counts for the global one. -/
def reached (st : AppState) (call : Call) : Option Milestone :=
  (requestContext env cfg st call.request call.request.body).bind fun ctx =>
    (handle env cfg st call).2.milestone.map fun kind => ⟨kind, ctx.svcKey⟩

variable {env cfg} {st : AppState} {call : Call} {ctx : RequestContext}

/-- The milestone of a request that gets to a branch is its answer's. -/
theorem Dispatched.reached {mode : Mode} (h : Dispatched env cfg st call ctx mode) :
    reached env cfg st call =
      (handle env cfg st call).2.milestone.map fun kind => ⟨kind, ctx.svcKey⟩ := by
  rw [GostlyProxy.reached, h.context, Option.bind_some]

/-- `fire_onboarding_event` does nothing for a service that was seen. -/
theorem fireOnboardingEvent_seen {counter : Text} {seen : Finset Text} {telemetry : Telemetry}
    (h : ctx.svcKey ∈ seen) :
    fireOnboardingEvent counter ctx.resolved.serviceId seen telemetry = (seen, telemetry) :=
  if_pos h

/-- `fire_onboarding_event` marks a new service and counts it. -/
theorem fireOnboardingEvent_unseen {counter : Text} {seen : Finset Text} {telemetry : Telemetry}
    (h : ctx.svcKey ∉ seen) :
    fireOnboardingEvent counter ctx.resolved.serviceId seen telemetry =
      (insert ctx.svcKey seen, telemetry.incCounter counter 1) :=
  if_neg h

/-- A served mock reaches the milestone of a mock served. -/
theorem milestones_fireFirstMockServed (st : AppState) :
    (fireFirstMockServed ctx.resolved.serviceId st).milestones =
      st.milestones.reach ⟨.served, ctx.svcKey⟩ := by
  have hseen : (⟨.served, ctx.svcKey⟩ : Milestone).svc ∈ st.milestones.seen .served ↔
      ctx.svcKey ∈ st.onboardingServed := Iff.rfl
  rw [fireFirstMockServed]
  by_cases h : ctx.svcKey ∈ st.onboardingServed
  · rw [fireOnboardingEvent_seen h, Milestones.reach_of_seen (hseen.mpr h)]
    rfl
  · rw [fireOnboardingEvent_unseen h, Milestones.reach_of_unseen (mt hseen.mp h)]
    rfl

/-- A recording reaches the milestone of a LEARN round trip. -/
theorem milestones_learnState (entry : MockEntry) (st : AppState) :
    (learnState ctx entry st).milestones = st.milestones.reach ⟨.learned, ctx.svcKey⟩ := by
  have hseen : (⟨.learned, ctx.svcKey⟩ : Milestone).svc ∈ st.milestones.seen .learned ↔
      ctx.svcKey ∈ st.onboardingProxied := Iff.rfl
  rw [learnState, fireFirstRequestProxied]
  by_cases h : ctx.svcKey ∈ st.onboardingProxied
  · rw [fireOnboardingEvent_seen h, Milestones.reach_of_seen (hseen.mpr h)]
    rfl
  · rw [fireOnboardingEvent_unseen h, Milestones.reach_of_unseen (mt hseen.mp h)]
    rfl

/-- The tasks a request leaves behind reach no milestone. -/
theorem milestones_settle (now : Nat) (st : AppState) (spawned : List Spawned) :
    (settle now st spawned).milestones = st.milestones := by
  induction spawned generalizing st with
  | nil => rfl
  | cons task spawned ih =>
      refine (ih (runSpawned now st task)).trans ?_
      cases task <;> rfl

/-- What the MOCK branch does about milestones. -/
theorem milestones_mockBranch (st : AppState) :
    (mockBranch env cfg call ctx st).1.milestones =
      match (mockBranch env cfg call ctx st).2.milestone with
      | some kind => st.milestones.reach ⟨kind, ctx.svcKey⟩
      | none => st.milestones := by
  obtain ⟨st', a, hout⟩ := exists_mockOutcome env cfg call ctx st
  rw [hout.eq]
  cases hout with
  | exact => exact milestones_fireFirstMockServed st
  | sequence counters =>
      exact milestones_fireFirstMockServed { st with sequenceCounters := counters }
  | resource => exact milestones_fireFirstMockServed st
  | transition => rfl
  | smartSwap => exact milestones_fireFirstMockServed st
  | miss => rfl

variable (env cfg) in
/-- A request changes the milestones by the one it reaches. -/
theorem milestones_handle (st : AppState) (call : Call) :
    (handle env cfg st call).1.milestones =
      match reached env cfg st call with
      | some x => st.milestones.reach x
      | none => st.milestones := by
  cases requestCase env cfg st call with
  | tooLarge h =>
      rw [handle_tooLarge h, reached, handle_tooLarge h]
      cases requestContext env cfg st call.request call.request.body <;> rfl
  | noTenant hfits h =>
      rw [handle_noTenant hfits h, reached, requestContext_eq, h]
      rfl
  | dispatched ctx mode h =>
      rw [h.reached]
      cases mode with
      | learn =>
          cases hres : call.upstream (forwarded call ctx) with
          | none =>
              rw [handle_noUpstream h hres]
              rfl
          | some res =>
              rw [handle_learn h hres]
              exact (milestones_settle _ _ _).trans (milestones_learnState _ st)
      | mock =>
          rw [handle_mock h, milestones_mockBranch]
          cases (mockBranch env cfg call ctx st).2.milestone <;> rfl
      | transitioning =>
          rw [handle_transitioning h]
          rfl
      | passthrough =>
          rw [handle_passthrough h, passthroughAnswer]
          cases call.upstream (forwarded call ctx) <;> rfl

end Reached

end GostlyProxy
