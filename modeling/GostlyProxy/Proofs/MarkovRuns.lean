/-
Runs of the Markov chaos state.

A run is a list of calls, each at a clock reading with a drawn factor;
`trace` lists what every call finds, leaves and answers. One call either
stays, before the deadline, or turns the kind at the deadline or later and
sets a deadline at least a millisecond ahead (`stepWithRng_cases`). Over a
run the turns alternate and are a millisecond apart (`followsDwells_trace`).

A new state is expired from the start, so its first call is such a turn:
no run begins with a healthy answer (`markov_run_iff`).
-/
import GostlyProxy.Model.MarkovChaos

namespace GostlyProxy

open Lib

-- ============================================================== one call

section Step

variable (fl : ℚ → ℚ) (cfg : MarkovConfig)

theorem flip_ne (kind : StateKind) : kind.flip ≠ kind := by
  cases kind <;> simp [StateKind.flip]

theorem one_le_dwellMs (kind : StateKind) (factor : ℚ) : 1 ≤ dwellMs fl cfg kind factor :=
  le_max_right _ 1

theorem plusMillis_eq_some_iff {now t : Nat} {ms : Int} :
    plusMillis now ms = some t
      ↔ t = now + nanosPerMilli * ms.toNat ∧ now + nanosPerMilli * ms.toNat ≤ maxUtc := by
  unfold plusMillis
  split
  · rename_i h
    simp only [Option.some.injEq, h, and_true]
    exact eq_comm
  · rename_i h
    simp [h]

/-- What one call does: before the deadline nothing; from it on it turns
the kind and, unless the calendar ends first, sets a new deadline. -/
theorem stepWithRng_cases (st : MarkovState) (now : Nat) (factor : ℚ) :
    (now < st.dwellUntil ∧ stepWithRng fl cfg st now factor = (st, some (st.kind, false)))
      ∨ (st.dwellUntil ≤ now ∧ ∃ t, now + nanosPerMilli ≤ t
        ∧ stepWithRng fl cfg st now factor
          = ({ kind := st.kind.flip, dwellUntil := t }, some (st.kind.flip, true)))
      ∨ (st.dwellUntil ≤ now ∧ stepWithRng fl cfg st now factor
          = ({ st with kind := st.kind.flip }, none)) := by
  unfold stepWithRng
  by_cases hnow : now < st.dwellUntil
  · exact Or.inl ⟨hnow, if_pos hnow⟩
  · rw [if_neg hnow]
    dsimp only
    cases hplus : plusMillis now (dwellMs fl cfg st.kind.flip factor) with
    | none => exact Or.inr (Or.inr ⟨not_lt.mp hnow, rfl⟩)
    | some t =>
        refine Or.inr (Or.inl ⟨not_lt.mp hnow, t, ?_, rfl⟩)
        have hdwell := one_le_dwellMs fl cfg st.kind.flip factor
        rw [(plusMillis_eq_some_iff.mp hplus).1]
        have hmul : nanosPerMilli * 1
            ≤ nanosPerMilli * (dwellMs fl cfg st.kind.flip factor).toNat :=
          Nat.mul_le_mul_left _ (by omega)
        omega

end Step

-- ================================================================== runs

/-- One call: the clock reading and the drawn factor. -/
structure MarkovCall where
  now : Nat
  factor : ℚ

/-- A call with the states around it and its answer. -/
structure MarkovEvent where
  call : MarkovCall
  before : MarkovState
  after : MarkovState
  answer : Option (StateKind × Bool)

/-- The call turned the kind. -/
def MarkovEvent.Turns (e : MarkovEvent) : Prop := e.after.kind ≠ e.before.kind

instance (e : MarkovEvent) : Decidable e.Turns :=
  inferInstanceAs (Decidable (e.after.kind ≠ e.before.kind))

/-- The second call is a millisecond after the first, or more. -/
def MillisApart (e e' : MarkovEvent) : Prop := e.call.now + nanosPerMilli ≤ e'.call.now

instance : Trans MillisApart MillisApart MillisApart where
  trans h h' := Nat.le_trans h (Nat.le_trans (Nat.le_add_right _ _) h')

section Trace

variable (fl : ℚ → ℚ) (cfg : MarkovConfig)

/-- The events of a run. -/
def trace : MarkovState → List MarkovCall → List MarkovEvent
  | _, [] => []
  | st, c :: cs =>
      let out := stepWithRng fl cfg st c.now c.factor
      { call := c, before := st, after := out.1, answer := out.2 } :: trace out.1 cs

end Trace

/-- The events that turned the kind, in order. -/
def turns (events : List MarkovEvent) : List MarkovEvent := events.filter fun e => e.Turns

/-- The run follows its dwells: a call starts where the last one ended and
turns the kind at a deadline or later, turns alternate and are a
millisecond apart, and the answer is the kind with a flag that is up
exactly on turns. -/
structure FollowsDwells (events : List MarkovEvent) : Prop where
  linked : events.IsChain fun e e' => e'.before = e.after
  expired : ∀ e ∈ events, e.Turns → e.before.dwellUntil ≤ e.call.now
  alternate : (turns events).IsChain fun e e' => e'.after.kind ≠ e.after.kind
  apart : (turns events).Pairwise MillisApart
  answered : ∀ e ∈ events, e.answer = some (e.after.kind, decide e.Turns)

/-- The state starts healthy: the first call draws a healthy dwell and says
so, and the state stays healthy until that dwell is over. -/
def StartsHealthy (fl : ℚ → ℚ) (cfg : MarkovConfig) (events : List MarkovEvent) : Prop :=
  ∀ first rest, events = first :: rest →
    (∃ flag, first.answer = some (.healthy, flag))
      ∧ plusMillis first.call.now (dwellMs fl cfg .healthy first.call.factor)
        = some first.after.dwellUntil
      ∧ ∀ e ∈ first :: rest, e.call.now < first.after.dwellUntil → e.after.kind = .healthy

section Runs

variable {fl : ℚ → ℚ} {cfg : MarkovConfig}

theorem trace_cons (st : MarkovState) (c : MarkovCall) (cs : List MarkovCall) :
    trace fl cfg st (c :: cs)
      = { call := c, before := st, after := (stepWithRng fl cfg st c.now c.factor).1,
          answer := (stepWithRng fl cfg st c.now c.factor).2 }
        :: trace fl cfg (stepWithRng fl cfg st c.now c.factor).1 cs := rfl

/-- A run starts in the state it is given. -/
theorem before_of_mem_head? {st : MarkovState} {cs : List MarkovCall} {e : MarkovEvent}
    (h : e ∈ (trace fl cfg st cs).head?) : e.before = st := by
  cases cs with
  | nil => cases h
  | cons c cs =>
      rw [trace_cons, List.head?_cons, Option.mem_some_iff] at h
      rw [← h]

theorem linked_trace (st : MarkovState) (cs : List MarkovCall) :
    (trace fl cfg st cs).IsChain fun e e' => e'.before = e.after := by
  induction cs generalizing st with
  | nil => exact List.isChain_nil
  | cons c cs ih =>
      rw [trace_cons, List.isChain_cons]
      exact ⟨fun e he => before_of_mem_head? he, ih _⟩

/-- Every event is one call's step. -/
theorem step_of_mem_trace {st : MarkovState} {cs : List MarkovCall} {e : MarkovEvent}
    (h : e ∈ trace fl cfg st cs) :
    stepWithRng fl cfg e.before e.call.now e.call.factor = (e.after, e.answer) := by
  induction cs generalizing st with
  | nil => cases h
  | cons c cs ih =>
      rw [trace_cons] at h
      rcases List.mem_cons.mp h with rfl | h
      · exact Prod.mk.eta.symm
      · exact ih h

/-- An event stays, turns, or turns and panics. -/
theorem event_cases {st : MarkovState} {cs : List MarkovCall} {e : MarkovEvent}
    (h : e ∈ trace fl cfg st cs) :
    (¬ e.Turns ∧ e.answer = some (e.after.kind, false))
      ∨ (e.Turns ∧ e.before.dwellUntil ≤ e.call.now
        ∧ e.call.now + nanosPerMilli ≤ e.after.dwellUntil
        ∧ e.answer = some (e.after.kind, true))
      ∨ (e.Turns ∧ e.before.dwellUntil ≤ e.call.now ∧ e.answer = none) := by
  have hstep := step_of_mem_trace h
  have hflip : e.after.kind = e.before.kind.flip → e.Turns := fun hkind => by
    rw [MarkovEvent.Turns, hkind]
    exact flip_ne e.before.kind
  rcases stepWithRng_cases fl cfg e.before e.call.now e.call.factor with
    ⟨-, hstay⟩ | ⟨hnow, t, hahead, hgo⟩ | ⟨hnow, hpanic⟩
  · rw [hstep, Prod.mk.injEq] at hstay
    rw [hstay.2, hstay.1]
    exact Or.inl ⟨fun hturn => hturn (congrArg MarkovState.kind hstay.1), rfl⟩
  · rw [hstep, Prod.mk.injEq] at hgo
    have hturn := hflip (congrArg MarkovState.kind hgo.1)
    rw [hgo.2, hgo.1]
    exact Or.inr (Or.inl ⟨hturn, hnow, hahead, rfl⟩)
  · rw [hstep, Prod.mk.injEq] at hpanic
    exact Or.inr (Or.inr ⟨hflip (congrArg MarkovState.kind hpanic.1), hnow, hpanic.2⟩)

/-- A turn is at the deadline or later. -/
theorem expired_of_mem_trace {st : MarkovState} {cs : List MarkovCall} {e : MarkovEvent}
    (h : e ∈ trace fl cfg st cs) (hturn : e.Turns) : e.before.dwellUntil ≤ e.call.now := by
  rcases event_cases h with ⟨hno, -⟩ | ⟨-, hnow, -⟩ | ⟨-, hnow, -⟩
  · exact absurd hturn hno
  · exact hnow
  · exact hnow

/-- An answered call says what it leaves, and flags a turn. -/
theorem answer_of_mem_trace {st : MarkovState} {cs : List MarkovCall} {e : MarkovEvent}
    (h : e ∈ trace fl cfg st cs) (hans : e.answer ≠ none) :
    e.answer = some (e.after.kind, decide e.Turns) := by
  rcases event_cases h with ⟨hno, hanswer⟩ | ⟨hturn, -, -, hanswer⟩ | ⟨-, -, hpanic⟩
  · rw [hanswer, decide_eq_false hno]
  · rw [hanswer, decide_eq_true hturn]
  · exact absurd hpanic hans

/-- An answered turn sets a deadline a millisecond ahead or more. -/
theorem deadline_of_mem_trace {st : MarkovState} {cs : List MarkovCall} {e : MarkovEvent}
    (h : e ∈ trace fl cfg st cs) (hans : e.answer ≠ none) (hturn : e.Turns) :
    e.call.now + nanosPerMilli ≤ e.after.dwellUntil := by
  rcases event_cases h with ⟨hno, -⟩ | ⟨-, -, hahead, -⟩ | ⟨-, -, hpanic⟩
  · exact absurd hturn hno
  · exact hahead
  · exact absurd hpanic hans

/-- The first turn of a run is at the deadline of its state or later, and
leaves the other kind. -/
theorem first_turn {st : MarkovState} {cs : List MarkovCall} {e : MarkovEvent}
    (h : e ∈ (turns (trace fl cfg st cs)).head?) :
    st.dwellUntil ≤ e.call.now ∧ e.after.kind = st.kind.flip := by
  induction cs generalizing st with
  | nil => cases h
  | cons c cs ih =>
      rw [trace_cons, turns] at h
      rcases stepWithRng_cases fl cfg st c.now c.factor with
        ⟨-, hstep⟩ | ⟨hnow, t, -, hstep⟩ | ⟨hnow, hstep⟩
      · rw [hstep, List.filter_cons_of_neg (by simp [MarkovEvent.Turns])] at h
        exact ih h
      · rw [hstep, List.filter_cons_of_pos (by simp [MarkovEvent.Turns, flip_ne]),
          List.head?_cons, Option.mem_some_iff] at h
        rw [← h]
        exact ⟨hnow, rfl⟩
      · rw [hstep, List.filter_cons_of_pos (by simp [MarkovEvent.Turns, flip_ne]),
          List.head?_cons, Option.mem_some_iff] at h
        rw [← h]
        exact ⟨hnow, rfl⟩

/-- A property of a turn and the turn after it, from what a turn leaves. -/
theorem turns_chain {R : MarkovEvent → MarkovEvent → Prop} {st : MarkovState}
    {cs : List MarkovCall}
    (hR : ∀ e ∈ trace fl cfg st cs, e.Turns → ∀ e', e.after.dwellUntil ≤ e'.call.now →
      e'.after.kind = e.after.kind.flip → R e e') :
    (turns (trace fl cfg st cs)).IsChain R := by
  induction cs generalizing st with
  | nil => exact List.isChain_nil
  | cons c cs ih =>
      rw [trace_cons] at hR ⊢
      have hrest := ih fun e he => hR e (List.mem_cons_of_mem _ he)
      rw [turns, List.filter_cons]
      split
      · rename_i hturn
        rw [List.isChain_cons]
        refine ⟨fun e' he' => ?_, hrest⟩
        obtain ⟨hdeadline, hkind⟩ := first_turn he'
        exact hR _ (List.mem_cons_self ..) (of_decide_eq_true hturn) e' hdeadline hkind
      · exact hrest

/-- A run whose calls all return follows its dwells. -/
theorem followsDwells_trace {st : MarkovState} {cs : List MarkovCall}
    (hans : ∀ e ∈ trace fl cfg st cs, e.answer ≠ none) :
    FollowsDwells (trace fl cfg st cs) where
  linked := linked_trace st cs
  expired := fun _ he hturn => expired_of_mem_trace he hturn
  alternate := turns_chain fun e _ _ e' _ hkind => by
    rw [hkind]
    exact flip_ne e.after.kind
  apart := List.isChain_iff_pairwise.mp <| turns_chain fun _ he hturn _ hnow _ =>
    (deadline_of_mem_trace he (hans _ he) hturn).trans hnow
  answered := fun e he => answer_of_mem_trace he (hans e he)

variable (fl cfg) in
/-- The first call on a new state turns it. -/
theorem first_event {start : Nat} {c : MarkovCall} (cs : List MarkovCall) (hc : start ≤ c.now) :
    ∃ e rest, trace fl cfg (MarkovState.new start) (c :: cs) = e :: rest
      ∧ e.after.kind = .degraded ∧ ∀ flag, e.answer ≠ some (.healthy, flag) := by
  rw [trace_cons]
  refine ⟨_, _, rfl, ?_⟩
  rcases stepWithRng_cases fl cfg (MarkovState.new start) c.now c.factor with
    ⟨hnow, -⟩ | ⟨-, t, -, hstep⟩ | ⟨-, hstep⟩
  · exact absurd hnow (not_lt.mpr hc)
  · rw [hstep]
    exact ⟨rfl, fun flag => by simp [MarkovState.new, StateKind.flip]⟩
  · rw [hstep]
    exact ⟨rfl, fun flag => by simp⟩

variable (fl cfg) in
/-- A run of a new state follows its dwells and starts healthy only while
nothing is called; a run whose calls all return follows its dwells. -/
theorem markov_run_iff (start : Nat) (cs : List MarkovCall)
    (hclock : (start :: cs.map MarkovCall.now).Pairwise (· ≤ ·)) :
    ((FollowsDwells (trace fl cfg (MarkovState.new start) cs)
        ∧ StartsHealthy fl cfg (trace fl cfg (MarkovState.new start) cs)) ↔ cs = [])
      ∧ ((∀ e ∈ trace fl cfg (MarkovState.new start) cs, e.answer ≠ none) →
        FollowsDwells (trace fl cfg (MarkovState.new start) cs)) := by
  refine ⟨⟨?_, ?_⟩, followsDwells_trace⟩
  · rintro ⟨-, hhealthy⟩
    cases cs with
    | nil => rfl
    | cons c cs =>
        have hc : start ≤ c.now := List.rel_of_pairwise_cons hclock (by simp)
        obtain ⟨e, rest, htrace, -, hanswer⟩ := first_event fl cfg cs hc
        obtain ⟨⟨flag, hflag⟩, -⟩ := hhealthy e rest htrace
        exact absurd hflag (hanswer flag)
  · rintro rfl
    refine ⟨followsDwells_trace (by simp [trace]), fun first rest h => ?_⟩
    cases h

end Runs

-- ============================================================ one service

/-- Exact arithmetic keeps what rounding has to. -/
theorem f64Rounding_id : F64Rounding id where
  mono := monotone_id
  exact := fun _ _ _ _ => rfl

/-- Two requests, ten minutes apart. -/
def twoRequests : List MarkovCall := [⟨0, 1⟩, ⟨600000000000, 1⟩]

/-- They follow their dwells, and do not start healthy. -/
theorem markov_run_iff_twoRequests :
    FollowsDwells (trace id default (MarkovState.new 0) twoRequests)
      ∧ ¬StartsHealthy id default (trace id default (MarkovState.new 0) twoRequests) := by
  obtain ⟨hnever, hfollows⟩ := markov_run_iff id default 0 twoRequests (by decide)
  have hdwells := hfollows (by decide +kernel)
  exact ⟨hdwells, fun hhealthy => absurd (hnever.mp ⟨hdwells, hhealthy⟩) (by decide)⟩

/-- The first request to a service finds it degraded. -/
theorem first_request_degraded :
    ¬ ∀ (fl : ℚ → ℚ) (cfg : MarkovConfig) (start : Nat) (cs : List MarkovCall), F64Rounding fl →
      (start :: cs.map MarkovCall.now).Pairwise (· ≤ ·) →
      StartsHealthy fl cfg (trace fl cfg (MarkovState.new start) cs) := by
  intro h
  obtain ⟨e, rest, htrace, -, hanswer⟩ :=
    first_event id default (c := ⟨0, 1⟩) [⟨600000000000, 1⟩] (le_refl 0)
  obtain ⟨⟨flag, hflag⟩, -⟩ :=
    h id default 0 twoRequests f64Rounding_id (by decide) e rest htrace
  exact hanswer flag hflag

end GostlyProxy
