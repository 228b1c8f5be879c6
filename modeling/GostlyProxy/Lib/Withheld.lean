/-
A machine behind a gate.

The outer machine lets some actions through to the inner one and withholds
the others. `passed` lists the actions a run lets through. When a passed
action is a step of the inner machine, and a withheld one leaves the inner
state alone, the outer run is the inner run of the passed actions:
`run_passed` for the states, `passedOutputs_eq` for what is answered.
-/
import GostlyProxy.Lib.Machine

namespace Lib.Machine

section Withheld

variable {σ τ α β ω υ : Type*} (step : σ → α → σ × ω) (through : σ → α → Bool)

/-- The actions of a run that are let through, as the inner machine sees
them. -/
def passed (inner : α → β) : σ → List α → List β
  | _, [] => []
  | s, a :: as =>
      if through s a then inner a :: passed inner (step s a).1 as
      else passed inner (step s a).1 as

/-- The outputs of the actions that are let through. -/
def passedOutputs : σ → List α → List ω
  | _, [] => []
  | s, a :: as =>
      if through s a then (step s a).2 :: passedOutputs (step s a).1 as
      else passedOutputs (step s a).1 as

/-- A gate in front of a machine: what it lets through is a step of the
machine, what it withholds leaves the machine alone. -/
structure IsGate (step₂ : τ → β → τ × υ) (π : σ → τ) (inner : α → β) (view : ω → υ) :
    Prop where
  passes : ∀ s a, through s a = true →
    step₂ (π s) (inner a) = (π (step s a).1, view (step s a).2)
  withholds : ∀ s a, through s a = false → π (step s a).1 = π s

variable {step through} {step₂ : τ → β → τ × υ} {π : σ → τ} {inner : α → β} {view : ω → υ}

theorem run_passed (h : IsGate step through step₂ π inner view) (s : σ) (as : List α) :
    π (run (fun s a => (step s a).1) s as)
      = run (fun t b => (step₂ t b).1) (π s) (passed step through inner s as) := by
  induction as generalizing s with
  | nil => rfl
  | cons a as ih =>
      show π (run (fun s a => (step s a).1) (step s a).1 as) = _
      rw [ih, passed]
      cases hthrough : through s a with
      | true => simp [run, h.passes s a hthrough]
      | false => simp [h.withholds s a hthrough]

theorem passedOutputs_eq (h : IsGate step through step₂ π inner view) (s : σ) (as : List α) :
    (passedOutputs step through s as).map view
      = outputs step₂ (fun _ => true) (π s) (passed step through inner s as) := by
  induction as generalizing s with
  | nil => rfl
  | cons a as ih =>
      rw [passedOutputs, passed]
      cases hthrough : through s a with
      | true => simp [outputs, ih, h.passes s a hthrough]
      | false => simp [ih, h.withholds s a hthrough]

/-- What holds of the output of every action that is let through. -/
theorem forall_mem_passedOutputs {P : ω → Prop}
    (h : ∀ s a, through s a = true → P (step s a).2) (s : σ) (as : List α) :
    ∀ o ∈ passedOutputs step through s as, P o := by
  induction as generalizing s with
  | nil => exact fun o ho => absurd ho List.not_mem_nil
  | cons a as ih =>
      rw [passedOutputs]
      cases hthrough : through s a with
      | true =>
          rw [if_pos rfl, List.forall_mem_cons]
          exact ⟨h s a hthrough, ih _⟩
      | false => exact ih _

end Withheld

-- ============================================================ the purge

section Purge

variable {σ α ω : Type*} {step : σ → α → σ × ω} {through : σ → α → Bool}

/-- Unwinding, where the state decides which actions are visible: visible
actions answer alike in related states and keep the relation, the others
keep it on their own. -/
theorem passed_purge {R : σ → σ → Prop}
    (hvis : ∀ s t a, R s t → through s a = true →
      (step s a).2 = (step t a).2 ∧ R (step s a).1 (step t a).1)
    (hinv : ∀ s t a, R s t → through s a = false → R (step s a).1 t)
    {s t : σ} (as : List α) (hR : R s t) :
    passedOutputs step through s as
        = outputs step (fun _ => true) t (passed step through id s as)
      ∧ R (run (fun s a => (step s a).1) s as)
          (run (fun s a => (step s a).1) t (passed step through id s as)) := by
  induction as generalizing s t with
  | nil => exact ⟨rfl, hR⟩
  | cons a as ih =>
      rw [passedOutputs, passed]
      cases hthrough : through s a with
      | true =>
          obtain ⟨hout, hR'⟩ := hvis s t a hR hthrough
          obtain ⟨houts, hrun⟩ := ih hR'
          refine ⟨?_, hrun⟩
          simp [outputs, hout, houts]
      | false => exact ih (hinv s t a hR hthrough)

end Purge

-- ============================================================ two machines

section Simulation

variable {σ τ α β ω : Type*} {step : σ → α → σ × ω} {step' : τ → β → τ × ω}
  {through : σ → α → Bool} {through' : τ → β → Bool}

/-- Two machines in related states see the same actions as visible, and
answer those alike: they answer alike along a whole run. -/
theorem passedOutputs_simulation {R : σ → τ → Prop} {image : α → β}
    (hthrough : ∀ s t a, R s t → through' t (image a) = through s a)
    (hout : ∀ s t a, R s t → through s a = true → (step s a).2 = (step' t (image a)).2)
    (hstep : ∀ s t a, R s t → R (step s a).1 (step' t (image a)).1)
    {s : σ} {t : τ} (as : List α) (hR : R s t) :
    passedOutputs step through s as = passedOutputs step' through' t (as.map image) := by
  induction as generalizing s t with
  | nil => rfl
  | cons a as ih =>
      rw [List.map_cons, passedOutputs, passedOutputs, hthrough s t a hR,
        ih (hstep s t a hR)]
      cases ha : through s a with
      | true => rw [if_pos rfl, if_pos rfl, hout s t a hR ha]
      | false => rfl

end Simulation

end Lib.Machine
