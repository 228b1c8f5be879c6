/-
State machines and their runs: partial steps for systems whose parties
interleave, total steps for systems that run one operation after another,
and steps with an output for systems that answer requests.

# Partial steps

`exec` runs a list of actions, stopping at the first that is not enabled.
`Along G` says that every action of a run is taken in a state that meets
`G`. The one induction, `exec_along`, carries an invariant through a run
whose steps keep it under `G`; `exec_invariant` is the form without a
condition. `exec_history` is the form for what can be said of a state by the
actions that led to it.

# Steps with an output

`outputs vis` collects what the visible actions answer. `outputs_purge`
is the unwinding argument of noninterference, with a condition on the
steps: two machines in states related by `R`, where a visible action
answers alike and keeps `R`, and an invisible action of the first machine
alone keeps `R`, give the same answers when the second machine runs the
visible actions only. `outputs_simulated` is the form where all actions are
visible, with the states at the end.
-/
import Mathlib.Data.List.Basic

namespace Lib.Machine

-- ======================================================= partial steps

section Partial

variable {σ α : Type*} (step : σ → α → Option σ)

/-- Run a list of actions, failing on the first disabled action. -/
def exec : σ → List α → Option σ
  | s, [] => some s
  | s, a :: as => (step s a).bind fun s' => exec s' as

/-- Every action of the run is taken in a state that meets `G`. -/
def Along (G : σ → α → Prop) : σ → List α → Prop
  | _, [] => True
  | s, a :: as => G s a ∧ ∀ s', step s a = some s' → Along G s' as

variable {step}

theorem exec_cons {s s' : σ} {a : α} {as : List α} :
    exec step s (a :: as) = some s'
      ↔ ∃ t, step s a = some t ∧ exec step t as = some s' := by
  rw [exec, Option.bind_eq_some_iff]

theorem along_cons {G : σ → α → Prop} {s t : σ} {a : α} {as : List α}
    (ht : step s a = some t) : Along step G s (a :: as) ↔ G s a ∧ Along step G t as := by
  rw [Along, ht]
  exact and_congr_right fun _ => ⟨fun h => h t rfl, fun h t' ht' => Option.some.inj ht' ▸ h⟩

theorem exec_append {s : σ} {as bs : List α} :
    exec step s (as ++ bs) = (exec step s as).bind fun t => exec step t bs := by
  induction as generalizing s with
  | nil => rfl
  | cons a as ih =>
      rw [List.cons_append, exec, exec]
      cases step s a with
      | none => rfl
      | some t => exact ih

/-- An invariant that every step keeps under `G` holds after every run
whose steps meet `G`. -/
theorem exec_along {I : σ → Prop} {G : σ → α → Prop}
    (hstep : ∀ s a s', I s → G s a → step s a = some s' → I s')
    {s s' : σ} {as : List α} (hI : I s) (hG : Along step G s as)
    (hrun : exec step s as = some s') : I s' := by
  induction as generalizing s with
  | nil =>
      rw [exec, Option.some.injEq] at hrun
      exact hrun ▸ hI
  | cons a as ih =>
      obtain ⟨t, ht, hrest⟩ := exec_cons.mp hrun
      exact ih (hstep s a t hI hG.1 ht) (hG.2 t ht) hrest

/-- What holds of the first state after no actions, and is kept by every
step as the actions grow, holds of the last state and the whole run. -/
theorem exec_history {I : σ → List α → Prop}
    (hstep : ∀ s past a s', I s past → step s a = some s' → I s' (past ++ [a]))
    {s s' : σ} {as : List α} (hI : I s []) (hrun : exec step s as = some s') : I s' as := by
  have hgen : ∀ as past s, I s past → exec step s as = some s' → I s' (past ++ as) := by
    intro as
    induction as with
    | nil =>
        intro past s hI hrun
        rw [exec, Option.some.injEq] at hrun
        rw [List.append_nil]
        exact hrun ▸ hI
    | cons a as ih =>
        intro past s hI hrun
        obtain ⟨t, ht, hrest⟩ := exec_cons.mp hrun
        rw [List.append_cons]
        exact ih (past ++ [a]) t (hstep s past a t hI ht) hrest
  exact hgen as [] s hI hrun

/-- An invariant that every step keeps holds after every run. -/
theorem exec_invariant {I : σ → Prop}
    (hstep : ∀ s a s', I s → step s a = some s' → I s')
    {s s' : σ} {as : List α} (hI : I s) (hrun : exec step s as = some s') :
    I s' :=
  exec_history (I := fun s _ => I s) (fun s _ a s' h => hstep s a s' h) hI hrun

end Partial

-- ========================================================= total steps

section Total

variable {σ α : Type*} (step : σ → α → σ)

/-- The state a run of total steps ends in. -/
def run (s : σ) (as : List α) : σ := as.foldl step s

/-- Every action of a run of total steps is taken in a state that meets
`G`. -/
def AlongT (G : σ → α → Prop) : σ → List α → Prop
  | _, [] => True
  | s, a :: as => G s a ∧ AlongT G (step s a) as

variable {step}

/-- An invariant that every step keeps holds at the end of every run. -/
theorem run_invariant {I : σ → Prop} (hstep : ∀ s a, I s → I (step s a))
    {s : σ} (hI : I s) (as : List α) : I (run step s as) := by
  induction as generalizing s with
  | nil => exact hI
  | cons a as ih => exact ih (hstep s a hI)

end Total

-- ================================================= steps with an output

section Output

variable {σ τ α ω : Type*}

/-- The answers of the visible actions of a run, in order. -/
def outputs (step : σ → α → σ × ω) (vis : α → Bool) : σ → List α → List ω
  | _, [] => []
  | s, a :: as =>
      if vis a then (step s a).2 :: outputs step vis (step s a).1 as
      else outputs step vis (step s a).1 as

theorem outputs_visible {step : σ → α → σ × ω} {vis : α → Bool} {s : σ} {a : α}
    {as : List α} (h : vis a = true) :
    outputs step vis s (a :: as) = (step s a).2 :: outputs step vis (step s a).1 as := by
  rw [outputs, if_pos h]

theorem outputs_invisible {step : σ → α → σ × ω} {vis : α → Bool} {s : σ} {a : α}
    {as : List α} (h : vis a = false) :
    outputs step vis s (a :: as) = outputs step vis (step s a).1 as := by
  rw [outputs, h, if_neg Bool.false_ne_true]

/-- Every action of the run is taken in a state that meets `G`. -/
def AlongO (step : σ → α → σ × ω) (G : σ → α → Prop) : σ → List α → Prop
  | _, [] => True
  | s, a :: as => G s a ∧ AlongO step G (step s a).1 as

theorem alongO_append {step : σ → α → σ × ω} {G : σ → α → Prop} {s : σ} {as bs : List α} :
    AlongO step G s (as ++ bs)
      ↔ AlongO step G s as ∧ AlongO step G (run (fun s a => (step s a).1) s as) bs := by
  induction as generalizing s with
  | nil => simp [AlongO, run]
  | cons a as ih =>
      rw [List.cons_append, AlongO, AlongO, ih, and_assoc]
      rfl

/-- Two conditions that agree where an invariant holds agree along every
run from there. -/
theorem alongO_congr {step : σ → α → σ × ω} {I : σ → Prop} {G G' : σ → α → Prop}
    (hstep : ∀ s a, I s → I (step s a).1) (hG : ∀ s a, I s → (G s a ↔ G' s a))
    {s : σ} {as : List α} (hI : I s) : AlongO step G s as ↔ AlongO step G' s as := by
  induction as generalizing s with
  | nil => exact Iff.rfl
  | cons a as ih => exact and_congr (hG s a hI) (ih (hstep s a hI))

/-- Unwinding: invisible actions of the first machine go unseen, visible
actions answer alike, so deleting the invisible actions changes no
answer. -/
theorem outputs_purge {step₁ : σ → α → σ × ω} {step₂ : τ → α → τ × ω}
    {vis : α → Bool} {R : σ → τ → Prop} {G : σ → α → Prop}
    (hvis : ∀ s t a, R s t → G s a → vis a = true →
      (step₁ s a).2 = (step₂ t a).2 ∧ R (step₁ s a).1 (step₂ t a).1)
    (hinv : ∀ s t a, R s t → G s a → vis a = false → R (step₁ s a).1 t)
    {s : σ} {t : τ} {as : List α} (hR : R s t) (hG : AlongO step₁ G s as) :
    outputs step₁ vis s as = outputs step₂ vis t (as.filter vis) := by
  induction as generalizing s t with
  | nil => rfl
  | cons a as ih =>
      obtain ⟨hG₀, hG⟩ := hG
      cases hv : vis a with
      | true =>
          obtain ⟨hout, hR'⟩ := hvis s t a hR hG₀ hv
          rw [List.filter_cons_of_pos hv, outputs_visible hv, outputs_visible hv, hout,
            ih hR' hG]
      | false =>
          rw [List.filter_cons_of_neg (by rw [hv]; exact Bool.false_ne_true),
            outputs_invisible hv]
          exact ih (hinv s t a hR hG₀ hv) hG

/-- Two machines that answer alike, as long as the first meets `G`, and stay
related give the same answers and end related. -/
theorem outputs_simulated {step₁ : σ → α → σ × ω} {step₂ : τ → α → τ × ω}
    {R : σ → τ → Prop} {G : σ → α → Prop}
    (hstep : ∀ s t a, R s t → G s a →
      (step₁ s a).2 = (step₂ t a).2 ∧ R (step₁ s a).1 (step₂ t a).1)
    {s : σ} {t : τ} {as : List α} (hR : R s t) (hG : AlongO step₁ G s as) :
    outputs step₁ (fun _ => true) s as = outputs step₂ (fun _ => true) t as
      ∧ R (run (fun s a => (step₁ s a).1) s as) (run (fun t a => (step₂ t a).1) t as) := by
  induction as generalizing s t with
  | nil => exact ⟨rfl, hR⟩
  | cons a as ih =>
      obtain ⟨hG₀, hG⟩ := hG
      obtain ⟨hout, hR'⟩ := hstep s t a hR hG₀
      obtain ⟨houts, hend⟩ := ih hR' hG
      rw [outputs_visible rfl, outputs_visible rfl, hout, houts]
      exact ⟨rfl, hend⟩

/-- A machine that carries more state and answers alike has the same
answers. -/
theorem outputs_forget {step₁ : σ → α → σ × ω} {step₂ : τ → α → τ × ω}
    {vis : α → Bool} (π : σ → τ)
    (hstep : ∀ s a, step₂ (π s) a = (π (step₁ s a).1, (step₁ s a).2))
    (s : σ) (as : List α) :
    outputs step₁ vis s as = outputs step₂ vis (π s) as := by
  induction as generalizing s with
  | nil => rfl
  | cons a as ih => rw [outputs, outputs, hstep, ih]

end Output

end Lib.Machine
