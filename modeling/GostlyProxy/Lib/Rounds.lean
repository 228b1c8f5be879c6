/-
A worker that takes its work in rounds.

Keys wait in a queue. The worker takes a front part of the queue as a
round, works the round off key by key, and takes the next one; what arrives
in the meantime goes to the end of the queue. A key that was worked off is
clean, and in a stretch of the run in which nothing makes a clean key dirty
again the worker catches up: once more rounds were taken than keys were
waiting, every key is clean (`clean_of_rounds`), however much work arrived
on the way.
-/
import Mathlib.Data.List.Basic

namespace Lib

/-- The keys that wait, the keys that the round will still make clean, and
the keys that are clean. -/
structure Rounds (κ : Type*) where
  queue : List κ
  pending : κ → Prop
  clean : κ → Prop

namespace Rounds

variable {κ : Type*}

/-- Begin a round: a front part of the queue, in any order, with or without
repetitions. -/
structure Take (s s' : Rounds κ) : Prop where
  idle : ∀ k, ¬ s.pending k
  taken : ∃ n, s'.queue = s.queue.drop (n + 1) ∧ ∀ k ∈ s.queue.take (n + 1), s'.pending k
  clean : ∀ k, s.clean k → s'.clean k

/-- Any other step: keys may arrive, and a key leaves the round only when it
is clean. -/
structure Work (s s' : Rounds κ) : Prop where
  queue : s.queue <+: s'.queue
  pending : ∀ k, s.pending k → s'.pending k ∨ s'.clean k
  clean : ∀ k, s.clean k → s'.clean k

/-- A stretch of steps, with the number of rounds begun in it. -/
inductive Run : Rounds κ → Nat → Rounds κ → Prop where
  | nil (s : Rounds κ) : Run s 0 s
  | take {s t u : Rounds κ} {n : Nat} (h : Take s t) (hrun : Run t n u) : Run s (n + 1) u
  | work {s t u : Rounds κ} {n : Nat} (h : Work s t) (hrun : Run t n u) : Run s n u

/-- Clean keys stay clean. -/
theorem Run.clean {s s' : Rounds κ} {n : Nat} (h : Run s n s') :
    ∀ k, s.clean k → s'.clean k := by
  induction h with
  | nil s => exact fun _ hk => hk
  | take h _ ih => exact fun k hk => ih k (h.clean k hk)
  | work h _ ih => exact fun k hk => ih k (h.clean k hk)

/-- What is not clean waits or is being worked off. -/
def Covered (s : Rounds κ) : Prop :=
  ∀ k, s.clean k ∨ k ∈ s.queue ∨ s.pending k

/-- No key is forgotten on the way. -/
theorem Run.covered {s s' : Rounds κ} {n : Nat} (h : Run s n s') :
    s.Covered → s'.Covered := by
  induction h with
  | nil s => exact id
  | @take s t u n hstep _ ih =>
      intro h
      obtain ⟨m, hqueue, hpending⟩ := hstep.taken
      apply ih
      intro k
      rcases h k with hk | hk | hk
      · exact Or.inl (hstep.clean k hk)
      · rw [← List.take_append_drop (m + 1) s.queue, List.mem_append, ← hqueue] at hk
        exact Or.inr (hk.symm.imp_right (hpending k))
      · exact absurd hk (hstep.idle k)
  | work hstep _ ih =>
      intro h
      apply ih
      intro k
      rcases h k with hk | hk | hk
      · exact Or.inl (hstep.clean k hk)
      · exact Or.inr (Or.inl (hstep.queue.subset hk))
      · rcases hstep.pending k hk with hk' | hk'
        · exact Or.inr (Or.inr hk')
        · exact Or.inl hk'

/-- When there is nothing left to do, all is clean. -/
theorem clean_of_idle {s : Rounds κ} (h : s.Covered) (hqueue : s.queue = [])
    (hpending : ∀ k, ¬ s.pending k) (k : κ) : s.clean k := by
  rcases h k with hk | hk | hk
  · exact hk
  · rw [hqueue] at hk
    cases hk
  · exact absurd hk (hpending k)

/-- What is not clean is in the part of the queue that was there in the
beginning, or in the round. -/
def Behind (s : Rounds κ) (old : List κ) : Prop :=
  old <+: s.queue ∧ ∀ k, s.clean k ∨ k ∈ old ∨ s.pending k

theorem Behind.work {s s' : Rounds κ} {old : List κ} (h : s.Behind old) (hstep : Work s s') :
    s'.Behind old := by
  refine ⟨h.1.trans hstep.queue, fun k => ?_⟩
  rcases h.2 k with hk | hk | hk
  · exact Or.inl (hstep.clean k hk)
  · exact Or.inr (Or.inl hk)
  · rcases hstep.pending k hk with hk' | hk'
    · exact Or.inr (Or.inr hk')
    · exact Or.inl hk'

/-- A round takes at least one of the keys that were there. -/
theorem Behind.take {s s' : Rounds κ} {old : List κ} (h : s.Behind old) (hstep : Take s s') :
    ∃ old', s'.Behind old' ∧ old'.length ≤ old.length - 1 := by
  obtain ⟨n, hqueue, hpending⟩ := hstep.taken
  obtain ⟨rest, hrest⟩ := h.1
  refine ⟨old.drop (n + 1), ⟨?_, fun k => ?_⟩, ?_⟩
  · rw [hqueue, ← hrest, List.drop_append]
    exact List.prefix_append _ _
  · rcases h.2 k with hk | hk | hk
    · exact Or.inl (hstep.clean k hk)
    · rw [← List.take_append_drop (n + 1) old, List.mem_append] at hk
      rcases hk with hk | hk
      · refine Or.inr (Or.inr (hpending k ?_))
        rw [← hrest, List.take_append]
        exact List.mem_append_left _ hk
      · exact Or.inr (Or.inl hk)
    · exact absurd hk (hstep.idle k)
  · rw [List.length_drop]
    omega

/-- Once more rounds were begun than keys were waiting, all is clean. -/
theorem Behind.clean_of_run {s s' : Rounds κ} {n : Nat} (hrun : Run s n s') :
    ∀ {old : List κ}, s.Behind old → old.length < n → ∀ k, s'.clean k := by
  induction hrun with
  | nil s => exact fun _ hlt => absurd hlt (Nat.not_lt_zero _)
  | work hstep _ ih => exact fun h hlt => ih (h.work hstep) hlt
  | @take s t u n hstep hrest ih =>
      intro old h hlt k
      cases old with
      | nil =>
          -- Nothing was waiting and the round is over.
          apply hrest.clean k
          apply hstep.clean k
          rcases h.2 k with hk | hk | hk
          · exact hk
          · cases hk
          · exact absurd hk (hstep.idle k)
      | cons o old =>
          obtain ⟨old', h', hle⟩ := h.take hstep
          rw [List.length_cons] at hle hlt
          exact ih h' (by omega) k

theorem clean_of_rounds {s s' : Rounds κ} {n : Nat} (hrun : Run s n s')
    (hcovered : s.Covered) (hlt : s.queue.length < n) :
    ∀ k, s'.clean k :=
  Behind.clean_of_run hrun ⟨List.prefix_rfl, hcovered⟩ hlt

end Rounds

end Lib
