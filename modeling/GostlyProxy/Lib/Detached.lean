/-
Operations that return at once and leave tasks behind, which complete later
and in any order.

An operation changes the state and spawns tasks; completing a pending task,
with whatever the task reads from outside, changes the state again. A run
mixes the two freely, so every order of completions occurs. The world
records what was spawned and what was completed, each in its order:
`completed_perm` says that at quiescence the one is a permutation of the
other, and `exec_inv` is the induction over a run, for what can be said of
the state by these two lists.
-/
import GostlyProxy.Lib.Machine
import Mathlib.Data.List.Induction
import Mathlib.Data.List.Perm.Basic

namespace Lib.Detached

/-- The state, the tasks still to complete, and the history of the tasks. -/
structure World (σ τ : Type*) where
  state : σ
  pending : List τ
  spawned : List τ
  completed : List τ

inductive Action (α ε : Type*) where
  | op (a : α)
  | complete (i : Nat) (input : ε)

section Runs

variable {σ τ α ε : Type*}

def World.start (s : σ) : World σ τ where
  state := s
  pending := []
  spawned := []
  completed := []

/-- No task is left to complete. -/
def World.Quiescent (w : World σ τ) : Prop := w.pending = []

variable (op : σ → α → σ × List τ) (complete : σ → ε → τ → σ)

def step (w : World σ τ) : Action α ε → Option (World σ τ)
  | .op a =>
      some
        { state := (op w.state a).1
          pending := w.pending ++ (op w.state a).2
          spawned := w.spawned ++ (op w.state a).2
          completed := w.completed }
  | .complete i input =>
      w.pending[i]?.map fun task =>
        { state := complete w.state input task
          pending := w.pending.eraseIdx i
          spawned := w.spawned
          completed := w.completed ++ [task] }

variable {op complete}

/-- Every task that was spawned is completed or pending, as often. -/
def Accounted (w : World σ τ) : Prop := w.spawned.Perm (w.completed ++ w.pending)

theorem accounted_start (s : σ) : Accounted (World.start s : World σ τ) := List.Perm.nil

theorem accounted_step {w w' : World σ τ} {a : Action α ε} (h : Accounted w)
    (hstep : step op complete w a = some w') : Accounted w' := by
  cases a with
  | op a =>
      rw [step, Option.some.injEq] at hstep
      subst hstep
      show (w.spawned ++ _).Perm (w.completed ++ (w.pending ++ _))
      rw [← List.append_assoc]
      exact h.append_right _
  | complete i input =>
      rw [step, Option.map_eq_some_iff] at hstep
      obtain ⟨task, htask, rfl⟩ := hstep
      obtain ⟨hi, rfl⟩ := List.getElem?_eq_some_iff.mp htask
      show w.spawned.Perm (w.completed ++ [w.pending[i]] ++ w.pending.eraseIdx i)
      rw [List.append_assoc, List.singleton_append]
      exact h.trans ((List.getElem_cons_eraseIdx_perm hi).symm.append_left _)

theorem accounted_exec {s : σ} {w : World σ τ} {run : List (Action α ε)}
    (hrun : Machine.exec (step op complete) (World.start s) run = some w) : Accounted w :=
  Machine.exec_invariant (fun _ _ _ h hstep => accounted_step h hstep) (accounted_start s)
    hrun

/-- At quiescence the completed tasks are the spawned ones. -/
theorem completed_perm {s : σ} {w : World σ τ} {run : List (Action α ε)}
    (hrun : Machine.exec (step op complete) (World.start s) run = some w)
    (hquiet : w.Quiescent) : w.completed.Perm w.spawned := by
  have h := accounted_exec hrun
  unfold Accounted at h
  rw [hquiet, List.append_nil] at h
  exact h.symm

/-- What holds of the state and the two histories in the beginning, and is
kept by every operation of the run and by every completion of a spawned
task, holds at the end. -/
theorem exec_inv {I : σ → List τ → List τ → Prop} {P : α → Prop}
    (hop : ∀ s sp co a, P a → I s sp co → I (op s a).1 (sp ++ (op s a).2) co)
    (hcomplete : ∀ s sp co input task, task ∈ sp → I s sp co →
      I (complete s input task) sp (co ++ [task]))
    {s : σ} {w : World σ τ} {run : List (Action α ε)} (hstart : I s [] [])
    (hP : ∀ a, Action.op a ∈ run → P a)
    (hrun : Machine.exec (step op complete) (World.start s) run = some w) :
    I w.state w.spawned w.completed := by
  have hgen : ∀ (run : List (Action α ε)) (w₀ : World σ τ),
      Accounted w₀ → I w₀.state w₀.spawned w₀.completed → (∀ a, Action.op a ∈ run → P a) →
      Machine.exec (step op complete) w₀ run = some w →
      I w.state w.spawned w.completed := by
    intro run
    induction run with
    | nil =>
        intro w₀ _ hI _ hrun
        rw [Machine.exec, Option.some.injEq] at hrun
        exact hrun ▸ hI
    | cons a run ih =>
        intro w₀ hacc hI hP hrun
        obtain ⟨w₁, hstep, hrest⟩ := Machine.exec_cons.mp hrun
        refine ih w₁ (accounted_step hacc hstep) ?_
          (fun a ha => hP a (List.mem_cons_of_mem _ ha)) hrest
        cases a with
        | op a =>
            rw [step, Option.some.injEq] at hstep
            subst hstep
            exact hop _ _ _ a (hP a (List.mem_cons_self ..)) hI
        | complete i input =>
            rw [step, Option.map_eq_some_iff] at hstep
            obtain ⟨task, htask, rfl⟩ := hstep
            refine hcomplete _ _ _ input task ?_ hI
            exact hacc.mem_iff.mpr (List.mem_append_right _ (List.mem_of_getElem? htask))
  exact hgen run (World.start s) (accounted_start s) hstart hP hrun

/-- Spawned tasks are not forgotten. -/
theorem spawned_exec {w w' : World σ τ} {run : List (Action α ε)}
    (hrun : Machine.exec (step op complete) w run = some w') : w.spawned ⊆ w'.spawned := by
  refine Machine.exec_invariant (I := fun v => w.spawned ⊆ v.spawned) ?_ (List.Subset.refl _)
    hrun
  intro v a v' hv hstep
  cases a with
  | op a =>
      rw [step, Option.some.injEq] at hstep
      subst hstep
      exact List.Subset.trans hv (List.subset_append_left _ _)
  | complete i input =>
      rw [step, Option.map_eq_some_iff] at hstep
      obtain ⟨task, -, rfl⟩ := hstep
      exact hv

/-- What an operation of the run spawned is among the spawned tasks. -/
theorem mem_spawned_of_op {s : σ} {w : World σ τ} {run : List (Action α ε)} {a : α}
    (hrun : Machine.exec (step op complete) (World.start s) run = some w)
    (ha : .op a ∈ run) : ∃ s', (op s' a).2 ⊆ w.spawned := by
  obtain ⟨before, after, rfl⟩ := List.append_of_mem ha
  rw [Machine.exec_append, Option.bind_eq_some_iff] at hrun
  obtain ⟨w₁, -, hrest⟩ := hrun
  obtain ⟨w₂, hstep, hlater⟩ := Machine.exec_cons.mp hrest
  rw [step, Option.some.injEq] at hstep
  subst hstep
  exact ⟨w₁.state, List.Subset.trans (List.subset_append_right _ _) (spawned_exec hlater)⟩

/-- A completed task was completed by one step of the run. -/
theorem exists_completion {s : σ} {w : World σ τ} {run : List (Action α ε)} {task : τ}
    (hrun : Machine.exec (step op complete) (World.start s) run = some w)
    (htask : task ∈ w.completed) :
    ∃ before i input w₁ w₂, before ++ [.complete i input] <+: run
      ∧ Machine.exec (step op complete) (World.start s) before = some w₁
      ∧ Machine.exec (step op complete) (World.start s) (before ++ [.complete i input]) = some w₂
      ∧ w₂.state = complete w₁.state input task := by
  induction run using List.reverseRecOn generalizing w with
  | nil =>
      rw [Machine.exec, Option.some.injEq] at hrun
      subst hrun
      exact absurd htask List.not_mem_nil
  | append_singleton run a ih =>
      have hlast := hrun
      rw [Machine.exec_append, Option.bind_eq_some_iff] at hrun
      obtain ⟨w₁, hbefore, hrest⟩ := hrun
      obtain ⟨w₂, hstep, hnil⟩ := Machine.exec_cons.mp hrest
      rw [Machine.exec, Option.some.injEq] at hnil
      subst hnil
      cases a with
      | op a =>
          rw [step, Option.some.injEq] at hstep
          subst hstep
          obtain ⟨before, i, input, v₁, v₂, hinit, hrest⟩ := ih hbefore htask
          exact ⟨before, i, input, v₁, v₂, hinit.trans (List.prefix_append _ _), hrest⟩
      | complete i input =>
          rw [step, Option.map_eq_some_iff] at hstep
          obtain ⟨task', -, rfl⟩ := hstep
          rcases List.mem_append.mp htask with htask | htask
          · obtain ⟨before, i, input, v₁, v₂, hinit, hrest⟩ := ih hbefore htask
            exact ⟨before, i, input, v₁, v₂, hinit.trans (List.prefix_append _ _), hrest⟩
          · rw [List.mem_singleton.mp htask]
            exact ⟨run, i, input, w₁, _, List.prefix_rfl, hbefore, hlast, rfl⟩

end Runs

end Lib.Detached
