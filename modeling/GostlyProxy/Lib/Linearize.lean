/-
Threads that take effect once.

A thread of `Lib/Threads.lean` may take many steps, but one of them is the
one at which its operation takes effect. The shared state comes with the
history of the threads that have taken effect, in that order, and
`TakesEffectOnce` says that a step either leaves a thread where it was in
this respect, or takes effect for the first time and goes to the end of the
order.

Then the order lists the threads that have taken effect, each once
(`order_of_run`), and it respects time: who had taken effect before another
did is before it in the order (`precedes_of_run`). What the operations in
this order amount to, run one after another, is up to the program; a
relation between its states and the threads' is kept by the induction of
`Lib/Threads.lean`. What a thread has yet to hand over after it took effect
is its debt; `debts` lists them in the order, and the sequential run has
them paid.
-/
import GostlyProxy.Lib.Threads
import Mathlib.Data.List.Nodup

namespace Lib.Linearize

open Threads

variable {ι σ τ ε : Type}

/-- A shared state, with the history of who took effect. -/
structure Ordered (ι σ : Type) where
  state : σ
  order : List ι

/-- A thread takes effect. -/
def Ordered.effect (s : Ordered ι σ) (i : ι) (state : σ) : Ordered ι σ where
  state := state
  order := s.order ++ [i]

def Ordered.start (state : σ) : Ordered ι σ where
  state := state
  order := []

/-- A step takes effect at most once for its thread. -/
def TakesEffectOnce (act : ι → Ordered ι σ → τ → ε → Option (Ordered ι σ × τ))
    (effected : τ → Bool) : Prop :=
  ∀ i s t e s' t', act i s t e = some (s', t') →
    (effected t' = effected t ∧ s'.order = s.order)
      ∨ (effected t = false ∧ effected t' = true ∧ s'.order = s.order ++ [i])

variable [DecidableEq ι] {act : ι → Ordered ι σ → τ → ε → Option (Ordered ι σ × τ)}
  {effected : τ → Bool}

/-- The order lists who took effect. -/
structure Lists (effected : τ → Bool) (w : World ι (Ordered ι σ) τ) : Prop where
  nodup : w.shared.order.Nodup
  mem : ∀ i, i ∈ w.shared.order ↔ effected (w.thread i) = true

theorem Lists.step (honce : TakesEffectOnce act effected) {w : World ι (Ordered ι σ) τ}
    (h : Lists effected w) {i : ι} {e : ε} {s : Ordered ι σ} {t : τ}
    (hact : act i w.shared (w.thread i) e = some (s, t)) :
    Lists effected { shared := s, thread := Function.update w.thread i t } := by
  rcases honce i _ _ e s t hact with ⟨hsame, horder⟩ | ⟨hbefore, hafter, horder⟩
  · refine ⟨?_, fun j => ?_⟩
    · show s.order.Nodup
      rw [horder]
      exact h.nodup
    · show j ∈ s.order ↔ effected (Function.update w.thread i t j) = true
      rw [horder, h.mem j]
      by_cases hj : j = i
      · subst hj
        rw [Function.update_self, hsame]
      · rw [Function.update_of_ne hj]
  · have hi : i ∉ w.shared.order := by
      rw [h.mem i, hbefore]
      exact Bool.false_ne_true
    refine ⟨?_, fun j => ?_⟩
    · show s.order.Nodup
      rw [horder]
      simpa [List.nodup_append, h.nodup] using fun a ha => ne_of_mem_of_not_mem ha hi
    · show j ∈ s.order ↔ effected (Function.update w.thread i t j) = true
      rw [horder, List.mem_append, List.mem_singleton]
      by_cases hj : j = i
      · subst hj
        rw [Function.update_self, hafter]
        simp
      · rw [Function.update_of_ne hj, h.mem j]
        simp [hj]

theorem order_of_run (honce : TakesEffectOnce act effected) {s : σ} {t : τ}
    (ht : effected t = false) {schedule : List (ι × ε)} {w : World ι (Ordered ι σ) τ}
    (hrun : Machine.exec (step act) (World.start (.start s) t) schedule = some w) :
    Lists effected w := by
  refine Threads.exec_history (I := fun w _ => Lists effected w)
    (fun w _ i e s t h hact => h.step honce hact) ⟨List.nodup_nil, fun i => ?_⟩ hrun
  simp [World.start, Ordered.start, ht]

/-- The order only grows. -/
theorem order_prefix (honce : TakesEffectOnce act effected) {v w : World ι (Ordered ι σ) τ}
    {schedule : List (ι × ε)} (hrun : Machine.exec (step act) v schedule = some w) :
    v.shared.order <+: w.shared.order := by
  refine Threads.exec_history (I := fun w _ => v.shared.order <+: w.shared.order)
    (fun w _ i e s t h hact => ?_) List.prefix_rfl hrun
  show v.shared.order <+: s.order
  rcases honce i _ _ e s t hact with ⟨_, horder⟩ | ⟨_, _, horder⟩
  · rw [horder]
    exact h
  · rw [horder]
    exact h.trans (List.prefix_append _ _)

/-- Who had taken effect before another did is before it in the order. -/
theorem precedes_of_run (honce : TakesEffectOnce act effected) {s : σ} {t : τ}
    (ht : effected t = false) {before after : List (ι × ε)} {v w : World ι (Ordered ι σ) τ}
    (hbefore : Machine.exec (step act) (World.start (.start s) t) before = some v)
    (hafter : Machine.exec (step act) v after = some w) {i j : ι}
    (hi : effected (v.thread i) = true) (hj : effected (v.thread j) = false) :
    ∃ first rest, w.shared.order = first ++ rest ∧ i ∈ first ∧ j ∉ first := by
  have hlists := order_of_run honce ht hbefore
  obtain ⟨rest, hrest⟩ := order_prefix honce hafter
  refine ⟨v.shared.order, rest, hrest.symm, (hlists.mem i).mpr hi, ?_⟩
  rw [hlists.mem j, hj]
  exact Bool.false_ne_true

-- ================================================================== debts

section Debts

variable {α : Type} (owed : τ → Option α)

/-- What the threads that have taken effect still owe, in the order. -/
def debts (order : List ι) (thread : ι → τ) : List α := order.filterMap fun i => owed (thread i)

variable {owed} {order : List ι} {thread : ι → τ} {i : ι} {t : τ}

theorem debts_update_of_notMem (hi : i ∉ order) :
    debts owed order (Function.update thread i t) = debts owed order thread := by
  refine List.filterMap_congr fun j hj => ?_
  rw [Function.update_of_ne (ne_of_mem_of_not_mem hj hi)]

theorem debts_congr (howed : owed t = owed (thread i)) :
    debts owed order (Function.update thread i t) = debts owed order thread := by
  refine List.filterMap_congr fun j _ => ?_
  by_cases hj : j = i
  · subst hj
    rw [Function.update_self, howed]
  · rw [Function.update_of_ne hj]

/-- A thread takes effect and goes into debt. -/
theorem debts_effect (hi : i ∉ order) :
    debts owed (order ++ [i]) (Function.update thread i t)
      = debts owed order thread ++ (owed t).toList := by
  rw [← debts_update_of_notMem hi, debts, List.filterMap_append, List.filterMap_cons,
    Function.update_self]
  cases owed t <;> rfl

/-- A thread pays what it owes. -/
theorem debts_pay (hnodup : order.Nodup) (hi : i ∈ order) {d : α}
    (hd : owed (thread i) = some d) (ht : owed t = none) :
    (debts owed order thread).Perm (d :: debts owed order (Function.update thread i t)) := by
  obtain ⟨before, after, rfl⟩ := List.append_of_mem hi
  have hout : i ∉ before ++ after := (List.nodup_cons.mp (List.nodup_middle.mp hnodup)).1
  have hrest : debts owed (before ++ i :: after) (Function.update thread i t)
      = debts owed (before ++ after) thread := by
    rw [← debts_update_of_notMem hout (t := t)]
    simp [debts, ht]
  rw [hrest]
  simp [debts, hd]

end Debts

end Lib.Linearize
