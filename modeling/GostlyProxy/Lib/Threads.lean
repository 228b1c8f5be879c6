/-
Threads over a shared state, interleaved step by step.

A thread has a state of its own. A step of it is a partial function of the
shared state, its own state and an event: which step is taken, with what it
reads from outside. The threads wait for nobody, so a run is any list of
steps that are enabled one after the other (`Lib/Machine.lean`), and every
interleaving is such a list.

`exec_history` is the induction over a run: a step changes the shared state
and the one thread that takes it. `lastOf` is who took the last step of a
kind in a schedule. Turns are numbers that threads take one after another.
`total` adds up a weight of the threads' states, for what the threads still
owe the shared state.
-/
import GostlyProxy.Lib.Machine
import Mathlib.Algebra.BigOperators.Group.Finset.Basic
import Mathlib.Data.Fintype.Basic

namespace Lib.Threads

variable {ι σ τ ε : Type}

structure World (ι σ τ : Type) where
  shared : σ
  thread : ι → τ

/-- All threads in one state. -/
def World.start (s : σ) (t : τ) : World ι σ τ where
  shared := s
  thread := fun _ => t

variable [DecidableEq ι] (act : ι → σ → τ → ε → Option (σ × τ))

/-- A step of one thread. -/
def step (w : World ι σ τ) (a : ι × ε) : Option (World ι σ τ) :=
  (act a.1 w.shared (w.thread a.1) a.2).map fun r =>
    { shared := r.1, thread := Function.update w.thread a.1 r.2 }

variable {act}

theorem exec_history {I : World ι σ τ → List (ι × ε) → Prop}
    (hstep : ∀ w past i e s t, I w past → act i w.shared (w.thread i) e = some (s, t) →
      I { shared := s, thread := Function.update w.thread i t } (past ++ [(i, e)]))
    {w w' : World ι σ τ} {schedule : List (ι × ε)} (hstart : I w [])
    (hrun : Machine.exec (step act) w schedule = some w') : I w' schedule := by
  refine Machine.exec_history ?_ hstart hrun
  rintro v past ⟨i, e⟩ v' hI hv
  obtain ⟨⟨s, t⟩, hact, rfl⟩ := Option.map_eq_some_iff.mp hv
  exact hstep v past i e s t hI hact

/-- The only thread takes a step. -/
theorem step_alone {act : Unit → σ → τ → ε → Option (σ × τ)} {s s' : σ} {t t' : τ} {e : ε}
    (h : act () s t e = some (s', t')) :
    step act (World.start s t) ((), e) = some (.start s' t') := by
  show (act () s t e).map _ = _
  rw [h, Option.map_some, Option.some.injEq, World.start, World.mk.injEq]
  exact ⟨rfl, funext fun _ => Function.update_self ..⟩

theorem exec_alone_cons {act : Unit → σ → τ → ε → Option (σ × τ)} {s s' : σ} {t t' : τ} {e : ε}
    {moves : List (Unit × ε)} {w : World Unit σ τ} (h : act () s t e = some (s', t'))
    (hrest : Machine.exec (step act) (.start s' t') moves = some w) :
    Machine.exec (step act) (.start s t) (((), e) :: moves) = some w :=
  Machine.exec_cons.mpr ⟨_, step_alone h, hrest⟩

/-- When the threads that stand at `P` have taken a step of a kind, they still
have after one more step, unless that step leads there without it. -/
theorem took_update (P : τ → Prop) {thread : ι → τ} {past : List (ι × ε)} {e e' : ε} {i : ι}
    {t : τ} (hpast : ∀ j, P (thread j) → (j, e) ∈ past)
    (hself : P t → (i, e) ∈ past ++ [(i, e')]) :
    ∀ j, P (Function.update thread i t j) → (j, e) ∈ past ++ [(i, e')] :=
  (Function.forall_update_iff thread fun j u => P u → (j, e) ∈ past ++ [(i, e')]).mpr
    ⟨hself, fun j _ hj => List.mem_append_left _ (hpast j hj)⟩

-- ================================================== the last of a kind

/-- The thread that took the last step of a kind. -/
def lastOf (kind : ι × ε → Bool) (schedule : List (ι × ε)) : Option ι :=
  (schedule.filter kind).getLast?.map (·.1)

variable {kind : ι × ε → Bool} {schedule : List (ι × ε)}

omit [DecidableEq ι] in
@[simp] theorem lastOf_concat (a : ι × ε) :
    lastOf kind (schedule ++ [a]) = if kind a then some a.1 else lastOf kind schedule := by
  rw [lastOf, List.filter_append]
  cases h : kind a with
  | true => simp [h]
  | false => simp [h, lastOf]

omit [DecidableEq ι] in
theorem mem_of_lastOf {i : ι} (h : lastOf kind schedule = some i) :
    ∃ e, (i, e) ∈ schedule ∧ kind (i, e) = true := by
  obtain ⟨⟨j, e⟩, hlast, rfl⟩ := Option.map_eq_some_iff.mp h
  exact ⟨e, List.mem_filter.mp (List.mem_of_getLast? hlast)⟩

omit [DecidableEq ι] in
theorem exists_lastOf {a : ι × ε} (hmem : a ∈ schedule) (hkind : kind a = true) :
    ∃ i, lastOf kind schedule = some i := by
  have hne : schedule.filter kind ≠ [] :=
    List.ne_nil_of_mem (List.mem_filter.mpr ⟨hmem, hkind⟩)
  exact ⟨_, by rw [lastOf, List.getLast?_eq_getLast_of_ne_nil hne, Option.map_some]⟩

-- ================================================================= turns

section Turns

variable {turn : ι → Option Nat} {k : Nat}

/-- A thread takes turn `k`, and turns up to `k` were taken. -/
theorem turn_lt_take (hlt : ∀ j l, turn j = some l → l < k) (i : ι) :
    ∀ j l, Function.update turn i (some k) j = some l → l < k + 1 := by
  refine (Function.forall_update_iff turn fun _ taken => ∀ l, taken = some l → l < k + 1).mpr
    ⟨?_, ?_⟩
  · intro l hl
    cases hl
    exact Nat.lt_succ_self _
  · intro j _ l hl
    exact Nat.lt_succ_of_lt (hlt j l hl)

/-- The turn is nobody else's. -/
theorem turn_inj_take (hlt : ∀ j l, turn j = some l → l < k)
    (hinj : ∀ j j' l, turn j = some l → turn j' = some l → j = j') (i : ι) :
    ∀ j j' l, Function.update turn i (some k) j = some l →
      Function.update turn i (some k) j' = some l → j = j' := by
  intro j j' l hj hj'
  by_cases hji : j = i
  · by_cases hji' : j' = i
    · rw [hji, hji']
    · subst hji
      rw [Function.update_self, Option.some.injEq] at hj
      rw [Function.update_of_ne hji'] at hj'
      exact absurd (hlt j' l hj') (by omega)
  · rw [Function.update_of_ne hji] at hj
    by_cases hji' : j' = i
    · subst hji'
      rw [Function.update_self, Option.some.injEq] at hj'
      exact absurd (hlt j l hj) (by omega)
    · rw [Function.update_of_ne hji'] at hj'
      exact hinj j j' l hj hj'

end Turns

-- ================================================================ totals

section Total

variable [Fintype ι]

/-- A weight of the threads' states, over all threads. -/
def total (weight : τ → Nat) (thread : ι → τ) : Nat := ∑ i, weight (thread i)

/-- A step changes the total by what it changes for its own thread. -/
theorem total_update (weight : τ → Nat) (thread : ι → τ) (i : ι) (t : τ) :
    total weight (Function.update thread i t) + weight (thread i) =
      total weight thread + weight t := by
  have hrest : ∀ j ∈ Finset.univ.erase i,
      weight (Function.update thread i t j) = weight (thread j) := fun j hj => by
    rw [Function.update_of_ne (Finset.ne_of_mem_erase hj)]
  rw [total, total, ← Finset.add_sum_erase _ _ (Finset.mem_univ i),
    ← Finset.add_sum_erase _ (fun j => weight (thread j)) (Finset.mem_univ i),
    Finset.sum_congr rfl hrest, Function.update_self]
  omega

omit [DecidableEq ι] in
theorem total_eq_zero {weight : τ → Nat} {thread : ι → τ} (h : ∀ i, weight (thread i) = 0) :
    total weight thread = 0 := Finset.sum_eq_zero fun i _ => h i

end Total

end Lib.Threads
