/-
Isolation by taint.

A system holds cells that several parties share. Fix one party; its actions
are the visible ones. A cell is tainted when another party has written it
and the party has not replaced it since. `taintStep` runs the system and
keeps that set, `Clean` says that the party reads no tainted cell in the
whole run.

What a step reads, writes and replaces is a `Footprint`. `Respects` is
what has to be shown of it, one step at a time: a party's step that reads
clean cells answers alike in two states that agree off the taint, and
another party's step keeps the agreement off what it wrote. The result is
`outputs_purge_of_clean`: in a clean run the party's answers are those of
the run without the others.
-/
import GostlyProxy.Lib.Machine
import Mathlib.Data.Set.Basic

namespace Lib.Taint

open Machine

/-- The cells an action touches in a state. A cell is replaced when what
it holds afterwards does not depend on what it held. -/
structure Footprint (σ α κ : Type*) where
  reads : σ → α → Set κ
  writes : σ → α → Set κ
  replaces : σ → α → Set κ

variable {σ α κ ω : Type*} (step : σ → α → σ × ω) (fp : Footprint σ α κ) (vis : α → Bool)

/-- One step, with the cells that are tainted for the party. -/
def taintStep (s : σ × Set κ) (a : α) : (σ × Set κ) × ω :=
  (((step s.1 a).1,
      if vis a then s.2 \ fp.replaces s.1 a else s.2 ∪ fp.writes s.1 a),
    (step s.1 a).2)

/-- The party reads no tainted cell. -/
def ReadsClean (s : σ × Set κ) (a : α) : Prop :=
  vis a = true → ∀ c ∈ fp.reads s.1 a, c ∉ s.2

/-- In a whole run the party reads no tainted cell. -/
def Clean (s : σ) (as : List α) : Prop :=
  AlongO (taintStep step fp vis) (ReadsClean fp vis) (s, ∅) as

/-- The footprint is right about the steps, for states that agree off a set
of tainted cells. -/
structure Respects (Agree : Set κ → σ → σ → Prop) : Prop where
  own : ∀ {T s t a}, Agree T s t → vis a = true → (∀ c ∈ fp.reads s a, c ∉ T) →
    (step s a).2 = (step t a).2 ∧ Agree (T \ fp.replaces s a) (step s a).1 (step t a).1
  other : ∀ {T s t a}, Agree T s t → vis a = false →
    Agree (T ∪ fp.writes s a) (step s a).1 t

variable {step fp vis}

/-- In a clean run the party's answers are those of its actions alone. -/
theorem outputs_purge_of_clean {Agree : Set κ → σ → σ → Prop}
    (h : Respects step fp vis Agree) {s t : σ} {as : List α} (hst : Agree ∅ s t)
    (hclean : Clean step fp vis s as) :
    outputs step vis s as = outputs step vis t (as.filter vis) := by
  have hforget : outputs (taintStep step fp vis) vis (s, ∅) as = outputs step vis s as :=
    outputs_forget Prod.fst (fun _ _ => rfl) (s, ∅) as
  rw [← hforget]
  refine outputs_purge (R := fun x y => Agree x.2 x.1 y) ?_ ?_ hst hclean
  · intro x y a hxy hreads hv
    obtain ⟨hout, hagree⟩ := h.own hxy hv (hreads hv)
    refine ⟨hout, ?_⟩
    unfold taintStep
    rw [hv]
    exact hagree
  · intro x y a hxy _ hv
    unfold taintStep
    rw [hv]
    exact h.other hxy hv

end Lib.Taint
