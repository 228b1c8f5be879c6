/-
A shared cell with writers that load, change their copy and store it back,
with no comparison at the store.

# Lost and kept contributions

Each writer `i` has one change of the cell's value. Some writers are
counted: their contribution has to stay. The ghost `version` is the number
of stores by counted writers, and a loaded snapshot remembers the version
it was taken at. A store is `Fresh` when the snapshot's version is the
current one, that is, when no counted writer has stored in between.

`held_of_fresh`: when a change keeps the other counted contributions and a
counted writer's own change makes its own, every run of fresh stores keeps
every stored contribution. Nothing is assumed of the writers that are not
counted beyond that; what they store may be lost.
-/
import GostlyProxy.Lib.Machine
import Mathlib.Logic.Function.Basic

namespace Lib.Cell

variable {ι σ : Type}

/-- Where a writer stands. -/
inductive Phase (σ : Type) where
  | idle
  | loaded (snapshot : σ) (version : Nat)
  | stored

structure State (ι σ : Type) where
  cell : σ
  version : Nat
  phase : ι → Phase σ

inductive Action (ι : Type) where
  | load (i : ι)
  | store (i : ι)

/-- All writers idle. -/
def start (s : σ) : State ι σ where
  cell := s
  version := 0
  phase := fun _ => .idle

variable [DecidableEq ι]

/-- One step of one writer. -/
def step (change : ι → σ → σ) (counted : ι → Bool) (s : State ι σ) :
    Action ι → Option (State ι σ)
  | .load i =>
      match s.phase i with
      | .idle =>
          some { s with phase := Function.update s.phase i (.loaded s.cell s.version) }
      | _ => none
  | .store i =>
      match s.phase i with
      | .loaded snapshot _ =>
          some { cell := change i snapshot
                 version := if counted i then s.version + 1 else s.version
                 phase := Function.update s.phase i .stored }
      | _ => none

/-- A store of a snapshot that no counted store has overtaken. -/
def Fresh (s : State ι σ) : Action ι → Prop
  | .load _ => True
  | .store i => ∀ snapshot version, s.phase i = .loaded snapshot version →
      version = s.version

variable {change : ι → σ → σ} {counted : ι → Bool} {Has : ι → σ → Prop}

-- ==================================================== what a step can do

/-- What a load does: one more snapshot, of the cell as it is. -/
structure Loads (s s' : State ι σ) (i : ι) : Prop where
  cell : s'.cell = s.cell
  version : s'.version = s.version
  loaded : ∀ k snapshot version, s'.phase k = .loaded snapshot version →
    (snapshot = s.cell ∧ version = s.version) ∨ s.phase k = .loaded snapshot version
  stored : ∀ k, s'.phase k = .stored → s.phase k = .stored

/-- What a store does: the writer's snapshot, changed, is the cell. -/
structure Stores (change : ι → σ → σ) (counted : ι → Bool) (s s' : State ι σ) (i : ι)
    (snapshot : σ) (version : Nat) : Prop where
  was : s.phase i = .loaded snapshot version
  cell : s'.cell = change i snapshot
  version : s'.version = if counted i then s.version + 1 else s.version
  loaded : ∀ k snap v, s'.phase k = .loaded snap v → s.phase k = .loaded snap v
  stored : ∀ k, s'.phase k = .stored → k = i ∨ s.phase k = .stored

/-- A phase after one writer's turned into another. -/
theorem phase_of_update {phase : ι → Phase σ} {i k : ι} {p q : Phase σ}
    (h : Function.update phase i p k = q) : (k = i ∧ p = q) ∨ phase k = q := by
  by_cases hki : k = i
  · subst hki
    rw [Function.update_self] at h
    exact Or.inl ⟨rfl, h⟩
  · rw [Function.update_of_ne hki] at h
    exact Or.inr h

theorem loads_of_step {s s' : State ι σ} {i : ι}
    (h : step change counted s (.load i) = some s') : Loads s s' i := by
  rw [step] at h
  split at h
  case h_2 => cases h
  case h_1 hidle =>
    rw [Option.some.injEq] at h
    subst h
    refine ⟨rfl, rfl, ?_, ?_⟩
    · intro k snapshot version hk
      rcases phase_of_update hk with ⟨-, hp⟩ | hk
      · cases hp
        exact Or.inl ⟨rfl, rfl⟩
      · exact Or.inr hk
    · intro k hk
      rcases phase_of_update hk with ⟨-, hp⟩ | hk
      · cases hp
      · exact hk

theorem stores_of_step {s s' : State ι σ} {i : ι}
    (h : step change counted s (.store i) = some s') :
    ∃ snapshot version, Stores change counted s s' i snapshot version := by
  rw [step] at h
  split at h
  case h_2 => cases h
  case h_1 snapshot version hloaded =>
    rw [Option.some.injEq] at h
    subst h
    refine ⟨snapshot, version, hloaded, rfl, rfl, ?_, ?_⟩
    · intro k snap v hk
      rcases phase_of_update hk with ⟨-, hp⟩ | hk
      · cases hp
      · exact hk
    · intro k hk
      exact (phase_of_update hk).imp_left And.left

-- ===================================================== kept contributions

/-- The cell holds what the counted writers stored, and so does every
snapshot of the current version. -/
structure Held (counted : ι → Bool) (Has : ι → σ → Prop) (s : State ι σ) : Prop where
  cell : ∀ j, counted j = true → s.phase j = .stored → Has j s.cell
  past : ∀ i snapshot version, s.phase i = .loaded snapshot version →
    version ≤ s.version
  snapshot : ∀ i snapshot, s.phase i = .loaded snapshot s.version →
    ∀ j, counted j = true → s.phase j = .stored → Has j snapshot

omit [DecidableEq ι] in
theorem held_start (s : σ) : Held counted Has (start s : State ι σ) where
  cell := by intro j _ h; cases h
  past := by intro i snapshot version h; cases h
  snapshot := by intro i snapshot h; cases h

omit [DecidableEq ι] in
theorem held_load {s s' : State ι σ} {i : ι} (h : Held counted Has s)
    (hl : Loads s s' i) : Held counted Has s' where
  cell := by
    intro j hc hj
    rw [hl.cell]
    exact h.cell j hc (hl.stored j hj)
  past := by
    intro k snapshot version hk
    rw [hl.version]
    rcases hl.loaded k snapshot version hk with ⟨-, rfl⟩ | hk
    · exact Nat.le_refl _
    · exact h.past k snapshot version hk
  snapshot := by
    intro k snapshot hk j hc hj
    rw [hl.version] at hk
    rcases hl.loaded k snapshot _ hk with ⟨rfl, -⟩ | hk
    · exact h.cell j hc (hl.stored j hj)
    · exact h.snapshot k snapshot hk j hc (hl.stored j hj)

omit [DecidableEq ι] in
theorem held_store {s s' : State ι σ} {i : ι} {snapshot : σ}
    (hown : ∀ i x, counted i = true → Has i (change i x))
    (hkeep : ∀ i j x, i ≠ j → counted j = true → Has j x → Has j (change i x))
    (h : Held counted Has s)
    (hs : Stores change counted s s' i snapshot s.version) : Held counted Has s' where
  cell := by
    intro j hc hj
    rw [hs.cell]
    rcases hs.stored j hj with rfl | hj'
    · exact hown j snapshot hc
    · by_cases hji : j = i
      · subst hji
        exact hown j snapshot hc
      · exact hkeep i j snapshot (Ne.symm hji) hc (h.snapshot i snapshot hs.was j hc hj')
  past := by
    intro k snap v hk
    have := h.past k snap v (hs.loaded k snap v hk)
    rw [hs.version]
    split <;> omega
  snapshot := by
    intro k snap hk j hc hj
    have hk' := hs.loaded k snap _ hk
    cases hci : counted i with
    | true =>
        -- The version has moved on: no snapshot of it exists yet.
        have hle := h.past k snap _ hk'
        rw [hs.version, hci, if_pos rfl] at hle
        omega
    | false =>
        rw [hs.version, hci] at hk'
        rcases hs.stored j hj with rfl | hj'
        · rw [hci] at hc
          cases hc
        · exact h.snapshot k snap hk' j hc hj'

/-- In every run of fresh stores the cell holds what was stored. -/
theorem held_of_fresh {s₀ : σ} {s : State ι σ} {as : List (Action ι)}
    (hown : ∀ i x, counted i = true → Has i (change i x))
    (hkeep : ∀ i j x, i ≠ j → counted j = true → Has j x → Has j (change i x))
    (hfresh : Machine.Along (step change counted) Fresh (start s₀) as)
    (hrun : Machine.exec (step change counted) (start s₀) as = some s) :
    Held counted Has s := by
  refine Machine.exec_along (I := Held counted Has) ?_ (held_start s₀) hfresh hrun
  intro s a s' h hf hstep
  cases a with
  | load i => exact held_load h (loads_of_step hstep)
  | store i =>
      obtain ⟨snapshot, version, hs⟩ := stores_of_step hstep
      have hversion := hf snapshot version hs.was
      subst hversion
      exact held_store hown hkeep h hs

/-- An invariant of the values that every change keeps holds of the cell. -/
theorem cell_invariant {P : σ → Prop} (hchange : ∀ i x, P x → P (change i x))
    {s₀ : σ} (h₀ : P s₀) {s : State ι σ} {as : List (Action ι)}
    (hrun : Machine.exec (step change counted) (start s₀) as = some s) : P s.cell := by
  let I : State ι σ → Prop := fun s =>
    P s.cell ∧ ∀ i snapshot version, s.phase i = .loaded snapshot version → P snapshot
  have hstart : I (start s₀) := ⟨h₀, fun i snapshot version h => by cases h⟩
  suffices h : I s from h.1
  refine Machine.exec_invariant (I := I) ?_ hstart hrun
  rintro s a s' ⟨hcell, hsnap⟩ hstep
  cases a with
  | load i =>
      have hl := loads_of_step hstep
      refine ⟨by rw [hl.cell]; exact hcell, fun k snapshot version hk => ?_⟩
      rcases hl.loaded k snapshot version hk with ⟨rfl, -⟩ | hk
      · exact hcell
      · exact hsnap k snapshot version hk
  | store i =>
      obtain ⟨snapshot, version, hs⟩ := stores_of_step hstep
      refine ⟨?_, fun k snap v hk => hsnap k snap v (hs.loaded k snap v hk)⟩
      rw [hs.cell]
      exact hchange i snapshot (hsnap i snapshot version hs.was)

end Lib.Cell
