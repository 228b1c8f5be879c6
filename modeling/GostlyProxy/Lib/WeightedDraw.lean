/-
Drawing from a list of weights.

`reach` adds up weights from the left and stops at the first place whose
sum is not below the number it is given; `drawIndex` gives it a fraction of
the total. With no weight negative the sums only grow, so the place is known
from the two sums around it (`reach_eq_some_iff`). The fractions that draw
one place are an interval whose length is that place's share
(`drawIndex_interval`), and below the whole total some place is drawn
(`exists_drawIndex`). The comparison is not strict: the fraction 0 draws the
first place whatever its weight (`drawIndex_pos_iff`).
-/
import Mathlib.Algebra.Order.BigOperators.Group.List
import Mathlib.Algebra.Order.Field.Basic
import Mathlib.Order.Interval.Set.OrdConnected
import Mathlib.Tactic.Linarith

namespace Lib

/-- An interval between two ends, with or without either of them. -/
structure IsIntervalBetween {K : Type*} [Preorder K] (S : Set K) (lo hi : K) : Prop where
  le : lo ≤ hi
  connected : S.OrdConnected
  inner : Set.Ioo lo hi ⊆ S
  outer : S ⊆ Set.Icc lo hi

section WeightedDraw

variable {K : Type*} [Field K] [LinearOrder K]

/-- The first place where the sum of the weights, counted from `acc`, is
not below `r`. -/
def reach (r : K) : K → List K → Option Nat
  | _, [] => none
  | acc, w :: ws => if r ≤ acc + w then some 0 else (reach r (acc + w) ws).map (· + 1)

/-- The sum of the weights in front of a place. -/
def lower (ws : List K) (i : Nat) : K := (ws.take i).sum

/-- The place that the fraction `u` of the total draws. -/
def drawIndex (u : K) (ws : List K) : Option Nat := reach (u * ws.sum) 0 ws

omit [LinearOrder K] in
@[simp] theorem lower_zero (ws : List K) : lower ws 0 = 0 := rfl

omit [LinearOrder K] in
@[simp] theorem lower_cons_succ (w : K) (ws : List K) (i : Nat) :
    lower (w :: ws) (i + 1) = w + lower ws i := by
  simp [lower]

variable [IsStrictOrderedRing K]

theorem lower_nonneg {ws : List K} (hws : ∀ w ∈ ws, 0 ≤ w) (i : Nat) : 0 ≤ lower ws i :=
  List.sum_nonneg fun w hw => hws w (List.mem_of_mem_take hw)

/-- A place and what is in front of it are part of the total. -/
theorem lower_add_le_sum {ws : List K} (hws : ∀ w ∈ ws, 0 ≤ w) {i : Nat} {w : K}
    (hi : ws[i]? = some w) : lower ws i + w ≤ ws.sum := by
  induction ws generalizing i with
  | nil => cases hi
  | cons v ws ih =>
      have hrest : ∀ x ∈ ws, 0 ≤ x := fun x hx => hws x (List.mem_cons_of_mem _ hx)
      cases i with
      | zero =>
          have hsum : 0 ≤ ws.sum := List.sum_nonneg hrest
          rw [List.getElem?_cons_zero, Option.some.injEq] at hi
          rw [lower_zero, List.sum_cons, hi]
          linarith
      | succ i =>
          rw [List.getElem?_cons_succ] at hi
          have hle := ih hrest hi
          rw [lower_cons_succ, List.sum_cons]
          linarith

/-- The place reached is the one whose weight takes the sum from below `r`
to `r` or above; the first place needs nothing in front of it. -/
theorem reach_eq_some_iff {ws : List K} (hws : ∀ w ∈ ws, 0 ≤ w) {r acc : K} {i : Nat} :
    reach r acc ws = some i
      ↔ ∃ w, ws[i]? = some w ∧ r ≤ acc + lower ws i + w ∧ (i = 0 ∨ acc + lower ws i < r) := by
  induction ws generalizing acc i with
  | nil => simp [reach]
  | cons v ws ih =>
      have hrest : ∀ x ∈ ws, 0 ≤ x := fun x hx => hws x (List.mem_cons_of_mem _ hx)
      rw [reach]
      by_cases hstop : r ≤ acc + v
      · rw [if_pos hstop]
        cases i with
        | zero => simp [hstop]
        | succ i =>
            have hpos := lower_nonneg hrest i
            have hpast : ¬ acc + (v + lower ws i) < r := by
              intro h
              linarith
            simp [hpast]
      · rw [if_neg hstop]
        cases i with
        | zero => simp [hstop]
        | succ i =>
            rw [Option.map_eq_some_iff]
            simp only [Nat.add_left_inj, exists_eq_right, ih hrest, List.getElem?_cons_succ,
              lower_cons_succ, ← add_assoc, Nat.add_one_ne_zero, false_or]
            constructor
            · rintro ⟨w, hw, hle, hlt⟩
              refine ⟨w, hw, hle, ?_⟩
              rcases hlt with rfl | hlt
              · rw [lower_zero, add_zero]
                exact not_le.mp hstop
              · exact hlt
            · rintro ⟨w, hw, hle, hlt⟩
              exact ⟨w, hw, hle, Or.inr hlt⟩

omit [IsStrictOrderedRing K] in
/-- A sum that is large enough is reached. -/
theorem exists_reach {ws : List K} (hne : ws ≠ []) {r acc : K} (h : r ≤ acc + ws.sum) :
    ∃ i, reach r acc ws = some i := by
  induction ws generalizing acc with
  | nil => exact absurd rfl hne
  | cons w ws ih =>
      rw [reach]
      by_cases hstop : r ≤ acc + w
      · exact ⟨0, if_pos hstop⟩
      · rw [if_neg hstop]
        rw [List.sum_cons, ← add_assoc] at h
        have hne' : ws ≠ [] := by
          rintro rfl
          rw [List.sum_nil, add_zero] at h
          exact hstop h
        obtain ⟨i, hi⟩ := ih hne' h
        exact ⟨i + 1, by rw [hi]; rfl⟩

-- ============================================================= the draws

section Total

variable {ws : List K} (hws : ∀ w ∈ ws, 0 ≤ w) (htotal : 0 < ws.sum)

include htotal in
/-- A fraction of the total draws some place. -/
theorem exists_drawIndex {u : K} (hu : u < 1) : ∃ i, drawIndex u ws = some i := by
  have hne : ws ≠ [] := by
    rintro rfl
    exact lt_irrefl _ htotal
  refine exists_reach hne ?_
  rw [zero_add]
  nlinarith

include hws htotal in
theorem drawIndex_eq_some_iff {u : K} {i : Nat} :
    drawIndex u ws = some i
      ↔ ∃ w, ws[i]? = some w ∧ u ≤ (lower ws i + w) / ws.sum
        ∧ (i = 0 ∨ lower ws i / ws.sum < u) := by
  rw [drawIndex, reach_eq_some_iff hws]
  simp only [zero_add, le_div_iff₀ htotal, div_lt_iff₀ htotal]

include hws htotal in
/-- The fractions that draw a place are an interval as long as the place's
share of the total. -/
theorem drawIndex_interval {i : Nat} {w : K} (hi : ws[i]? = some w) :
    IsIntervalBetween {u | 0 ≤ u ∧ u < 1 ∧ drawIndex u ws = some i} (lower ws i / ws.sum)
      (lower ws i / ws.sum + w / ws.sum) := by
  have hw : 0 ≤ w := hws w (List.mem_of_getElem? hi)
  have hlower : 0 ≤ lower ws i / ws.sum := div_nonneg (lower_nonneg hws i) htotal.le
  have hupper : lower ws i / ws.sum + w / ws.sum ≤ 1 := by
    rw [← add_div, div_le_one htotal]
    exact lower_add_le_sum hws hi
  have hset : ∀ u, (0 ≤ u ∧ u < 1 ∧ drawIndex u ws = some i)
      ↔ 0 ≤ u ∧ u < 1 ∧ u ≤ lower ws i / ws.sum + w / ws.sum
        ∧ (i = 0 ∨ lower ws i / ws.sum < u) := by
    intro u
    rw [drawIndex_eq_some_iff hws htotal, ← add_div]
    simp only [hi, Option.some.injEq, exists_eq_left']
  refine ⟨le_add_of_nonneg_right (div_nonneg hw htotal.le), ⟨?_⟩, ?_, ?_⟩
  · intro a ha b hb u hu
    obtain ⟨ha₀, -, -, halow⟩ := (hset a).mp ha
    obtain ⟨-, hb₁, hbup, -⟩ := (hset b).mp hb
    exact (hset u).mpr ⟨ha₀.trans hu.1, hu.2.trans_lt hb₁, hu.2.trans hbup,
      halow.imp_right fun h => h.trans_le hu.1⟩
  · intro u hu
    exact (hset u).mpr ⟨hlower.trans hu.1.le, hu.2.trans_le hupper, hu.2.le, Or.inr hu.1⟩
  · intro u hu
    obtain ⟨hu₀, -, huup, hulow⟩ := (hset u).mp hu
    refine ⟨?_, huup⟩
    rcases hulow with rfl | hlt
    · rw [lower_zero, zero_div]
      exact hu₀
    · exact hlt.le

include hws htotal in
/-- The drawn place has a weight, except where the fraction 0 draws a first
place without one. -/
theorem drawIndex_pos_iff {u w : K} {i : Nat} (hdraw : drawIndex u ws = some i)
    (hi : ws[i]? = some w) : 0 < w ↔ 0 < u ∨ ∃ v, ws.head? = some v ∧ 0 < v := by
  obtain ⟨w', hw', hup, hlow⟩ := (drawIndex_eq_some_iff hws htotal).mp hdraw
  obtain rfl : w' = w := Option.some.inj (hw'.symm.trans hi)
  rcases hlow with rfl | hlow
  · -- the first place: nothing is in front of it
    rw [lower_zero, zero_add, le_div_iff₀ htotal] at hup
    have hhead : ws.head? = some w' := by rw [List.head?_eq_getElem?, hi]
    constructor
    · intro hw
      exact Or.inr ⟨w', hhead, hw⟩
    · rintro (hpos | ⟨v, hv, hvpos⟩)
      · exact (mul_pos hpos htotal).trans_le hup
      · obtain rfl : w' = v := Option.some.inj (hhead.symm.trans hv)
        exact hvpos
  · have hstart : 0 ≤ lower ws i / ws.sum := div_nonneg (lower_nonneg hws i) htotal.le
    have hgrows := (div_lt_div_iff_of_pos_right htotal).mp (hlow.trans_le hup)
    exact iff_of_true (by linarith) (Or.inl (hstart.trans_lt hlow))

end Total

end WeightedDraw

end Lib
