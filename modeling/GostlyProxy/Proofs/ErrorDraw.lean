/-
What chaos draws: errors and latencies.

The loop over the error dictionary is the library's walk over the clamped
weights (`pickFrom_eq_reach`), so the entry of a draw is the one at
`drawnIndex`. Every draw below 1 finds an entry and never falls through to
the last one; an entry's draws are an interval as long as its share
(`drawError_weights`). The loop compares with `<=` and a draw may be 0: that
draw alone takes the first entry whatever its weight.

A jittered latency stays between the bounds of its configuration, in
whatever order these stand (`computeLatencyMs_mem_bounds`).
-/
import GostlyProxy.Lib.WeightedDraw
import GostlyProxy.Model.Chaos

namespace GostlyProxy

open Lib

-- ============================================================== the loop

theorem clamped_nonneg (codes : List ErrorCodeEntry) :
    ∀ w ∈ codes.map ErrorCodeEntry.clamped, 0 ≤ w := by
  intro w hw
  obtain ⟨e, -, rfl⟩ := List.mem_map.mp hw
  exact le_max_right e.weight 0

theorem clamped_pos {e : ErrorCodeEntry} : 0 < e.clamped ↔ 0 < e.weight := by
  simp [ErrorCodeEntry.clamped]

/-- The source's loop is the library's walk. -/
theorem pickFrom_eq_reach (r acc : ℚ) (codes : List ErrorCodeEntry) :
    pickFrom r acc codes
      = (reach r acc (codes.map ErrorCodeEntry.clamped)).bind fun i => codes[i]? := by
  induction codes generalizing acc with
  | nil => rfl
  | cons e codes ih =>
      rw [pickFrom, List.map_cons, reach]
      split
      · rfl
      · rw [ih, Option.bind_map]
        rfl

/-- The place of the entry that the draw `u` takes. -/
def drawnIndex (u : ℚ) (codes : List ErrorCodeEntry) : Option Nat :=
  drawIndex u (codes.map ErrorCodeEntry.clamped)

theorem pickFrom_of_drawnIndex {u : ℚ} {codes : List ErrorCodeEntry} {i : Nat}
    (h : drawnIndex u codes = some i) : pickFrom (u * totalWeight codes) 0 codes = codes[i]? := by
  have hreach : reach (u * totalWeight codes) 0 (codes.map ErrorCodeEntry.clamped) = some i := h
  rw [pickFrom_eq_reach, hreach]
  rfl

/-- With a weight in the dictionary the drawn error is the picked entry. -/
theorem drawError_of_pick {u : ℚ} {cc : ChaosConfig} {e : ErrorCodeEntry}
    (htotal : 0 < totalWeight cc.errorCodes)
    (h : pickFrom (u * totalWeight cc.errorCodes) 0 cc.errorCodes = some e) :
    drawError u cc = some e.drawn := by
  have hne : cc.errorCodes.isEmpty = false := by
    rw [Bool.eq_false_iff]
    intro hnil
    rw [List.isEmpty_iff.mp hnil] at htotal
    exact lt_irrefl _ htotal
  unfold drawError
  rw [hne, if_neg Bool.false_ne_true, if_pos htotal, h]

-- ============================================================ latencies

/-- A share of a span rounds to at most the span. -/
theorem round_share_le (n : Nat) {r : ℚ} (hr : r ≤ 1) : (round (n * r)).toNat ≤ n := by
  have hle : (n : ℚ) * r ≤ n := mul_le_of_le_one_right (Nat.cast_nonneg n) hr
  have hfloor : round ((n : ℚ) * r) < n + 1 := by
    rw [round_eq, Int.floor_lt]
    push_cast
    linarith
  omega

/-- Adding at most the span does not overflow. -/
theorem add_mem_bounds {lo hi : UInt64} (h : lo ≤ hi) {n : Nat} (hn : n ≤ (hi - lo).toNat) :
    lo ≤ lo + UInt64.ofNat n ∧ lo + UInt64.ofNat n ≤ hi := by
  have hspan := UInt64.toNat_sub_of_le hi lo h
  have hlo := UInt64.le_iff_toNat_le.mp h
  have hhi := hi.toNat_lt
  have hle : n ≤ hi.toNat := by omega
  have hn64 : (UInt64.ofNat n).toNat = n := UInt64.toNat_ofNat_of_lt' (lt_of_le_of_lt hle hhi)
  rw [UInt64.le_iff_toNat_le, UInt64.le_iff_toNat_le, UInt64.toNat_add, hn64]
  omega

/-- The latency lies between the jitter's bounds; a largest latency of 0
switches it off. -/
theorem computeLatencyMs_mem_bounds {cc : ChaosConfig} {j : LatencyJitter} {u v : ℚ}
    (hj : cc.latencyJitter = some j) (hmax : j.maxMs ≠ 0) (hu : u < 1) (hv : v < 1) :
    min j.minMs j.maxMs ≤ computeLatencyMs u v cc
      ∧ computeLatencyMs u v cc ≤ max j.maxMs j.minMs := by
  have hbounds : min j.minMs j.maxMs ≤ max j.maxMs j.minMs := by
    show (if j.minMs ≤ j.maxMs then j.minMs else j.maxMs)
      ≤ (if j.maxMs ≤ j.minMs then j.minMs else j.maxMs)
    simp only [UInt64.le_iff_toNat_le]
    split <;> split <;> omega
  have hdraw : (if j.distribution = ("normal" : Text) then (u + v) / 2 else u) ≤ 1 := by
    split <;> linarith
  unfold computeLatencyMs
  rw [hj]
  dsimp only
  rw [if_neg hmax]
  exact add_mem_bounds hbounds (round_share_le _ hdraw)

-- ================================================= the share of a weight

/-- Draws respect the weights, up to the draw 0: every draw takes an entry
of the dictionary in the loop, one with a weight unless the draw is 0 and
the first entry has none, and an entry's draws are an interval as long as
its share of the total. -/
theorem drawError_weights (cc : ChaosConfig) (htotal : 0 < totalWeight cc.errorCodes) :
    (∀ u : ℚ, 0 ≤ u → u < 1 → ∃ i e, drawnIndex u cc.errorCodes = some i
        ∧ cc.errorCodes[i]? = some e
        ∧ pickFrom (u * totalWeight cc.errorCodes) 0 cc.errorCodes = some e
        ∧ drawError u cc = some e.drawn
        ∧ (0 < e.weight
          ↔ 0 < u ∨ ∃ first, cc.errorCodes.head? = some first ∧ 0 < first.weight))
      ∧ ∀ (i : Nat) (e : ErrorCodeEntry), cc.errorCodes[i]? = some e →
        ∃ lo, IsIntervalBetween {u | 0 ≤ u ∧ u < 1 ∧ drawnIndex u cc.errorCodes = some i} lo
          (lo + max e.weight 0 / totalWeight cc.errorCodes) := by
  have hclamped := clamped_nonneg cc.errorCodes
  constructor
  · intro u _ hu
    obtain ⟨i, hdraw⟩ : ∃ i, drawnIndex u cc.errorCodes = some i := exists_drawIndex htotal hu
    obtain ⟨w, hw, -⟩ := (drawIndex_eq_some_iff hclamped htotal).mp hdraw
    rw [List.getElem?_map, Option.map_eq_some_iff] at hw
    obtain ⟨e, he, rfl⟩ := hw
    have hpick : pickFrom (u * totalWeight cc.errorCodes) 0 cc.errorCodes = some e := by
      rw [pickFrom_of_drawnIndex hdraw, he]
    have hpos := drawIndex_pos_iff hclamped htotal hdraw
      (by rw [List.getElem?_map, he, Option.map_some])
    refine ⟨i, e, hdraw, he, hpick, drawError_of_pick htotal hpick, ?_⟩
    rw [← clamped_pos, hpos, List.head?_map]
    simp [clamped_pos]
  · intro i e he
    have hi : (cc.errorCodes.map ErrorCodeEntry.clamped)[i]? = some e.clamped := by
      rw [List.getElem?_map, he, Option.map_some]
    exact ⟨_, drawIndex_interval hclamped htotal hi⟩

/-- A dictionary whose first entry is switched off. -/
def firstSwitchedOff : ChaosConfig where
  enabled := true
  latencyMs := 0
  errorRate := 1
  errorStatus := 0
  errorBody := []
  latencyJitter := none
  errorCodes := [⟨503, 0, none, none⟩, ⟨500, 1, none, none⟩]
  endpointRules := []
  modes := []
  chaosModel := .uniform
  markov := none

theorem totalWeight_firstSwitchedOff : 0 < totalWeight firstSwitchedOff.errorCodes := by
  simp [firstSwitchedOff, totalWeight, ErrorCodeEntry.clamped]

/-- Every draw above 0 is the second entry's. -/
theorem drawError_weights_firstSwitchedOff :
    (∀ u : ℚ, 0 ≤ u → u < 1 → ∃ i e, drawnIndex u firstSwitchedOff.errorCodes = some i
        ∧ firstSwitchedOff.errorCodes[i]? = some e
        ∧ pickFrom (u * totalWeight firstSwitchedOff.errorCodes) 0 firstSwitchedOff.errorCodes
          = some e
        ∧ drawError u firstSwitchedOff = some e.drawn
        ∧ (0 < e.weight
          ↔ 0 < u ∨ ∃ first, firstSwitchedOff.errorCodes.head? = some first ∧ 0 < first.weight))
      ∧ ∀ (i : Nat) (e : ErrorCodeEntry), firstSwitchedOff.errorCodes[i]? = some e →
        ∃ lo, IsIntervalBetween
          {u | 0 ≤ u ∧ u < 1 ∧ drawnIndex u firstSwitchedOff.errorCodes = some i} lo
          (lo + max e.weight 0 / totalWeight firstSwitchedOff.errorCodes) :=
  drawError_weights firstSwitchedOff totalWeight_firstSwitchedOff

/-- The draw 0 takes the entry that is switched off. -/
theorem drawError_zero :
    ¬ ∀ (cc : ChaosConfig) (u : ℚ), 0 < totalWeight cc.errorCodes → 0 ≤ u → u < 1 →
      ∃ e ∈ cc.errorCodes, drawError u cc = some e.drawn ∧ 0 < e.weight := by
  intro h
  obtain ⟨e, hmem, hdrawn, hpos⟩ :=
    h firstSwitchedOff 0 totalWeight_firstSwitchedOff (le_refl 0) one_pos
  have hcode : drawError 0 firstSwitchedOff = some { status := 503, body := [], headers := ∅ } := by
    refine drawError_of_pick (e := ⟨503, 0, none, none⟩) totalWeight_firstSwitchedOff ?_
    simp [firstSwitchedOff, pickFrom, ErrorCodeEntry.clamped]
  rw [hcode] at hdrawn
  rcases List.mem_cons.mp hmem with rfl | hmem
  · exact lt_irrefl _ hpos
  · rw [List.mem_singleton.mp hmem] at hdrawn
    cases hdrawn

end GostlyProxy
