/-
Where a Markov call runs off the calendar.

The mean dwells are any `u64`, the calendar ends in the year 262142. A
dwell is rounded towards zero, so it fits exactly when the product of mean
and factor is less than one millisecond past the room that is left
(`plusMillis_dwellMs_iff`); the saturation of the cast comes far behind the
end of the calendar and saves nothing. A call before its deadline adds
nothing up (`stepWithRng_answers_iff`).

Means of up to 2^48 milliseconds, some nine thousand years, are safe with
every draw (`stepWithRng_answers_of_mean`).
-/
import GostlyProxy.Proofs.MarkovRuns

namespace GostlyProxy

open Lib

-- ============================================================== the cast

/-- The cast is at most a number within its range when what is cast is
below the next one. -/
theorem asI64_le_iff {x : ℚ} {n : Nat} (hn : (n : Int) < 2 ^ 63 - 1) :
    asI64 x ≤ n ↔ x < n + 1 := by
  have hlow : (-2 ^ 63 : Int) ≤ n := by omega
  unfold asI64
  rw [max_le_iff, and_iff_right hlow, min_le_iff, or_iff_right (not_le.mpr hn)]
  split
  · rw [← Int.lt_add_one_iff, Int.floor_lt]
    push_cast
    exact Iff.rfl
  · rename_i hneg
    have hzero : x < 0 := not_le.mp hneg
    have hnat : (0 : ℚ) ≤ n := Nat.cast_nonneg n
    have hceil : ⌈x⌉ ≤ 0 := Int.ceil_le.mpr (by exact_mod_cast hzero.le)
    exact iff_of_true (hceil.trans (Int.natCast_nonneg n)) (by linarith)

-- =========================================================== the addition

/-- The last reading of the year 2262. -/
def endOf2262 : Nat := 9246182399999999999

/-- The whole milliseconds from a reading to the end of the calendar. -/
def millisLeft (now : Nat) : Nat := (maxUtc - now) / nanosPerMilli

/-- The product of mean dwell and factor, as the source computes it. -/
def dwellProduct (fl : ℚ → ℚ) (cfg : MarkovConfig) (kind : StateKind) (factor : ℚ) : ℚ :=
  fl (fl (max (cfg.meanDwellMs kind) 1).toNat * factor)

theorem millisLeft_bounds {now : Nat} (hnow : now ≤ endOf2262) :
    8201020694400000 ≤ millisLeft now ∧ (millisLeft now : Int) < 2 ^ 63 - 1 := by
  unfold millisLeft maxUtc nanosPerMilli
  unfold endOf2262 at hnow
  omega

theorem plusMillis_ne_none_iff {now : Nat} (hnow : now ≤ endOf2262) {ms : Int} :
    plusMillis now ms ≠ none ↔ ms ≤ millisLeft now := by
  have hend : endOf2262 ≤ maxUtc := by decide
  have hpos : 0 < nanosPerMilli := by decide
  have hfits : now + nanosPerMilli * ms.toNat ≤ maxUtc ↔ ms ≤ millisLeft now := by
    rw [← Int.toNat_le, millisLeft, Nat.le_div_iff_mul_le hpos, Nat.mul_comm]
    omega
  unfold plusMillis
  rw [← hfits]
  simp

/-- The new deadline is on the calendar when the product is. -/
theorem plusMillis_dwellMs_iff (fl : ℚ → ℚ) (cfg : MarkovConfig) (kind : StateKind) (factor : ℚ)
    {now : Nat} (hnow : now ≤ endOf2262) :
    plusMillis now (dwellMs fl cfg kind factor) ≠ none
      ↔ dwellProduct fl cfg kind factor < millisLeft now + 1 := by
  obtain ⟨hroom, hsmall⟩ := millisLeft_bounds hnow
  have hone : (1 : Int) ≤ millisLeft now := by omega
  rw [plusMillis_ne_none_iff hnow, dwellMs, max_le_iff, and_iff_left hone, asI64_le_iff hsmall]
  exact Iff.rfl

/-- A call answers when it comes before the deadline or its new deadline is
on the calendar. -/
theorem answer_ne_none_iff (fl : ℚ → ℚ) (cfg : MarkovConfig) (st : MarkovState) (now : Nat)
    (factor : ℚ) :
    (stepWithRng fl cfg st now factor).2 ≠ none
      ↔ now < st.dwellUntil ∨ plusMillis now (dwellMs fl cfg st.kind.flip factor) ≠ none := by
  unfold stepWithRng
  by_cases hnow : now < st.dwellUntil
  · rw [if_pos hnow]
    simp [hnow]
  · rw [if_neg hnow]
    dsimp only
    cases plusMillis now (dwellMs fl cfg st.kind.flip factor) with
    | none => simp [hnow]
    | some t => simp

-- ========================================================== what returns

/-- A call returns exactly when it comes before its deadline or the drawn
dwell ends before the calendar does. -/
theorem stepWithRng_answers_iff (fl : ℚ → ℚ) (cfg : MarkovConfig) (st : MarkovState) (now : Nat)
    (factor : ℚ) (hnow : now ≤ endOf2262) :
    (stepWithRng fl cfg st now factor).2 ≠ none
      ↔ now < st.dwellUntil
        ∨ dwellProduct fl cfg st.kind.flip factor < millisLeft now + 1 := by
  rw [answer_ne_none_iff, plusMillis_dwellMs_iff fl cfg st.kind.flip factor hnow]

/-- A new state at the epoch, with the default configuration, returns. -/
theorem stepWithRng_answers_default :
    (stepWithRng id default (MarkovState.new 0) 0 20).2 ≠ none := by
  refine (stepWithRng_answers_iff id default (MarkovState.new 0) 0 20 (by decide)).mpr
    (Or.inr ?_)
  have hmean : (max ((default : MarkovConfig).meanDwellMs (MarkovState.new 0).kind.flip) 1).toNat
      = 5000 := by decide
  have hleft : millisLeft 0 = 8210266876799999 := by decide
  rw [dwellProduct, hmean, hleft]
  norm_num

/-- A mean dwell of 2^62 milliseconds. -/
def endlessOutage : MarkovConfig :=
  { (default : MarkovConfig) with meanDwellDegradedMs := 4611686018427387904 }

/-- Its first call panics on an average draw. -/
theorem endlessOutage_panics :
    ¬ ∀ (fl : ℚ → ℚ) (cfg : MarkovConfig) (st : MarkovState) (now : Nat) (factor : ℚ),
      F64Rounding fl → now ≤ endOf2262 → 0 ≤ factor → factor < 21 →
      (stepWithRng fl cfg st now factor).2 ≠ none := by
  intro h
  have hanswer := h id endlessOutage (MarkovState.new 0) 0 1 f64Rounding_id (by decide) (by simp)
    (by norm_num)
  rw [answer_ne_none_iff, plusMillis_dwellMs_iff id _ _ _ (by decide)] at hanswer
  rcases hanswer with hbefore | hfits
  · exact absurd hbefore (by decide)
  · have hmean : (max (endlessOutage.meanDwellMs (MarkovState.new 0).kind.flip) 1).toNat
        = 4611686018427387904 := by decide
    have hleft : millisLeft 0 = 8210266876799999 := by decide
    rw [dwellProduct, hmean, hleft] at hfits
    norm_num at hfits

/-- Dwells of thousands of years are safe. -/
theorem stepWithRng_answers_of_mean {fl : ℚ → ℚ} (hfl : F64Rounding fl) {cfg : MarkovConfig}
    {st : MarkovState} {now : Nat} {factor : ℚ} (hnow : now ≤ endOf2262)
    (hmean : ∀ kind, (cfg.meanDwellMs kind).toNat ≤ 2 ^ 48) (hpos : 0 ≤ factor)
    (hlt : factor < 21) : (stepWithRng fl cfg st now factor).2 ≠ none := by
  rw [answer_ne_none_iff, plusMillis_dwellMs_iff fl cfg _ factor hnow]
  refine Or.inr ?_
  have hmax : (max (cfg.meanDwellMs st.kind.flip) 1).toNat ≤ 2 ^ 48 := by
    show (if cfg.meanDwellMs st.kind.flip ≤ 1 then 1
      else cfg.meanDwellMs st.kind.flip).toNat ≤ 2 ^ 48
    split
    · decide
    · exact hmean st.kind.flip
  have hfloat : fl (max (cfg.meanDwellMs st.kind.flip) 1).toNat ≤ 2 ^ 48 := by
    have hpow : fl (2 ^ 48) = 2 ^ 48 := by simpa using hfl.exact 1 48 (by norm_num) (by norm_num)
    rw [← hpow]
    exact hfl.mono (by exact_mod_cast hmax)
  have hproduct : dwellProduct fl cfg st.kind.flip factor ≤ 21 * 2 ^ 48 := by
    have hexact : fl (21 * 2 ^ 48) = 21 * 2 ^ 48 :=
      hfl.exact 21 48 (by norm_num) (by norm_num)
    rw [dwellProduct, ← hexact]
    refine hfl.mono ?_
    nlinarith
  have hroom : (8201020694400000 : ℚ) ≤ millisLeft now := by
    exact_mod_cast (millisLeft_bounds hnow).1
  linarith

end GostlyProxy
