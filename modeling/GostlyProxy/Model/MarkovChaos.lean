/-
Two-state Markov chaos (`markov_chaos.rs`).

# Time

A clock reading is a number of nanoseconds since 1970, the resolution of
`DateTime<Utc>`. The calendar ends with the year 262142, and an addition
beyond its end panics (`plusMillis`). `stepWithRng` answers `none` for a
call that panics and leaves the state as the source has it by then: the
kind is turned before the addition, the deadline is set after it.

# Draws

`factor` is the drawn `-(1.0 - u).max(1e-9).ln()`. It is not negative and
stays below 21. The products are rounded to an `f64`, by the function `fl`;
`F64Rounding` is what rounding to nearest promises of it.
-/
import GostlyProxy.Model.Chaos

namespace GostlyProxy

open Lib

-- ============================================================ arithmetic

/-- Rounding to the nearest `f64`, as far as it is used: it keeps the order
and the numbers of 53 binary digits. -/
structure F64Rounding (fl : ℚ → ℚ) : Prop where
  mono : Monotone fl
  exact : ∀ m k : Nat, m < 2 ^ 53 → k ≤ 64 → fl (m * 2 ^ k) = m * 2 ^ k

/-- `as i64`: towards zero, and saturating. -/
def asI64 (x : ℚ) : Int :=
  max (-2 ^ 63) (min (2 ^ 63 - 1) (if 0 ≤ x then ⌊x⌋ else ⌈x⌉))

def nanosPerMilli : Nat := 1000000

/-- `DateTime::<Utc>::MAX_UTC`, 262142-12-31T23:59:59.999999999. -/
def maxUtc : Nat := 8210266876799999999999

/-- `now + Duration::milliseconds(ms)` of a duration that is not
negative. -/
def plusMillis (now : Nat) (ms : Int) : Option Nat :=
  if now + nanosPerMilli * ms.toNat ≤ maxUtc then some (now + nanosPerMilli * ms.toNat)
  else none

-- ============================================================= the state

inductive StateKind where
  | healthy
  | degraded
  deriving DecidableEq, Repr

/-- The other kind. -/
def StateKind.flip : StateKind → StateKind
  | .healthy => .degraded
  | .degraded => .healthy

structure MarkovState where
  kind : StateKind
  dwellUntil : Nat
  deriving DecidableEq, Repr

/-- `MarkovState::new` at a clock reading. -/
def MarkovState.new (now : Nat) : MarkovState where
  kind := .healthy
  dwellUntil := now

def MarkovConfig.meanDwellMs (cfg : MarkovConfig) : StateKind → UInt64
  | .healthy => cfg.meanDwellHealthyMs
  | .degraded => cfg.meanDwellDegradedMs

section Step

variable (fl : ℚ → ℚ) (cfg : MarkovConfig)

/-- The dwell drawn in a kind. -/
def dwellMs (kind : StateKind) (factor : ℚ) : Int :=
  let meanMs := max (cfg.meanDwellMs kind) 1
  max (asI64 (fl (fl meanMs.toNat * factor))) 1

/-- `step_with_rng` at the clock reading `now`: the state after the call
and the answer, `none` when the call panics. -/
def stepWithRng (st : MarkovState) (now : Nat) (factor : ℚ) :
    MarkovState × Option (StateKind × Bool) :=
  if now < st.dwellUntil then (st, some (st.kind, false))
  else
    let kind := st.kind.flip
    match plusMillis now (dwellMs fl cfg kind factor) with
    | some dwellUntil => ({ kind := kind, dwellUntil := dwellUntil }, some (kind, true))
    | none => ({ st with kind := kind }, none)

end Step

end GostlyProxy
