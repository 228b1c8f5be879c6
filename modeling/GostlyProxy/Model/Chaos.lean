/-
Chaos injection (`chaos.rs`): the configuration, the glob matcher of the
endpoint rules, the draws, and the paths as the event log shows them.

# Numbers and draws

The `f64` fields and random draws are exact rationals, and a draw is an
argument: `rand::random` gives some value from 0 inclusive to 1 exclusive.
`drawError` draws once, `computeLatencyMs` once or twice.
-/
import Mathlib.Algebra.Order.Round
import Mathlib.Data.Rat.Floor
import GostlyProxy.Model.Matcher
import GostlyProxy.Lib.Utf8

namespace GostlyProxy

open Lib

-- ========================================================= configuration

inductive ChaosModel where
  | uniform
  | markov
  deriving DecidableEq, Repr

structure MarkovConfig where
  meanDwellHealthyMs : UInt64
  meanDwellDegradedMs : UInt64
  degradedErrorRate : ℚ
  degradedLatencyMult : ℚ
  deriving DecidableEq

def defaultDwellHealthyMs : UInt64 := 30000
def defaultDwellDegradedMs : UInt64 := 5000
def defaultDegradedErrorRate : ℚ := 6 / 10
def defaultDegradedLatencyMult : ℚ := 5

/-- `MarkovConfig::default`. -/
instance : Inhabited MarkovConfig where
  default := {
    meanDwellHealthyMs := defaultDwellHealthyMs
    meanDwellDegradedMs := defaultDwellDegradedMs
    degradedErrorRate := defaultDegradedErrorRate
    degradedLatencyMult := defaultDegradedLatencyMult }

structure LatencyJitter where
  minMs : UInt64
  maxMs : UInt64
  distribution : Text
  deriving DecidableEq

structure ErrorCodeEntry where
  status : UInt16
  weight : ℚ
  body : Option Text
  headers : Option (HashMap Text Text)
  deriving DecidableEq

mutual

structure ChaosConfig where
  enabled : Bool
  latencyMs : UInt64
  errorRate : ℚ
  errorStatus : UInt16
  errorBody : Text
  latencyJitter : Option LatencyJitter
  errorCodes : List ErrorCodeEntry
  endpointRules : List EndpointRule
  modes : List Text
  chaosModel : ChaosModel
  markov : Option MarkovConfig

structure EndpointRule where
  uriPattern : Text
  config : ChaosConfig

end

-- ========================================================== glob matcher

def globMatchSegs : List Text → List Text → Bool
  | [], [] => true
  | [], _ :: _ => false
  | p :: pattern, [] => p = "**" && pattern.isEmpty
  | p :: pattern, s :: path =>
      if p = "**" then
        if pattern.isEmpty then true
        else (s :: path).tails.any fun rest => globMatchSegs pattern rest
      else if p = "*" ∨ p = s then globMatchSegs pattern path
      else false

/-- The segments the glob matcher compares. -/
def globSegments (t : Text) : List Text := Text.split '/' (Text.trimMatches '/' t)

def globMatch (pattern path : Text) : Bool :=
  globMatchSegs (globSegments pattern) (globSegments path)

def findEndpointRule (rules : List EndpointRule) (pathQuery : Text) : Option ChaosConfig :=
  (rules.find? fun r => globMatch r.uriPattern (Text.before '?' pathQuery)).map
    EndpointRule.config

-- ================================================================= draws

/-- The latency of a configuration; `u` and `v` are the draws, `v` of the
normal distribution only. -/
def computeLatencyMs (u v : ℚ) (cc : ChaosConfig) : UInt64 :=
  match cc.latencyJitter with
  | none => cc.latencyMs
  | some j =>
      if j.maxMs = 0 then 0
      else
        let lo := min j.minMs j.maxMs
        let hi := max j.maxMs j.minMs
        let r := if j.distribution = "normal" then (u + v) / 2 else u
        lo + UInt64.ofNat (round ((hi - lo).toNat * r)).toNat

structure DrawnError where
  status : UInt16
  body : Text
  headers : HashMap Text Text
  deriving DecidableEq

/-- What an entry of the dictionary is drawn as. -/
def ErrorCodeEntry.drawn (e : ErrorCodeEntry) : DrawnError where
  status := e.status
  body := e.body.getD []
  headers := e.headers.getD ∅

/-- An entry's weight, the negative ones as nothing. -/
def ErrorCodeEntry.clamped (e : ErrorCodeEntry) : ℚ := max e.weight 0

def totalWeight (codes : List ErrorCodeEntry) : ℚ :=
  (codes.map ErrorCodeEntry.clamped).sum

/-- The loop of `draw_error`: the first entry whose running sum reaches
`r`. -/
def pickFrom (r : ℚ) : ℚ → List ErrorCodeEntry → Option ErrorCodeEntry
  | _, [] => none
  | acc, e :: rest =>
      let acc := acc + e.clamped
      if r ≤ acc then some e else pickFrom r acc rest

/-- `draw_error` with the draw `u`; short of the total, the last entry. -/
def drawError (u : ℚ) (cc : ChaosConfig) : Option DrawnError :=
  let legacy : Option DrawnError :=
    if 0 < cc.errorStatus then
      some { status := cc.errorStatus, body := cc.errorBody, headers := ∅ }
    else none
  if cc.errorCodes.isEmpty then legacy
  else if 0 < totalWeight cc.errorCodes then
    match pickFrom (u * totalWeight cc.errorCodes) 0 cc.errorCodes with
    | some e => some e.drawn
    | none => (cc.errorCodes.getLast?.map ErrorCodeEntry.drawn).or legacy
  else legacy

-- ================================================================== ids

/-- The bytes of `is_uuid`'s loop from position `i` on. -/
def uuidBytes : Nat → Bytes → Bool
  | _, [] => true
  | i, b :: rest =>
      let expectDash := i = 8 ∨ i = 13 ∨ i = 18 ∨ i = 23
      let isDash := b = '-'.toUInt8
      (expectDash ↔ isDash) && (isDash || isAsciiHexdigit (Char.ofNat b.toNat))
        && uuidBytes (i + 1) rest

def isUuid (s : Text) : Bool := s.utf8.length = 36 && uuidBytes 0 s.utf8

def isLongNumeric (s : Text) : Bool :=
  5 ≤ s.utf8.length && s.utf8.all fun b => isAsciiDigit (Char.ofNat b.toNat)

def idPlaceholder : Text := "\x7bid\x7d"

/-- The loop of `scrub_path` over the segments that are left, with the
output so far and whether it has a segment yet. -/
def scrubSegments : Text → Bool → List Text → Text
  | out, _, [] => out
  | out, wroteSegment, seg :: rest =>
      if seg.isEmpty then scrubSegments out wroteSegment rest
      else
        let out := if wroteSegment then out ++ ['/'] else out
        let out := if isUuid seg || isLongNumeric seg then out ++ idPlaceholder else out ++ seg
        scrubSegments out true rest

def scrubPath (pathQuery : Text) : Text :=
  let path := Text.before '?' pathQuery
  let out : Text := if Text.startsWith path ['/'] then ['/'] else []
  let out := scrubSegments out false (Text.split '/' path)
  if out.isEmpty then ['/'] else out

end GostlyProxy
