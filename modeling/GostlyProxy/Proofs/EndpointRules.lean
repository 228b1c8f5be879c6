/-
The glob language of the endpoint rules.

A pattern's segments are tokens (`globToken`): `**` is a run of any length,
`*` one segment, anything else itself. What a pattern matches is then the
library's `Globs`, and `globMatchSegs` is the library's matcher
(`globMatchSegs_eq`). It misses a path exactly when the pattern ends in two
`**` or more and what stands in front of them needs the whole path
(`globMatch_right_iff`); whatever it accepts the pattern matches. Rules
whose patterns do not end so are used as they are written
(`findEndpointRule_eq_some_iff`).
-/
import GostlyProxy.Lib.Glob
import GostlyProxy.Model.Chaos

namespace GostlyProxy

open Lib

-- ================================================================ tokens

/-- What a segment of a pattern stands for. -/
def globToken (seg : Text) : GlobToken Text :=
  if seg = "**" then .deep else if seg = "*" then .one else .lit seg

/-- The tokens of a pattern. -/
def globTokens (pattern : Text) : List (GlobToken Text) := (globSegments pattern).map globToken

theorem globToken_eq_deep {seg : Text} : globToken seg = .deep ↔ seg = ("**" : Text) := by
  by_cases hdeep : seg = ("**" : Text)
  · rw [globToken, if_pos hdeep, eq_self, true_iff]
    exact hdeep
  · rw [globToken, if_neg hdeep]
    split <;> simp only [reduceCtorEq, hdeep]

theorem globToken_takes {seg s : Text} (h : seg ≠ ("**" : Text)) :
    (globToken seg = .one ∨ globToken seg = .lit s) ↔ seg = ("*" : Text) ∨ seg = s := by
  by_cases hone : seg = ("*" : Text)
  · rw [globToken, if_neg h, if_pos hone, or_iff_left_of_imp (by simp)]
    simp only [hone, true_or]
  · rw [globToken, if_neg h, if_neg hone]
    simp only [reduceCtorEq, false_or, GlobToken.lit.injEq, hone]

/-- The source's matcher is the library's, on tokens. -/
theorem globMatchSegs_eq (pattern path : List Text) :
    globMatchSegs pattern path = globScan (pattern.map globToken) path := by
  induction pattern generalizing path with
  | nil => cases path <;> rfl
  | cons p pattern ih =>
      cases path with
      | nil =>
          rw [globMatchSegs, List.map_cons, globScan]
          simp only [globToken_eq_deep, List.isEmpty_map]
      | cons s path =>
          rw [globMatchSegs, List.map_cons, globScan]
          by_cases hdeep : p = ("**" : Text)
          · rw [if_pos hdeep, if_pos (globToken_eq_deep.mpr hdeep), List.isEmpty_map]
            simp only [ih, Bool.if_true_left, Bool.decide_eq_true]
          · rw [if_neg hdeep, if_neg (mt globToken_eq_deep.mp hdeep), ih path]
            simp only [globToken_takes hdeep]

-- ================================================================= rules

/-- The rule's pattern matches the path of the request. -/
def EndpointRule.Covers (r : EndpointRule) (pathQuery : Text) : Prop :=
  Globs (globTokens r.uriPattern) (globSegments (Text.before '?' pathQuery))

theorem globMatch_iff_globs {pattern path : Text} (hruns : deepRuns (globTokens pattern) ≤ 1) :
    globMatch pattern path = true ↔ Globs (globTokens pattern) (globSegments path) := by
  rw [globMatch, globMatchSegs_eq]
  exact (globScan_right_iff _ _).mpr fun h => absurd h.1 (not_le.mpr (Nat.lt_succ_of_le hruns))

/-- Where no pattern ends in two runs, a request is given the first rule that
covers it. -/
theorem findEndpointRule_eq_some_iff {rules : List EndpointRule}
    (hruns : ∀ r ∈ rules, deepRuns (globTokens r.uriPattern) ≤ 1) {pathQuery : Text}
    {config : ChaosConfig} :
    findEndpointRule rules pathQuery = some config
      ↔ ∃ front r rest, rules = front ++ r :: rest ∧ r.config = config ∧ r.Covers pathQuery
        ∧ ∀ r' ∈ front, ¬ r'.Covers pathQuery := by
  have hcovers : ∀ r ∈ rules, globMatch r.uriPattern (Text.before '?' pathQuery) = true
      ↔ r.Covers pathQuery := fun r hr => globMatch_iff_globs (hruns r hr)
  simp only [findEndpointRule, Option.map_eq_some_iff, List.find?_eq_some_iff_append]
  constructor
  · rintro ⟨r, ⟨hmatch, front, rest, rfl, hfront⟩, rfl⟩
    refine ⟨front, r, rest, rfl, rfl, (hcovers r (by simp)).mp hmatch, fun r' hr' hcov => ?_⟩
    have hmatch' := (hcovers r' (List.mem_append_left _ hr')).mpr hcov
    simpa [hmatch'] using hfront r' hr'
  · rintro ⟨front, r, rest, rfl, rfl, hcov, hfront⟩
    refine ⟨r, ⟨(hcovers r (by simp)).mpr hcov, front, rest, rfl, fun r' hr' => ?_⟩, rfl⟩
    have hno := mt (hcovers r' (List.mem_append_left _ hr')).mp (hfront r' hr')
    simpa using hno

-- ======================================================= what is matched

/-- `globMatch` is right about a path except where the pattern ends in two
`**` or more and the pattern in front of them matches the whole path and no
shorter front of it. -/
theorem globMatch_right_iff (pattern path : Text) :
    (globMatch pattern path = true ↔ Globs (globTokens pattern) (globSegments path))
      ↔ ¬ (2 ≤ deepRuns (globTokens pattern)
        ∧ Globs (deepStem (globTokens pattern)) (globSegments path)
        ∧ ∀ front rest, globSegments path = front ++ rest →
            Globs (deepStem (globTokens pattern)) front → rest = []) := by
  rw [globMatch, globMatchSegs_eq]
  exact globScan_right_iff (globTokens pattern) (globSegments path)

/-- A rule for `/a` and everything below it, written with `**` twice. -/
theorem globMatch_two_runs :
    ¬ ∀ pattern path : Text,
      globMatch pattern path = true ↔ Globs (globTokens pattern) (globSegments path) := by
  intro h
  have hmatches : Globs (globTokens "/a/**/**") (globSegments "/a") := by
    have htokens : globTokens "/a/**/**" = [.lit ['a'], .deep, .deep] := by decide
    have hpath : globSegments "/a" = [['a']] := by decide
    rw [htokens, hpath]
    exact .lit (.deepNil (.deepNil .nil))
  have hcode : globMatch "/a/**/**" "/a" = false := by decide
  rw [(h "/a/**/**" "/a").mpr hmatches] at hcode
  cases hcode

end GostlyProxy
