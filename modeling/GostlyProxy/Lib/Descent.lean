/-
Searching a tree from its root, no deeper than a bound.

A tree is any type with a step relation from a node to its children, and
`children` lists them. `search` takes a node's own value before it
descends, and its fuel is how many levels are left, the node's own
included. A `Path` is a descent with the nodes that were left behind, so
the length of that list is its number of steps.

A search finds nothing exactly when no node within its reach has a value
(`search_eq_none`); what it finds is the value of a node below nodes that
have none (`exists_path_of_search`).
-/
import Mathlib.Data.List.Basic

namespace Lib.Descent

variable {α β : Type} {step : α → α → Prop} {children : α → List α} {pick : α → Option β}

/-- A descent from a node, with the nodes above its end from the top. -/
inductive Path (step : α → α → Prop) : α → List α → α → Prop where
  | here (a : α) : Path step a [] a
  | down {a b c : α} {above : List α} : step a b → Path step b above c →
      Path step a (a :: above) c

/-- The first value on the way down, with so many levels left. -/
def search (children : α → List α) (pick : α → Option β) : Nat → α → Option β
  | 0, _ => none
  | levels + 1, a => (pick a).or ((children a).findSome? (search children pick levels))

theorem search_eq_none (hchildren : ∀ a b, b ∈ children a ↔ step a b) {levels : Nat} {a : α} :
    search children pick levels a = none ↔
      ∀ above c, Path step a above c → above.length < levels → pick c = none := by
  induction levels generalizing a with
  | zero => simp [search]
  | succ levels ih =>
      rw [search, Option.or_eq_none_iff, List.findSome?_eq_none_iff]
      constructor
      · rintro ⟨hpick, hbelow⟩ above c hpath hlt
        cases hpath with
        | here => exact hpick
        | down hb hrest =>
            have hmem := (hchildren _ _).mpr hb
            exact ih.mp (hbelow _ hmem) _ c hrest (Nat.lt_of_succ_lt_succ hlt)
      · intro h
        refine ⟨h [] a (.here a) (Nat.zero_lt_succ _), fun b hb => ih.mpr ?_⟩
        intro above c hrest hlt
        have hb' := (hchildren _ _).mp hb
        exact h (a :: above) c (.down hb' hrest) (Nat.succ_lt_succ hlt)

/-- What is found is the value of a node within reach, and no node above it
has a value. -/
theorem exists_path_of_search (hchildren : ∀ a b, b ∈ children a ↔ step a b)
    {levels : Nat} {a : α} {v : β} (h : search children pick levels a = some v) :
    ∃ above c, Path step a above c ∧ above.length < levels ∧ pick c = some v ∧
      ∀ b ∈ above, pick b = none := by
  induction levels generalizing a with
  | zero => cases h
  | succ levels ih =>
      rw [search] at h
      cases hpick : pick a with
      | some w =>
          rw [hpick, Option.some_or] at h
          exact ⟨[], a, .here a, Nat.zero_lt_succ _, hpick.trans h, fun b hb => nomatch hb⟩
      | none =>
          rw [hpick, Option.none_or] at h
          obtain ⟨b, hb, hfound⟩ := List.exists_of_findSome?_eq_some h
          obtain ⟨above, c, hrest, hlt, hc, habove⟩ := ih hfound
          have hb' := (hchildren _ _).mp hb
          refine ⟨a :: above, c, .down hb' hrest, Nat.succ_lt_succ hlt, hc, ?_⟩
          intro d hd
          rcases List.mem_cons.mp hd with rfl | hd
          · exact hpick
          · exact habove d hd

end Lib.Descent
