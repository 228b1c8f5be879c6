/-
Glob patterns over lists.

A pattern is a list of tokens: an element itself, any one element, or any
run of elements, the empty one included. `Globs` is what a pattern
matches, read off the tokens one at a time. A pattern put together from two
matches the lists put together from what the two match (`globs_append`), so
runs at the end of a pattern match anything behind what the rest of the
pattern matches (`globs_append_deep`).

# A matcher that drops the last run

`globScan` is the recursive matcher that tries every rest of the list for a
run. Of a list that is used up it accepts the empty pattern and a single
run only, so two runs or more at the end of a pattern want an element that
the pattern in front of them leaves over (`GlobsBefore`, `globScan_iff`).
-/
import Mathlib.Data.List.DropRight
import Mathlib.Data.List.Infix
import Mathlib.Data.List.Basic

namespace Lib

/-- What a pattern says of one place: this element, one element, any run of
elements. -/
inductive GlobToken (α : Type*) where
  | lit (a : α)
  | one
  | deep
  deriving DecidableEq

section Glob

variable {α : Type*}

/-- The lists a pattern matches. -/
inductive Globs : List (GlobToken α) → List α → Prop
  | nil : Globs [] []
  | lit {a : α} {p : List (GlobToken α)} {l : List α} (h : Globs p l) :
      Globs (.lit a :: p) (a :: l)
  | one {a : α} {p : List (GlobToken α)} {l : List α} (h : Globs p l) :
      Globs (.one :: p) (a :: l)
  | deepNil {p : List (GlobToken α)} {l : List α} (h : Globs p l) : Globs (.deep :: p) l
  | deepCons {a : α} {p : List (GlobToken α)} {l : List α} (h : Globs (.deep :: p) l) :
      Globs (.deep :: p) (a :: l)

-- ======================================================== one token

@[simp] theorem globs_nil_left {l : List α} : Globs [] l ↔ l = [] := by
  constructor
  · intro h
    cases h
    rfl
  · rintro rfl
    exact .nil

@[simp] theorem globs_lit {a : α} {p : List (GlobToken α)} {l : List α} :
    Globs (.lit a :: p) l ↔ ∃ rest, l = a :: rest ∧ Globs p rest := by
  constructor
  · intro h
    cases h with
    | lit h => exact ⟨_, rfl, h⟩
  · rintro ⟨rest, rfl, h⟩
    exact .lit h

@[simp] theorem globs_one {p : List (GlobToken α)} {l : List α} :
    Globs (.one :: p) l ↔ ∃ a rest, l = a :: rest ∧ Globs p rest := by
  constructor
  · intro h
    cases h with
    | one h => exact ⟨_, _, rfl, h⟩
  · rintro ⟨a, rest, rfl, h⟩
    exact .one h

/-- A run takes some front of the list. -/
@[simp] theorem globs_deep {p : List (GlobToken α)} {l : List α} :
    Globs (.deep :: p) l ↔ ∃ front rest, l = front ++ rest ∧ Globs p rest := by
  constructor
  · intro h
    induction l with
    | nil =>
        cases h with
        | deepNil h => exact ⟨[], [], rfl, h⟩
    | cons a l ih =>
        cases h with
        | deepNil h => exact ⟨[], a :: l, rfl, h⟩
        | deepCons h =>
            obtain ⟨front, rest, rfl, hrest⟩ := ih h
            exact ⟨a :: front, rest, rfl, hrest⟩
  · rintro ⟨front, rest, rfl, h⟩
    induction front with
    | nil => exact .deepNil h
    | cons a front ih => exact .deepCons ih

/-- Any other token takes one element. -/
theorem globs_step {t : GlobToken α} (ht : t ≠ .deep) {p : List (GlobToken α)} {l : List α} :
    Globs (t :: p) l ↔ ∃ a rest, l = a :: rest ∧ (t = .one ∨ t = .lit a) ∧ Globs p rest := by
  cases t with
  | lit a =>
      rw [globs_lit]
      constructor
      · rintro ⟨rest, rfl, h⟩
        exact ⟨a, rest, rfl, Or.inr rfl, h⟩
      · rintro ⟨b, rest, rfl, heq | heq, h⟩
        · cases heq
        · cases heq
          exact ⟨rest, rfl, h⟩
  | one => simp
  | deep => exact absurd rfl ht

-- ================================================ patterns put together

theorem globs_append {p q : List (GlobToken α)} {l : List α} :
    Globs (p ++ q) l ↔ ∃ front rest, l = front ++ rest ∧ Globs p front ∧ Globs q rest := by
  induction p generalizing l with
  | nil => simp
  | cons t p ih =>
      cases t with
      | lit a =>
          simp only [List.cons_append, globs_lit, ih]
          constructor
          · rintro ⟨_, rfl, front, rest, rfl, hp, hq⟩
            exact ⟨a :: front, rest, rfl, ⟨front, rfl, hp⟩, hq⟩
          · rintro ⟨_, rest, rfl, ⟨front, rfl, hp⟩, hq⟩
            exact ⟨front ++ rest, rfl, front, rest, rfl, hp, hq⟩
      | one =>
          simp only [List.cons_append, globs_one, ih]
          constructor
          · rintro ⟨a, _, rfl, front, rest, rfl, hp, hq⟩
            exact ⟨a :: front, rest, rfl, ⟨a, front, rfl, hp⟩, hq⟩
          · rintro ⟨_, rest, rfl, ⟨a, front, rfl, hp⟩, hq⟩
            exact ⟨a, front ++ rest, rfl, front, rest, rfl, hp, hq⟩
      | deep =>
          simp only [List.cons_append, globs_deep, ih]
          constructor
          · rintro ⟨skipped, _, rfl, front, rest, rfl, hp, hq⟩
            exact ⟨skipped ++ front, rest, by simp, ⟨skipped, front, rfl, hp⟩, hq⟩
          · rintro ⟨_, rest, rfl, ⟨skipped, front, rfl, hp⟩, hq⟩
            exact ⟨skipped, front ++ rest, by simp, front, rest, rfl, hp, hq⟩

/-- Runs match everything; no runs match nothing but the empty list. -/
theorem globs_replicate_deep {n : Nat} {l : List α} :
    Globs (List.replicate n .deep) l ↔ (n = 0 → l = []) := by
  cases n with
  | zero => simp
  | succ n =>
      simp only [List.replicate_succ, globs_deep, Nat.add_one_ne_zero, false_implies, iff_true]
      refine ⟨l, [], by simp, ?_⟩
      induction n with
      | zero => exact .nil
      | succ n ih =>
          rw [List.replicate_succ]
          exact .deepNil ih

/-- Runs behind a pattern take what the pattern leaves over. -/
theorem globs_append_deep {p : List (GlobToken α)} {n : Nat} {l : List α} :
    Globs (p ++ List.replicate n .deep) l
      ↔ ∃ front rest, l = front ++ rest ∧ Globs p front ∧ (n = 0 → rest = []) := by
  simp only [globs_append, globs_replicate_deep]

/-- Only runs match the empty list. -/
theorem globs_nil_right {p : List (GlobToken α)} : Globs p [] ↔ ∀ t ∈ p, t = .deep := by
  induction p with
  | nil => simp
  | cons t p ih =>
      cases t with
      | lit a => simp
      | one => simp
      | deep => simp [ih]

-- ================================================== what is left over

/-- The pattern matches a front of the list, and what is left over suits `n`
runs: with no run nothing may be, with two or more something must be. -/
def GlobsBefore (n : Nat) (p : List (GlobToken α)) (l : List α) : Prop :=
  ∃ front rest, l = front ++ rest ∧ Globs p front ∧ (n = 0 → rest = []) ∧ (2 ≤ n → rest ≠ [])

theorem globsBefore_deep {n : Nat} {p : List (GlobToken α)} {l : List α} :
    GlobsBefore n (.deep :: p) l ↔ ∃ front rest, l = front ++ rest ∧ GlobsBefore n p rest := by
  simp only [GlobsBefore, globs_deep]
  constructor
  · rintro ⟨_, rest, hsplit, ⟨skipped, front, rfl, hglobs⟩, hrest⟩
    exact ⟨skipped, front ++ rest, by rw [hsplit, List.append_assoc], front, rest, rfl, hglobs,
      hrest⟩
  · rintro ⟨skipped, _, hsplit, front, rest, rfl, hglobs, hrest⟩
    exact ⟨skipped ++ front, rest, by rw [hsplit, List.append_assoc], ⟨skipped, front, rfl, hglobs⟩,
      hrest⟩

theorem globsBefore_step {n : Nat} {t : GlobToken α} (ht : t ≠ .deep) {p : List (GlobToken α)}
    {a : α} {l : List α} :
    GlobsBefore n (t :: p) (a :: l) ↔ (t = .one ∨ t = .lit a) ∧ GlobsBefore n p l := by
  simp only [GlobsBefore, globs_step ht]
  constructor
  · rintro ⟨_, rest, hsplit, ⟨b, front, rfl, htb, hglobs⟩, hrest⟩
    rw [List.cons_append, List.cons.injEq] at hsplit
    obtain ⟨rfl, rfl⟩ := hsplit
    exact ⟨htb, front, rest, rfl, hglobs, hrest⟩
  · rintro ⟨hta, front, rest, rfl, hglobs, hrest⟩
    exact ⟨a :: front, rest, rfl, ⟨a, front, rfl, hta, hglobs⟩, hrest⟩

/-- A pattern whose last token is no run wants an element. -/
theorem not_globsBefore_nil {n : Nat} {p : List (GlobToken α)} (hne : p ≠ [])
    (hp : p.getLast? ≠ some .deep) : ¬ GlobsBefore n p [] := by
  rintro ⟨front, rest, hsplit, hglobs, -⟩
  rw [(List.append_eq_nil_iff.mp hsplit.symm).1] at hglobs
  have hall := globs_nil_right.mp hglobs
  refine hp ?_
  rw [List.getLast?_eq_some_getLast hne, hall _ (List.getLast_mem _)]

end Glob

-- ============================================================ the matcher

section Scan

variable {α : Type*} [DecidableEq α]

/-- The recursive matcher, with the rests of the list tried in turn for a
run. -/
def globScan : List (GlobToken α) → List α → Bool
  | [], l => l.isEmpty
  | t :: p, [] => t = .deep && p.isEmpty
  | t :: p, a :: l =>
      if t = .deep then p.isEmpty || (a :: l).tails.any fun rest => globScan p rest
      else if t = .one ∨ t = .lit a then globScan p l
      else false

theorem globScan_nil_right {p : List (GlobToken α)} :
    globScan p [] = true ↔ p = [] ∨ p = [.deep] := by
  cases p with
  | nil => simp [globScan]
  | cons t p => simp [globScan]

theorem globScan_step {t : GlobToken α} {p : List (GlobToken α)} {a : α} {l : List α}
    (ht : t ≠ .deep) :
    globScan (t :: p) (a :: l) = true ↔ (t = .one ∨ t = .lit a) ∧ globScan p l = true := by
  rw [globScan, if_neg ht]
  split
  · rename_i h
    simp [h]
  · rename_i h
    simp [h]

theorem globScan_deep {p : List (GlobToken α)} (hp : p ≠ []) {a : α} {l : List α} :
    globScan (.deep :: p) (a :: l) = true
      ↔ ∃ front rest, a :: l = front ++ rest ∧ globScan p rest = true := by
  rw [globScan, if_pos rfl, Bool.or_eq_true, List.isEmpty_iff, List.any_eq_true]
  simp only [hp, false_or, List.mem_tails]
  constructor
  · rintro ⟨rest, ⟨front, hsplit⟩, hscan⟩
    exact ⟨front, rest, hsplit.symm, hscan⟩
  · rintro ⟨front, rest, hsplit, hscan⟩
    exact ⟨rest, ⟨front, hsplit.symm⟩, hscan⟩

/-- Runs alone: one takes everything, two or more want an element. -/
theorem globScan_replicate_deep {n : Nat} {l : List α} :
    globScan (List.replicate n .deep) l = true ↔ (n = 0 → l = []) ∧ (2 ≤ n → l ≠ []) := by
  induction n with
  | zero => simp [globScan]
  | succ n ih =>
      rw [List.replicate_succ]
      cases l with
      | nil =>
          rw [globScan_nil_right]
          cases n <;> simp [List.replicate_succ]
      | cons a l =>
          cases n with
          | zero => simp [globScan]
          | succ n =>
              rw [globScan_deep (by simp [List.replicate_succ])]
              simp only [Nat.add_one_ne_zero, false_implies, ne_eq, reduceCtorEq,
                not_false_eq_true, implies_true, and_true, iff_true]
              exact ⟨[], a :: l, rfl, ih.mpr (by simp)⟩

/-- What the matcher accepts of a pattern that ends in `n` runs. -/
theorem globScan_iff {p : List (GlobToken α)} (hp : p.getLast? ≠ some .deep) {n : Nat}
    {l : List α} :
    globScan (p ++ List.replicate n .deep) l = true ↔ GlobsBefore n p l := by
  induction p generalizing l with
  | nil =>
      rw [List.nil_append, globScan_replicate_deep]
      simp [GlobsBefore]
  | cons t p ih =>
      have hlast : p.getLast? ≠ some .deep := by
        intro h
        cases p with
        | nil => cases h
        | cons u p => exact hp (by rw [List.getLast?_cons_cons, h])
      cases l with
      | nil =>
          -- the list is used up, and the pattern is more than a run
          have hmore : ¬ (t = .deep ∧ p = []) := by
            rintro ⟨rfl, rfl⟩
            exact hp rfl
          rw [List.cons_append, globScan_nil_right,
            iff_false_right (not_globsBefore_nil (List.cons_ne_nil t p) hp)]
          simpa using fun ht hnil => absurd ⟨ht, hnil⟩ hmore
      | cons a l =>
          by_cases ht : t = .deep
          · subst ht
            have hne : p ≠ [] := by
              rintro rfl
              exact hp rfl
            rw [List.cons_append, globScan_deep (by simp [hne]), globsBefore_deep]
            simp only [ih hlast]
          · rw [List.cons_append, globScan_step ht, ih hlast, globsBefore_step ht]

/-- The pattern in front of the runs it ends in. -/
def deepStem (p : List (GlobToken α)) : List (GlobToken α) := p.rdropWhile fun t => t = .deep

/-- How many runs a pattern ends in. -/
def deepRuns (p : List (GlobToken α)) : Nat := (p.rtakeWhile fun t => t = .deep).length

theorem deepStem_append (p : List (GlobToken α)) :
    deepStem p ++ List.replicate (deepRuns p) .deep = p := by
  have hruns : p.rtakeWhile (fun t => t = .deep) = List.replicate (deepRuns p) .deep :=
    List.eq_replicate_of_mem fun t ht => by simpa using List.mem_rtakeWhile_imp ht
  rw [← hruns]
  exact List.rdropWhile_append_rtakeWhile

theorem getLast?_deepStem (p : List (GlobToken α)) : (deepStem p).getLast? ≠ some .deep := by
  intro h
  have hne : deepStem p ≠ [] := by
    intro hnil
    rw [hnil] at h
    cases h
  rw [List.getLast?_eq_some_getLast hne, Option.some.injEq] at h
  have hnot := List.rdropWhile_last_not (fun t => decide (t = GlobToken.deep)) p hne
  exact hnot (decide_eq_true h)

/-- The matcher is right except where two or more runs end a pattern whose
front part matches the whole list and nothing shorter. -/
theorem globScan_right_iff (p : List (GlobToken α)) (l : List α) :
    (globScan p l = true ↔ Globs p l)
      ↔ ¬ (2 ≤ deepRuns p ∧ Globs (deepStem p) l
        ∧ ∀ front rest, l = front ++ rest → Globs (deepStem p) front → rest = []) := by
  have hp := getLast?_deepStem p
  generalize hstem : deepStem p = q at hp ⊢
  generalize hruns : deepRuns p = n
  have hglue := deepStem_append p
  rw [hstem, hruns] at hglue
  rw [← hglue, globScan_iff hp, globs_append_deep]
  constructor
  · rintro h ⟨hn, hall, hmin⟩
    obtain ⟨front, rest, hsplit, hglobs, -, hrest⟩ :=
      h.mpr ⟨l, [], by simp, hall, fun _ => rfl⟩
    exact hrest hn (hmin front rest hsplit hglobs)
  · intro h
    constructor
    · rintro ⟨front, rest, hsplit, hglobs, hzero, -⟩
      exact ⟨front, rest, hsplit, hglobs, hzero⟩
    · rintro ⟨front, rest, rfl, hglobs, hzero⟩
      by_cases hrest : 2 ≤ n ∧ rest = []
      · -- the pattern takes the whole list: an earlier stop has to do
        obtain ⟨hn, rfl⟩ := hrest
        rw [List.append_nil] at h
        by_contra hnone
        refine h ⟨hn, hglobs, fun front' rest' hsplit hglobs' => ?_⟩
        by_contra hrest'
        refine hnone ⟨front', rest', by rw [List.append_nil, hsplit], hglobs', ?_, fun _ => hrest'⟩
        omega
      · exact ⟨front, rest, rfl, hglobs, hzero, fun hn hnil => hrest ⟨hn, hnil⟩⟩

end Scan

end Lib
