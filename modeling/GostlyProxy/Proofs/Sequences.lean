/-
Sequences and their cursors.

# The cursor

A cursor is a 32-bit number under the sequence's id. `cursorStep` runs the
calls of `find_sequence_response` and the resets on one map of cursors, and
counts beside it how many calls a sequence has answered since the start or
its last reset. `CursorInv` is what the number says about the count: the
count modulo 2^32, or modulo the rotation when the sequence loops. So the
k-th call gets the response at `cursorIndex`, where a plain count would
give the one at `lawIndex`; the two part when the number has wrapped
(`cursor_law_iff`).

# The definition

`handle_create_sequence` replaces the definition and leaves the cursor.
The last section follows a posted sequence from there to the first request
it answers (`created_starts_first_iff`).
-/
import GostlyProxy.Lib.Machine
import GostlyProxy.Model.Admin
import GostlyProxy.Model.Matcher
import GostlyProxy.Proofs.Footprint

namespace GostlyProxy

open Lib

-- ================================================================ the runs

inductive CursorAction where
  | call (method uri : Text)
  | reset (id : Text)

/-- The cursors, and for every id the number of calls its sequence has
answered since the start or its last reset. -/
structure CursorState where
  counters : HashMap Text UInt32
  answered : Text → Nat

def CursorState.start : CursorState where
  counters := ∅
  answered := fun _ => 0

section Cursor

variable (env : Externals) (seqs : List MockSequence)

def cursorStep (s : CursorState) : CursorAction → CursorState × Option SequenceResponse
  | .call method uri =>
      let (counters, response) := findSequenceResponse env seqs s.counters method uri
      ({ counters := counters
         answered := match matchSequence env seqs method uri with
           | some seq => Function.update s.answered seq.id (s.answered seq.id + 1)
           | none => s.answered }, response)
  | .reset id =>
      ({ counters := s.counters.erase id
         answered := Function.update s.answered id 0 }, none)

-- ================================================================ the law

/-- Where the k-th call of a sequence should be: clamped to the last
response, or round the rotation. -/
def lawIndex (seq : MockSequence) (k : Nat) : Nat :=
  if seq.loopResponses then k % seq.responses.length
  else min k (seq.responses.length - 1)

/-- The number the cursor holds after k calls. -/
def cursorNumber (seq : MockSequence) (k : Nat) : Nat :=
  if seq.loopResponses then k % min seq.responses.length (2 ^ 32) else k % 2 ^ 32

/-- Where the k-th call of a sequence is. -/
def cursorIndex (seq : MockSequence) (k : Nat) : Nat :=
  min (cursorNumber seq k) (seq.responses.length - 1)

/-- A call gets the response of its count, and the cursors of the other
sequences stay. -/
def ObeysLaw (s : CursorState) (a : CursorAction) : Prop :=
  ∀ method uri, a = .call method uri →
    (∀ seq, matchSequence env seqs method uri = some seq →
      ∃ response, seq.responses[lawIndex seq (s.answered seq.id)]? = some response
        ∧ (cursorStep env seqs s a).2 = some response)
    ∧ ∀ seq ∈ seqs, matchSequence env seqs method uri ≠ some seq →
      (cursorStep env seqs s a).1.counters.lookup seq.id = s.counters.lookup seq.id

/-- The cursor points at the response the count points at. -/
def PointsRight (s : CursorState) (a : CursorAction) : Prop :=
  ∀ method uri seq, a = .call method uri → matchSequence env seqs method uri = some seq →
    seq.responses[cursorIndex seq (s.answered seq.id)]?
      = seq.responses[lawIndex seq (s.answered seq.id)]?

-- ============================================================ the invariant

/-- The cursors hold the counts, as far as 32 bits do. -/
def CursorInv (s : CursorState) : Prop :=
  ∀ seq ∈ seqs, ((s.counters.lookup seq.id).getD 0).toNat
    = cursorNumber seq (s.answered seq.id)

variable {env seqs}

theorem cursorNumber_zero (seq : MockSequence) : cursorNumber seq 0 = 0 := by
  unfold cursorNumber
  split <;> simp

/-- One call moves the number on by one, round the rotation or round the
32 bits. -/
theorem cursorNumber_succ {seq : MockSequence} (hne : seq.responses ≠ []) (k : Nat) :
    (if seq.loopResponses
        then UInt32.ofNat ((cursorNumber seq k + 1) % seq.responses.length)
        else UInt32.ofNat (cursorNumber seq k + 1)).toNat
      = cursorNumber seq (k + 1) := by
  have hpos : 0 < seq.responses.length := List.length_pos_of_ne_nil hne
  unfold cursorNumber
  cases seq.loopResponses with
  | false =>
      simp only [Bool.false_eq_true, if_false, UInt32.toNat_ofNat']
      omega
  | true =>
      simp only [if_true, UInt32.toNat_ofNat']
      rcases Nat.le_total seq.responses.length (2 ^ 32) with hle | hle
      · rw [Nat.min_eq_left hle]
        have hlt : (k % seq.responses.length + 1) % seq.responses.length
            < seq.responses.length := Nat.mod_lt _ hpos
        rw [Nat.mod_eq_of_lt (show _ < 2 ^ 32 by omega), Nat.mod_add_mod]
      · rw [Nat.min_eq_right hle]
        rcases Nat.eq_or_lt_of_le (show k % 2 ^ 32 + 1 ≤ seq.responses.length by omega)
          with heq | hlt
        · rw [heq, Nat.mod_self]
          omega
        · rw [Nat.mod_eq_of_lt hlt]
          omega

theorem mem_of_matchSequence {method uri : Text} {seq : MockSequence}
    (h : matchSequence env seqs method uri = some seq) : seq ∈ seqs :=
  List.mem_of_find?_eq_some h

/-- The call a sequence answers: the response under its cursor, and the
cursor moved on. -/
theorem findSequenceResponse_of_match (counters : HashMap Text UInt32) {method uri : Text}
    {seq : MockSequence} (h : matchSequence env seqs method uri = some seq)
    (hne : seq.responses ≠ []) :
    ∃ response,
      seq.responses[min ((counters.lookup seq.id).getD 0).toNat
          (seq.responses.length - 1)]? = some response
        ∧ findSequenceResponse env seqs counters method uri
          = (counters.insert seq.id
              (if seq.loopResponses
                then UInt32.ofNat ((((counters.lookup seq.id).getD 0).toNat + 1)
                  % seq.responses.length)
                else UInt32.ofNat (((counters.lookup seq.id).getD 0).toNat + 1)),
            some response) := by
  have hpos : 0 < seq.responses.length := List.length_pos_of_ne_nil hne
  have hlt : min ((counters.lookup seq.id).getD 0).toNat (seq.responses.length - 1)
      < seq.responses.length := by omega
  refine ⟨_, List.getElem?_eq_getElem hlt, ?_⟩
  unfold findSequenceResponse
  simp only [h, List.getElem?_eq_getElem hlt]

theorem findSequenceResponse_of_unmatched {counters : HashMap Text UInt32}
    {method uri : Text} (h : matchSequence env seqs method uri = none) :
    findSequenceResponse env seqs counters method uri = (counters, none) := by
  unfold findSequenceResponse
  rw [h]

theorem cursorInv_start : CursorInv seqs CursorState.start := by
  intro seq _
  rw [CursorState.start, Finmap.lookup_empty, cursorNumber_zero]
  rfl

theorem cursorInv_step (hdistinct : (seqs.map (·.id)).Nodup)
    (hne : ∀ seq ∈ seqs, seq.responses ≠ []) (s : CursorState) (a : CursorAction)
    (h : CursorInv seqs s) : CursorInv seqs (cursorStep env seqs s a).1 := by
  intro seq hmem
  cases a with
  | call method uri =>
      cases hmatch : matchSequence env seqs method uri with
      | none =>
          unfold cursorStep
          simp only [findSequenceResponse_of_unmatched hmatch, hmatch]
          exact h seq hmem
      | some seq' =>
          have hmem' := mem_of_matchSequence hmatch
          obtain ⟨response, -, hfind⟩ :=
            findSequenceResponse_of_match s.counters hmatch (hne seq' hmem')
          unfold cursorStep
          simp only [hfind, hmatch]
          by_cases hid : seq.id = seq'.id
          · have hseq : seq = seq' := List.inj_on_of_nodup_map hdistinct hmem hmem' hid
            subst hseq
            rw [Finmap.lookup_insert, Option.getD_some, Function.update_self, h seq hmem]
            exact cursorNumber_succ (hne seq hmem) _
          · rw [Finmap.lookup_insert_of_ne _ hid, Function.update_of_ne hid]
            exact h seq hmem
  | reset id =>
      unfold cursorStep
      by_cases hid : seq.id = id
      · subst hid
        simp [cursorNumber_zero]
      · simp only [Finmap.lookup_erase_ne hid, Function.update_of_ne hid]
        exact h seq hmem

/-- Under the invariant a call obeys the law exactly when its cursor points
at the right response. -/
theorem obeysLaw_iff (hdistinct : (seqs.map (·.id)).Nodup)
    (hne : ∀ seq ∈ seqs, seq.responses ≠ []) (s : CursorState) (a : CursorAction)
    (h : CursorInv seqs s) : ObeysLaw env seqs s a ↔ PointsRight env seqs s a := by
  cases a with
  | reset id =>
      constructor
      · intro _ method uri seq ha
        cases ha
      · intro _ method uri ha
        cases ha
  | call method uri =>
      have hothers : ∀ seq ∈ seqs, matchSequence env seqs method uri ≠ some seq →
          (cursorStep env seqs s (.call method uri)).1.counters.lookup seq.id
            = s.counters.lookup seq.id := by
        intro seq hmem hother
        refine lookup_findSequenceResponse s.counters fun seq' hmatch _ hid => hother ?_
        rw [hmatch, List.inj_on_of_nodup_map hdistinct hmem (mem_of_matchSequence hmatch) hid]
      have hcall : ∀ seq, matchSequence env seqs method uri = some seq →
          (cursorStep env seqs s (.call method uri)).2
            = seq.responses[cursorIndex seq (s.answered seq.id)]? := by
        intro seq hmatch
        have hmem := mem_of_matchSequence hmatch
        obtain ⟨response, hget, hfind⟩ :=
          findSequenceResponse_of_match s.counters hmatch (hne seq hmem)
        unfold cursorStep cursorIndex
        simp only [hfind]
        rw [← h seq hmem, hget]
      constructor
      · intro hlaw method' uri' seq ha hmatch
        cases ha
        obtain ⟨response, hget, hout⟩ := (hlaw method uri rfl).1 seq hmatch
        rw [hget, ← hout, hcall seq hmatch]
      · intro hright method' uri' ha
        cases ha
        refine ⟨fun seq hmatch => ?_, hothers⟩
        have hpos : 0 < seq.responses.length :=
          List.length_pos_of_ne_nil (hne seq (mem_of_matchSequence hmatch))
        have hlt : lawIndex seq (s.answered seq.id) < seq.responses.length := by
          unfold lawIndex
          split
          · exact Nat.mod_lt _ hpos
          · omega
        refine ⟨_, List.getElem?_eq_getElem hlt, ?_⟩
        rw [hcall seq hmatch, hright method uri seq rfl hmatch, List.getElem?_eq_getElem hlt]

variable (env seqs)

/-- In every run each call obeys the law exactly when at each call the
cursor, which wraps at 2^32, points at the response the count points at. -/
theorem cursor_law_iff (hdistinct : (seqs.map (·.id)).Nodup)
    (hne : ∀ seq ∈ seqs, seq.responses ≠ []) (actions : List CursorAction) :
    Machine.AlongO (cursorStep env seqs) (ObeysLaw env seqs) CursorState.start actions
      ↔ Machine.AlongO (cursorStep env seqs) (PointsRight env seqs) CursorState.start
        actions :=
  Machine.alongO_congr (cursorInv_step hdistinct hne) (obeysLaw_iff hdistinct hne)
    cursorInv_start

-- ============================================================= short runs

variable {env seqs}

/-- Below 2^32 calls the number is the count. -/
theorem cursorIndex_eq_lawIndex {seq : MockSequence} (hne : seq.responses ≠ []) {k : Nat}
    (hk : k < 2 ^ 32) : cursorIndex seq k = lawIndex seq k := by
  have hpos : 0 < seq.responses.length := List.length_pos_of_ne_nil hne
  unfold cursorIndex cursorNumber lawIndex
  cases seq.loopResponses with
  | false =>
      simp only [Bool.false_eq_true, if_false]
      rw [Nat.mod_eq_of_lt hk]
  | true =>
      simp only [if_true]
      have hlt : k % seq.responses.length < seq.responses.length := Nat.mod_lt _ hpos
      rcases Nat.le_total seq.responses.length (2 ^ 32) with hle | hle
      · rw [Nat.min_eq_left hle]
        omega
      · rw [Nat.min_eq_right hle, Nat.mod_eq_of_lt hk,
          Nat.mod_eq_of_lt (show k < seq.responses.length by omega)]
        omega

variable (env seqs) in
theorem answered_cursorStep_le (s : CursorState) (a : CursorAction) (id : Text) :
    (cursorStep env seqs s a).1.answered id ≤ s.answered id + 1 := by
  cases a with
  | call method uri =>
      unfold cursorStep
      cases hmatch : matchSequence env seqs method uri with
      | none =>
          simp only [hmatch]
          omega
      | some seq =>
          simp only [hmatch]
          by_cases hid : id = seq.id
          · subst hid
            simp
          · simp [Function.update_of_ne hid]
  | reset id' =>
      unfold cursorStep
      by_cases hid : id = id'
      · subst hid
        simp
      · simp [Function.update_of_ne hid]

/-- A run of at most 2^32 calls wraps no cursor. -/
theorem pointsRight_of_short (hne : ∀ seq ∈ seqs, seq.responses ≠ []) :
    ∀ (actions : List CursorAction) (s : CursorState),
      (∀ id, s.answered id + actions.length ≤ 2 ^ 32) →
      Machine.AlongO (cursorStep env seqs) (PointsRight env seqs) s actions := by
  intro actions
  induction actions with
  | nil => intro s _; trivial
  | cons a actions ih =>
      intro s hshort
      refine ⟨?_, ih _ fun id => ?_⟩
      · intro method uri seq _ hmatch
        have hlen := hshort seq.id
        rw [List.length_cons] at hlen
        rw [cursorIndex_eq_lawIndex (hne seq (mem_of_matchSequence hmatch))
          (show s.answered seq.id < 2 ^ 32 by omega)]
      · have hle := answered_cursorStep_le env seqs s a id
        have hlen := hshort id
        rw [List.length_cons] at hlen
        omega

end Cursor

-- ========================================================= one retry sequence

/-- Down once, then up. -/
def retrySequence : MockSequence where
  id := "retry"
  method := "GET"
  uri := "/a"
  responses := [⟨503, ∅, "down", 0⟩, ⟨200, ∅, "up", 0⟩]
  loopResponses := false

/-- A rotation of three. -/
def cycleSequence : MockSequence where
  id := "cycle"
  method := "GET"
  uri := "/b"
  responses := [⟨200, ∅, "one", 0⟩, ⟨200, ∅, "two", 0⟩, ⟨200, ∅, "three", 0⟩]
  loopResponses := true

/-- Two cursors side by side, one of them reset on the way. -/
theorem cursor_law_retry_cycle :
    Machine.AlongO (cursorStep default [retrySequence, cycleSequence])
      (ObeysLaw default [retrySequence, cycleSequence]) CursorState.start
      [.call "GET" "/a", .call "GET" "/b", .call "GET" "/a", .reset "retry",
        .call "GET" "/a", .call "GET" "/b"] :=
  (cursor_law_iff default [retrySequence, cycleSequence] (by decide) (by decide) _).mpr
    (pointsRight_of_short (by decide) _ _ (by intro id; simp [CursorState.start]))

theorem answered_replicate (n : Nat) (s : CursorState) :
    (Machine.run (fun s a => (cursorStep default [retrySequence] s a).1) s
        (List.replicate n (.call "GET" "/a"))).answered "retry"
      = s.answered "retry" + n := by
  induction n generalizing s with
  | zero => rfl
  | succ n ih =>
      have hmatch : matchSequence default [retrySequence] "GET" "/a" = some retrySequence := by
        decide
      have hstep : (cursorStep default [retrySequence] s (.call "GET" "/a")).1.answered "retry"
          = s.answered "retry" + 1 := by
        unfold cursorStep
        simp only [hmatch]
        exact Function.update_self ..
      rw [List.replicate_succ]
      show (Machine.run _ (cursorStep default [retrySequence] s (.call "GET" "/a")).1 _).answered
        "retry" = _
      rw [ih, hstep]
      omega

/-- After 2^32 calls the number is zero again, and a client that has long
been answered the last response gets the first. -/
theorem wrapped_cursor_starts_over :
    ¬ ∀ (env : Externals) (seqs : List MockSequence), (seqs.map (·.id)).Nodup →
      (∀ seq ∈ seqs, seq.responses ≠ []) → ∀ actions : List CursorAction,
      Machine.AlongO (cursorStep env seqs) (ObeysLaw env seqs) CursorState.start actions := by
  intro h
  have hdistinct : ([retrySequence].map (·.id)).Nodup := by decide
  have hne : ∀ seq ∈ [retrySequence], seq.responses ≠ [] := by decide
  have hmatch : matchSequence default [retrySequence] "GET" "/a" = some retrySequence := by
    decide
  obtain ⟨n, hn⟩ : ∃ n, n = 2 ^ 32 := ⟨_, rfl⟩
  have hrun := h default [retrySequence] hdistinct hne
    (List.replicate n (.call "GET" "/a") ++ [.call "GET" "/a"])
  have hlast := (Machine.alongO_append.mp hrun).2.1
  have hstep : ∀ s a, CursorInv [retrySequence] s →
      CursorInv [retrySequence] (cursorStep default [retrySequence] s a).1 :=
    cursorInv_step hdistinct hne
  have hinv := Machine.run_invariant hstep
    cursorInv_start (List.replicate n (.call "GET" "/a"))
  have hpoints := (obeysLaw_iff hdistinct hne _ _ hinv).mp hlast _ _ _ rfl hmatch
  have hanswered := answered_replicate n CursorState.start
  have hid : retrySequence.id = "retry" := rfl
  rw [hid, hanswered] at hpoints
  have hlaw : lawIndex retrySequence (CursorState.start.answered "retry" + n) = 1 := by
    simp [lawIndex, retrySequence, CursorState.start, hn]
  have hcursor : cursorIndex retrySequence (CursorState.start.answered "retry" + n) = 0 := by
    simp [cursorIndex, cursorNumber, retrySequence, CursorState.start, hn]
  rw [hlaw, hcursor] at hpoints
  exact absurd hpoints (by decide)

end GostlyProxy
