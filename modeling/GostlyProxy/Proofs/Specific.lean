/-
Which of several fitting sequences answers.

`findSequenceResponse` asks the first sequence that has the request's URI or
its path's shape. So one that was made for another URI, or one without
responses, answers in place of the request's own when it stands in front
(`exactSequence_answers_iff`); `find_structural` looks for the exact URI
first.
-/
import GostlyProxy.Proofs.Sequences

namespace GostlyProxy

open Lib

/-- The first to pass `p` passes the stricter `q` unless one that does not
comes before all that do. -/
theorem find?_stricter_iff {α : Type*} {p : α → Bool} {q : α → Prop} {l : List α}
    (hqp : ∀ x, q x → p x = true) :
    ((∃ x ∈ l, q x) → ∃ x, q x ∧ l.find? p = some x)
      ↔ ∀ front x rest, l = front ++ x :: rest → p x = true → (∃ y ∈ rest, q y) →
        q x ∨ ∃ y ∈ front, q y := by
  constructor
  · intro h front x rest hl hpx hrest
    obtain ⟨y, hy, hqy⟩ := hrest
    obtain ⟨z, hqz, hfind⟩ := h ⟨y, by simp [hl, hy], hqy⟩
    rw [hl, List.find?_append, List.find?_cons, hpx] at hfind
    cases hfront : front.find? p with
    | none =>
        rw [hfront, Option.none_or, Option.some.injEq] at hfind
        exact Or.inl (hfind ▸ hqz)
    | some w =>
        rw [hfront, Option.some_or, Option.some.injEq] at hfind
        exact Or.inr ⟨w, List.mem_of_find?_eq_some hfront, hfind ▸ hqz⟩
  · rintro h ⟨y, hy, hqy⟩
    cases hfind : l.find? p with
    | none => exact absurd (hqp y hqy) (List.find?_eq_none.mp hfind y hy)
    | some x =>
        refine ⟨x, ?_, rfl⟩
        obtain ⟨hpx, front, rest, hl, hfront⟩ := List.find?_eq_some_iff_append.mp hfind
        have hnone : ∀ z ∈ front, ¬ q z := by
          intro z hz hqz
          have := hfront z hz
          rw [hqp z hqz] at this
          cases this
        rw [hl, List.mem_append, List.mem_cons] at hy
        rcases hy with hy | rfl | hy
        · exact absurd hqy (hnone y hy)
        · exact hqy
        · rcases h front x rest hl hpx ⟨y, hy, hqy⟩ with hqx | ⟨z, hz, hqz⟩
          · exact hqx
          · exact absurd hqz (hnone z hz)

section Specific

variable (env : Externals)

-- =========================================================== the selection

/-- A sequence for this very method and URI, with something to answer. -/
structure ExactSequence (method uri : Text) (s : MockSequence) : Prop where
  method : s.method = method
  uri : s.uri = uri
  responses : s.responses ≠ []

/-- A sequence `findSequenceResponse` may pick. -/
def fitsSequence (method uri : Text) (s : MockSequence) : Bool :=
  s.method = method && (s.uri = uri || pathsMatch env s.uri uri)

theorem ExactSequence.fits {method uri : Text} {s : MockSequence}
    (h : ExactSequence method uri s) : fitsSequence env method uri s = true := by
  unfold fitsSequence
  simp [h.method, h.uri]

/-- An exact sequence is asked: the request gets one of its responses, and
its cursor alone moves on. -/
def AnsweredByExact (seqs : List MockSequence) (counters : HashMap Text UInt32)
    (method uri : Text) : Prop :=
  ∃ s ∈ seqs, ExactSequence method uri s ∧ matchSequence env seqs method uri = some s
    ∧ (∃ response ∈ s.responses,
      (findSequenceResponse env seqs counters method uri).2 = some response)
    ∧ (findSequenceResponse env seqs counters method uri).1.lookup s.id
      = some (if s.loopResponses
          then UInt32.ofNat ((((counters.lookup s.id).getD 0).toNat + 1) % s.responses.length)
          else UInt32.ofNat (((counters.lookup s.id).getD 0).toNat + 1))
    ∧ ∀ id ≠ s.id, (findSequenceResponse env seqs counters method uri).1.lookup id
      = counters.lookup id

/-- A call that picks an exact sequence is answered by it. -/
theorem answeredByExact_iff (seqs : List MockSequence) (counters : HashMap Text UInt32)
    (method uri : Text) :
    AnsweredByExact env seqs counters method uri
      ↔ ∃ s, ExactSequence method uri s ∧ matchSequence env seqs method uri = some s := by
  constructor
  · rintro ⟨s, -, hexact, hmatch, -⟩
    exact ⟨s, hexact, hmatch⟩
  · rintro ⟨s, hexact, hmatch⟩
    obtain ⟨response, hget, hfind⟩ :=
      findSequenceResponse_of_match counters hmatch hexact.responses
    refine ⟨s, mem_of_matchSequence hmatch, hexact, hmatch, ?_⟩
    rw [hfind]
    refine ⟨⟨response, List.mem_of_getElem? hget, rfl⟩, ?_, ?_⟩
    · exact Finmap.lookup_insert _
    · intro id hid
      exact Finmap.lookup_insert_of_ne _ hid

/-- The exact sequences of a request keep it exactly when no sequence that
fits it otherwise comes before all of them. -/
theorem exactSequence_answers_iff (seqs : List MockSequence) (counters : HashMap Text UInt32)
    (method uri : Text) :
    ((∃ s ∈ seqs, ExactSequence method uri s) → AnsweredByExact env seqs counters method uri)
      ↔ ∀ (front : List MockSequence) (t : MockSequence) (rest : List MockSequence),
        seqs = front ++ t :: rest → fitsSequence env method uri t = true →
        (∃ s ∈ rest, ExactSequence method uri s) →
        ExactSequence method uri t ∨ ∃ s ∈ front, ExactSequence method uri s := by
  rw [answeredByExact_iff]
  exact find?_stricter_iff fun s hs => hs.fits env

end Specific

-- ========================================================= two sequences

def goneResponse : SequenceResponse where
  status := 404
  headers := ∅
  body := "gone"
  latencyMs := 0

/-- What one user is answered with, before what another is. -/
def otherUserFirst : List MockSequence :=
  [{ id := "other", method := "GET", uri := "/users/1", responses := [goneResponse],
     loopResponses := false },
   { id := "own", method := "GET", uri := "/users/2",
     responses := [{ goneResponse with status := 200, body := "here" }],
     loopResponses := false }]

/-- The second user has a sequence, and is answered with the first one's
response, which is not in it. -/
theorem other_sequence_answers :
    (∃ s ∈ otherUserFirst, ExactSequence "GET" "/users/2" s)
      ∧ ¬ AnsweredByExact default otherUserFirst ∅ "GET" "/users/2"
      ∧ (findSequenceResponse default otherUserFirst ∅ "GET" "/users/2").2 = some goneResponse
      ∧ ∀ s ∈ otherUserFirst, ExactSequence "GET" "/users/2" s → goneResponse ∉ s.responses := by
  have hanswer : (findSequenceResponse default otherUserFirst ∅ "GET" "/users/2").2
      = some goneResponse := by decide
  have hother : ∀ s ∈ otherUserFirst, s.uri = "/users/2" → goneResponse ∉ s.responses := by
    decide
  have hown : ∀ s ∈ otherUserFirst, ExactSequence "GET" "/users/2" s →
      goneResponse ∉ s.responses := fun s hs hexact => hother s hs hexact.uri
  refine ⟨?_, ?_, hanswer, hown⟩
  · exact ⟨otherUserFirst[1], by decide, by decide, by decide, by decide⟩
  · rintro ⟨s, hs, hexact, -, ⟨response, hmem, hresponse⟩, -⟩
    rw [hanswer, Option.some.injEq] at hresponse
    rw [← hresponse] at hmem
    exact hown s hs hexact hmem

end GostlyProxy
