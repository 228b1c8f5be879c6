/-
A posted sequence, up to the first request it answers.

`handle_create_sequence` writes the definition and not the cursor, so the
posted sequence starts where the cursor of its id stands. A later run that
leaves the id alone moves that cursor only by a reset
(`lookup_cursor_after`); the first request the sequence answers reads it
(`created_starts_first_iff`). An id that is no sequence's has no cursor
(`CursorsOwned`), so a new sequence does start at the front.
-/
import GostlyProxy.Proofs.Codec
import GostlyProxy.Proofs.LibraryRuns
import GostlyProxy.Proofs.Sequences

namespace GostlyProxy

open Lib

section Created

variable (env : Externals) (cfg : Config) (codec : EntryCodec)

/-- The request is answered by a sequence, with one of its responses. -/
structure AnsweredBySequence (st : AppState) (call : Call) (ctx : RequestContext)
    (seq : MockSequence) (response : SequenceResponse) : Prop
    extends Dispatched env cfg st call ctx .mock where
  exact : ExactSilent call ctx
  matched : matchSequence env st.sequences ctx.method ctx.pathQuery = some seq
  response : (findSequenceResponse env st.sequences st.sequenceCounters ctx.method
    ctx.pathQuery).2 = some response

/-- Neither posted, deleted nor answered from. -/
def LeavesAlone (id : Text) (st : AppState) : LibraryAction → Prop
  | .request mode upstreams call => ∀ ctx seq response,
      AnsweredBySequence env cfg { st with mode := mode, upstreams := upstreams } call ctx
        seq response → seq.id ≠ id
  | .admin (.createSequence seq) => seq.id ≠ id
  | .admin (.deleteSequence id') => id' ≠ id
  | _ => True

def isResetOf (id : Text) : LibraryAction → Bool
  | .admin (.resetSequence id') => id' = id
  | _ => false

variable {env cfg codec}

theorem AnsweredBySequence.answer {st : AppState} {call : Call} {ctx : RequestContext}
    {seq : MockSequence} {response : SequenceResponse}
    (h : AnsweredBySequence env cfg st call ctx seq response) :
    (handle env cfg st call).2 = serveSequence env call response := by
  rw [handle_mock h.toDispatched,
    (MockOutcome.sequence _ response h.exact (Prod.ext rfl h.response) :
      MockOutcome env cfg call ctx st _ _).eq]

/-- A request that is not answered from the sequence leaves its cursor. -/
theorem lookup_cursor_request {st : AppState} {call : Call} {id : Text}
    (h : ∀ ctx seq response, AnsweredBySequence env cfg st call ctx seq response →
      seq.id ≠ id) :
    (handle env cfg st call).1.sequenceCounters.lookup id = st.sequenceCounters.lookup id := by
  have hwrites : ¬ Writes env cfg st call (.cursor id) := by
    intro hw
    cases hw with
    | mock ctx c hdisp hc =>
        cases hc with
        | cursor seq hexact hmatch hne =>
            obtain ⟨response, -, hfind⟩ :=
              findSequenceResponse_of_match st.sequenceCounters hmatch hne
            exact h ctx seq response ⟨hdisp, hexact, hmatch, by rw [hfind]⟩ rfl
    | capture c hreplaces =>
        cases hreplaces with
        | capture ctx res c hdisp hres task hmem hcell =>
            cases task with
            | captureCreate svcKey coll body ct status =>
                unfold Spawned.cell at hcell
                obtain ⟨id', -, heq⟩ := Option.map_eq_some_iff.mp hcell
                cases heq
            | appendTrafficLog => cases hcell
            | appendMockLog => cases hcell
            | appendWideEvent => cases hcell
  exact CellContent.cursor.inj (content_handle hwrites)

theorem lookup_cursor_step {st : AppState} {a : LibraryAction} {id : Text}
    (h : LeavesAlone env cfg id st a) :
    (libraryStep env cfg codec st a).sequenceCounters.lookup id
      = if isResetOf id a then none else st.sequenceCounters.lookup id := by
  cases a with
  | request mode upstreams call => exact lookup_cursor_request h
  | createMock entry => rfl
  | reloadFull rs dir => rfl
  | reloadOneFile rs dir fname => rfl
  | admin call =>
      cases call with
      | setMode mode => rfl
      | setConfig status body => rfl
      | setUpstreams upstreams => rfl
      | createSequence seq => rfl
      | resetSequence id' =>
          by_cases hid : id' = id
          · subst hid
            simp [libraryStep, handleAdmin, handleResetSequence, isResetOf]
          · simp [libraryStep, handleAdmin, handleResetSequence, isResetOf, hid, Ne.symm hid]
      | deleteSequence id' =>
          have hid : id ≠ id' := Ne.symm h
          simp [libraryStep, handleAdmin, handleDeleteSequence, isResetOf, hid]

/-- Through a run that leaves the sequence alone its cursor stays, but for a
reset. -/
theorem lookup_cursor_after {id : Text} :
    ∀ {later : List LibraryAction} {st : AppState},
      Machine.AlongT (libraryStep env cfg codec) (LeavesAlone env cfg id) st later →
      (Machine.run (libraryStep env cfg codec) st later).sequenceCounters.lookup id
        = if later.any (isResetOf id) then none else st.sequenceCounters.lookup id := by
  intro later
  induction later with
  | nil => intro st _; rfl
  | cons a later ih =>
      intro st halone
      show (Machine.run (libraryStep env cfg codec) (libraryStep env cfg codec st a)
        later).sequenceCounters.lookup id = _
      rw [ih halone.2, lookup_cursor_step halone.1, List.any_cons]
      cases isResetOf id a <;> cases later.any (isResetOf id) <;> rfl

variable (env cfg codec)

/-- The first request that a posted sequence answers gets a response of it:
the first one exactly when the id was reset in between, or had no cursor
when it was posted, or one that points at the same response. -/
theorem created_starts_first_iff (st : AppState) (seq : MockSequence)
    (hne : seq.responses ≠ []) (later : List LibraryAction)
    (halone : Machine.AlongT (libraryStep env cfg codec) (LeavesAlone env cfg seq.id)
      (handleCreateSequence st seq).1 later)
    (call : Call) (ctx : RequestContext) (response : SequenceResponse)
    (hfirst : AnsweredBySequence env cfg (Machine.run (libraryStep env cfg codec)
      (handleCreateSequence st seq).1 later) call ctx seq response) :
    (handle env cfg (Machine.run (libraryStep env cfg codec)
        (handleCreateSequence st seq).1 later) call).2 = serveSequence env call response
      ∧ (some response = seq.responses[0]?
        ↔ later.any (isResetOf seq.id) = true
          ∨ seq.responses[min ((st.sequenceCounters.lookup seq.id).getD 0).toNat
            (seq.responses.length - 1)]? = seq.responses[0]?) := by
  refine ⟨hfirst.answer, ?_⟩
  have hcursor := lookup_cursor_after halone
  have hposted : (handleCreateSequence st seq).1.sequenceCounters = st.sequenceCounters := rfl
  obtain ⟨response', hget, hfind⟩ := findSequenceResponse_of_match
    (Machine.run (libraryStep env cfg codec) (handleCreateSequence st seq).1
      later).sequenceCounters hfirst.matched hne
  have hresponse := hfirst.response
  rw [hfind, Option.some.injEq] at hresponse
  subst hresponse
  rw [← hget, hcursor, hposted]
  cases later.any (isResetOf seq.id) with
  | true => simp
  | false => simp

-- ============================================================= new ids

/-- Every cursor is the cursor of a sequence. -/
def CursorsOwned (st : AppState) : Prop :=
  ∀ id, (st.sequenceCounters.lookup id).isSome → ∃ seq ∈ st.sequences, seq.id = id

variable {env cfg codec}

/-- A cursor that is there after another was erased. -/
theorem ne_of_erased {counters : HashMap Text UInt32} {id id' : Text}
    (h : ((counters.erase id').lookup id).isSome) :
    id ≠ id' ∧ (counters.lookup id).isSome := by
  by_cases hid : id = id'
  · subst hid
    rw [Finmap.lookup_erase] at h
    cases h
  · rw [Finmap.lookup_erase_ne hid] at h
    exact ⟨hid, h⟩

theorem cursorsOwned_step (st : AppState) (a : LibraryAction) (h : CursorsOwned st) :
    CursorsOwned (libraryStep env cfg codec st a) := by
  intro id hcursor
  cases a with
  | createMock entry => exact h id hcursor
  | reloadFull rs dir => exact h id hcursor
  | reloadOneFile rs dir fname => exact h id hcursor
  | request mode upstreams call =>
      unfold libraryStep
      rw [(sameSetup_handle env cfg _ call).sequences]
      by_cases hanswered : ∃ ctx seq response, AnsweredBySequence env cfg
          { st with mode := mode, upstreams := upstreams } call ctx seq response
            ∧ seq.id = id
      · obtain ⟨ctx, seq, response, hans, hid⟩ := hanswered
        exact ⟨seq, mem_of_matchSequence hans.matched, hid⟩
      · apply h
        unfold libraryStep at hcursor
        rwa [lookup_cursor_request fun ctx seq response hans hid =>
          hanswered ⟨ctx, seq, response, hans, hid⟩] at hcursor
  | admin call =>
      cases call with
      | setMode mode => exact h id hcursor
      | setConfig status body => exact h id hcursor
      | setUpstreams upstreams => exact h id hcursor
      | createSequence seq =>
          show ∃ s ∈ (st.sequences.filter fun s => s.id ≠ seq.id) ++ [seq], s.id = id
          by_cases hid : seq.id = id
          · exact ⟨seq, by simp, hid⟩
          · obtain ⟨s, hs, hsid⟩ := h id hcursor
            refine ⟨s, ?_, hsid⟩
            simp [hs, hsid, Ne.symm hid]
      | resetSequence id' => exact h id (ne_of_erased hcursor).2
      | deleteSequence id' =>
          show ∃ s ∈ st.sequences.filter fun s => s.id ≠ id', s.id = id
          obtain ⟨hid, hcursor⟩ := ne_of_erased hcursor
          obtain ⟨s, hs, hsid⟩ := h id hcursor
          refine ⟨s, ?_, hsid⟩
          simp [hs, hsid, hid]

/-- In every state the program reaches from a boot, an id that is no
sequence's has no cursor. -/
theorem lookup_cursor_of_new {st : AppState} (hboot : st.sequenceCounters = ∅)
    (actions : List LibraryAction) {id : Text}
    (hnew : ∀ seq ∈ (Machine.run (libraryStep env cfg codec) st actions).sequences,
      seq.id ≠ id) :
    (Machine.run (libraryStep env cfg codec) st actions).sequenceCounters.lookup id = none := by
  have howned : CursorsOwned st := by
    intro id hcursor
    rw [hboot, Finmap.lookup_empty] at hcursor
    cases hcursor
  have hrun : CursorsOwned (Machine.run (libraryStep env cfg codec) st actions) :=
    Machine.run_invariant cursorsOwned_step howned actions
  cases hcursor : (Machine.run (libraryStep env cfg codec) st actions).sequenceCounters.lookup
      id with
  | none => rfl
  | some position =>
      obtain ⟨seq, hmem, hid⟩ := hrun id (by rw [hcursor]; rfl)
      exact absurd hid (hnew seq hmem)

end Created

-- ====================================================== posted once, twice

/-- A request the retry sequence answers. -/
noncomputable def retryCall : Call := Call.plain default ⟨"GET", some "/a", [], []⟩ none

/-- Wherever the library is empty and the retry sequence is the only one,
it answers. -/
theorem answeredByRetry (st : AppState) (response : SequenceResponse) (hmode : st.mode = .mock)
    (hroutes : st.upstreams = []) (hmocks : st.mocks = MockLibrary.new)
    (hseqs : st.sequences = [retrySequence])
    (hnext : (findSequenceResponse default [retrySequence] st.sequenceCounters ("GET" : Text)
      ("/a" : Text)).2 = some response) :
    AnsweredBySequence default Config.new st retryCall
      (contextFor default Config.new st retryCall.request [] globalTenant) retrySequence
      response := by
  have hdisp : Dispatched default Config.new st retryCall
      (contextFor default Config.new st retryCall.request [] globalTenant) .mock :=
    dispatched_of_unrouted (Nat.zero_le _) rfl hroutes hmode
  refine ⟨hdisp, ?_, ?_, ?_⟩
  · intro entry hfind
    have hlib : (contextFor default Config.new st retryCall.request [] globalTenant).library
        = MockLibrary.new := hmocks
    rw [hlib, MockLibrary.findExact_eq MockLibrary.wellFormed_new, MockLibrary.mocksOf_new,
      Finmap.lookup_empty] at hfind
    cases hfind
  · rw [hseqs]
    show matchSequence default [retrySequence] "GET" "/a" = some retrySequence
    decide
  · rw [hseqs]
    exact hnext

/-- Posted to an empty proxy, the sequence starts with the first response. -/
theorem created_starts_first_new :
    ∃ response, some response = retrySequence.responses[0]?
      ∧ (handle default Config.new (handleCreateSequence emptyProxy retrySequence).1
        retryCall).2 = serveSequence default retryCall response := by
  have hfirst := answeredByRetry (handleCreateSequence emptyProxy retrySequence).1
    ⟨503, ∅, "down", 0⟩ rfl rfl rfl rfl rfl
  have h := created_starts_first_iff default Config.new sampleCodec emptyProxy retrySequence
    (by decide) [] trivial retryCall _ _ hfirst
  exact ⟨_, h.2.mpr (Or.inr rfl), h.1⟩

/-- The proxy after the sequence was posted and answered one request. -/
noncomputable def retriedProxy : AppState :=
  Machine.run (libraryStep default Config.new sampleCodec) emptyProxy
    [.admin (.createSequence retrySequence), .request .mock [] retryCall]

/-- Posted again, the sequence goes on with the second response. -/
theorem reposted_sequence_goes_on :
    ¬ ∀ (env : Externals) (cfg : Config) (codec : EntryCodec) (boot : AppState)
        (actions : List LibraryAction) (seq : MockSequence), boot.sequenceCounters = ∅ →
      seq.responses ≠ [] → ∀ (later : List LibraryAction) (call : Call)
        (ctx : RequestContext) (response : SequenceResponse),
      let st := (handleCreateSequence
        (Machine.run (libraryStep env cfg codec) boot actions) seq).1
      Machine.AlongT (libraryStep env cfg codec) (LeavesAlone env cfg seq.id) st later →
      AnsweredBySequence env cfg (Machine.run (libraryStep env cfg codec) st later) call ctx
        seq response →
      some response = seq.responses[0]? := by
  intro h
  have hfirst := answeredByRetry (handleCreateSequence emptyProxy retrySequence).1
    ⟨503, ∅, "down", 0⟩ rfl rfl rfl rfl rfl
  have hretried : retriedProxy = fireFirstMockServed none
      { (handleCreateSequence emptyProxy retrySequence).1 with
        sequenceCounters := (∅ : HashMap Text UInt32).insert "retry" 1 } := by
    show (handle default Config.new (handleCreateSequence emptyProxy retrySequence).1
      retryCall).1 = _
    rw [handle_mock hfirst.toDispatched,
      (MockOutcome.sequence _ _ hfirst.exact (Prod.ext rfl hfirst.response) :
        MockOutcome default Config.new retryCall _ _ _ _).eq]
    rfl
  have hsecond := answeredByRetry (handleCreateSequence retriedProxy retrySequence).1
    ⟨200, ∅, "up", 0⟩ (by rw [hretried]; rfl) (by rw [hretried]; rfl)
    (by rw [hretried]; rfl) (by rw [hretried]; rfl) (by rw [hretried]; rfl)
  have heq := h default Config.new sampleCodec emptyProxy
    [.admin (.createSequence retrySequence), .request .mock [] retryCall] retrySequence rfl
    (by decide) [] retryCall _ _ trivial hsecond
  exact absurd heq (by decide)

end GostlyProxy
