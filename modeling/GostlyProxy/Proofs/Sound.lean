/-
An exact hit and the request it was recorded from.

Every entry of a library that only requests wrote to was recorded by one of
them (`recordedBy_of_lookup`). The key it is found under is the requests'
service, tenant, method and normalised target, and normalising a target
loses neither its path nor the values of its parameters, so an entry found
under a request's key was recorded from a request to the same target. The
bodies are compared as decoded text: `exact_hits_sound_iff` says for which
bytes that is enough.
-/
import GostlyProxy.Model.Tasks
import GostlyProxy.Proofs.Keys
import GostlyProxy.Proofs.Replay

namespace GostlyProxy

open Lib

-- ====================================================== runs of requests

section Sound

variable (env : Externals) (cfg : Config)

/-- The program after a run of requests. -/
def afterRequests (st : AppState) (requests : List RoutedRequest) : AppState :=
  Machine.run (fun s r => (handle env cfg (r.setup s) r.call).1) st requests

theorem afterRequests_append_singleton (st : AppState) (requests : List RoutedRequest)
    (r : RoutedRequest) :
    afterRequests env cfg st (requests ++ [r])
      = (handle env cfg (r.setup (afterRequests env cfg st requests)) r.call).1 := by
  unfold afterRequests Machine.run
  rw [List.foldl_append, List.foldl_cons, List.foldl_nil]

/-- The entry is the recording of one request of the run, made in a context. -/
structure RecordedBy (st : AppState) (requests : List RoutedRequest) (r : RoutedRequest)
    (ctx : RequestContext) (e : MockEntry) : Prop where
  among : ∃ before after, requests = before ++ r :: after ∧ ∃ res,
    Recorded env cfg (r.setup (afterRequests env cfg st before)) r.call ctx res
      ∧ e = learnEntry env cfg r.call ctx res

/-- The target of a request, as it was sent. -/
def target (req : Request) : Text := req.pathAndQuery.getD ("/" : Text)

/-- The same path and, for every parameter but the tenant's, the same list
of values. -/
structure SameTarget (req req' : Request) : Prop where
  path : Text.before '?' (target req) = Text.before '?' (target req')
  query : ∀ key : Text, key ≠ "_tenant" →
    queryValues (target req) key = queryValues (target req') key

/-- The entry was recorded from a request to the same service and tenant,
with the same method, target and body. -/
def SoundHit (st : AppState) (requests : List RoutedRequest) (call : Call)
    (ctx : RequestContext) (e : MockEntry) : Prop :=
  ∃ r ctx₀, RecordedBy env cfg st requests r ctx₀ e
    ∧ ctx₀.svcKey = ctx.svcKey ∧ ctx₀.tenant = ctx.tenant
    ∧ r.call.request.method = call.request.method
    ∧ SameTarget r.call.request call.request
    ∧ r.call.request.body = call.request.body

variable {env cfg}

theorem RecordedBy.mono {st : AppState} {requests : List RoutedRequest} {r : RoutedRequest}
    {ctx : RequestContext} {e : MockEntry}
    (h : RecordedBy env cfg st requests r ctx e) (later : List RoutedRequest) :
    RecordedBy env cfg st (requests ++ later) r ctx e := by
  obtain ⟨before, after, rfl, hrec⟩ := h.among
  exact ⟨before, after ++ later, by simp, hrec⟩

-- ================================================= what the library holds

/-- What a request publishes is its recording. -/
theorem recorded_of_published {st : AppState} {call : Call} {p : Text × MockEntry}
    (h : published env cfg st call = some p) :
    ∃ ctx res, Recorded env cfg st call ctx res
      ∧ p = (ctx.svcKey, learnEntry env cfg call ctx res) := by
  cases requestCase env cfg st call with
  | tooLarge hlarge =>
      rw [published, collectBody, if_neg (Nat.not_le.mpr hlarge)] at h
      cases h
  | noTenant hfits hnone =>
      rw [published, collectBody, if_pos hfits, Option.bind_some, requestContext_eq,
        hnone] at h
      cases h
  | dispatched ctx mode hdisp =>
      rw [hdisp.published] at h
      by_cases hmode : mode = .learn
      · subst hmode
        rw [if_pos rfl, Option.map_eq_some_iff] at h
        obtain ⟨res, hres, rfl⟩ := h
        exact ⟨ctx, res, ⟨hdisp, hres⟩, rfl⟩
      · rw [if_neg hmode] at h
        cases h

variable (env cfg) in
theorem wellFormed_afterRequests {st : AppState} (hnew : st.mocks = MockLibrary.new)
    (requests : List RoutedRequest) :
    (afterRequests env cfg st requests).mocks.WellFormed := by
  refine Machine.run_invariant (I := fun s : AppState => s.mocks.WellFormed) ?_ ?_ requests
  · intro s r hs
    have hset : (r.setup s).mocks.WellFormed := hs
    exact wellFormed_handle hset
  · rw [hnew]
    exact MockLibrary.wellFormed_new

/-- Every entry was recorded by a request of the run, under the service and
the key it is found under. -/
theorem recordedBy_of_lookup {st : AppState} (hnew : st.mocks = MockLibrary.new)
    {requests : List RoutedRequest} {svc : Text} {key : MockKey} {e : MockEntry}
    (h : ((afterRequests env cfg st requests).mocks.mocksOf svc).lookup key = some e) :
    ∃ r ctx, RecordedBy env cfg st requests r ctx e ∧ ctx.svcKey = svc ∧ e.key = key := by
  induction requests using List.reverseRecOn with
  | nil =>
      have hempty : (afterRequests env cfg st []).mocks = MockLibrary.new := hnew
      rw [hempty, MockLibrary.mocksOf_new, Finmap.lookup_empty] at h
      cases h
  | append_singleton requests r ih =>
      have hearlier : ((afterRequests env cfg st requests).mocks.mocksOf svc).lookup key
            = some e →
          ∃ r' ctx, RecordedBy env cfg st (requests ++ [r]) r' ctx e
            ∧ ctx.svcKey = svc ∧ e.key = key := by
        intro hlook
        obtain ⟨r', ctx, hby, hsvc, hkey⟩ := ih hlook
        exact ⟨r', ctx, hby.mono [r], hsvc, hkey⟩
      rw [afterRequests_append_singleton, handle_mocks] at h
      cases hpub : published env cfg (r.setup (afterRequests env cfg st requests)) r.call with
      | none =>
          rw [hpub] at h
          exact hearlier h
      | some p =>
          obtain ⟨ctx, res, hrec, rfl⟩ := recorded_of_published hpub
          rw [hpub] at h
          dsimp only at h
          rw [MockLibrary.mocksOf_publish] at h
          by_cases hsvc : svc = ctx.svcKey
          · rw [if_pos hsvc] at h
            by_cases hkey : key = (learnEntry env cfg r.call ctx res).key
            · rw [hkey, Finmap.lookup_insert, Option.some.injEq] at h
              subst h
              exact ⟨r, ctx, ⟨requests, [], rfl, res, hrec, rfl⟩, hsvc.symm, hkey.symm⟩
            · rw [Finmap.lookup_insert_of_ne _ hkey, ← hsvc] at h
              exact hearlier h
          · rw [if_neg hsvc] at h
            exact hearlier h

-- ====================================================== the served entry

/-- Looking a target up does not confuse it with another. -/
theorem lookupUri_same (req : Request) :
    Text.before '?' (lookupUri req) = Text.before '?' (target req)
      ∧ ∀ key : Text, key ≠ "_tenant" →
        queryValues (lookupUri req) key = queryValues (target req) key := by
  unfold lookupUri
  constructor
  · exact (normalizeUri_same _ []).1.trans
      (stripTenantParam_same _ (List.cons_ne_nil _ _).symm).1
  · intro key hkey
    exact (normalizeUri_same _ key).2.trans (stripTenantParam_same _ hkey).2

theorem sameTarget_of_lookupUri {req req' : Request}
    (h : lookupUri req = lookupUri req') : SameTarget req req' where
  path := by rw [← (lookupUri_same req).1, h, (lookupUri_same req').1]
  query := by
    intro key hkey
    rw [← (lookupUri_same req).2 key hkey, h, (lookupUri_same req').2 key hkey]

/-- An answer of the exact layer is one entry's, found under the request's
key and with the request's body. -/
theorem answeredExactly_of_served {st : AppState} {call : Call} {s : Served}
    (h : (handle env cfg st call).2 = .served .exact s) :
    ∃ ctx e, Dispatched env cfg st call ctx .mock ∧ AnsweredExactly call ctx e
      ∧ s = servedEntry env call xGhostMock e := by
  cases requestCase env cfg st call with
  | tooLarge hlarge =>
      rw [handle_tooLarge hlarge] at h
      cases h
  | noTenant hfits hnone =>
      rw [handle_noTenant hfits hnone] at h
      cases h
  | dispatched ctx mode hdisp =>
      cases mode with
      | mock =>
          rw [handle_mock hdisp, mockBranch_exact_iff] at h
          obtain ⟨e, hfind, hbody, hserve⟩ := h
          cases hserve
          exact ⟨ctx, e, hdisp, ⟨hfind, hbody⟩, rfl⟩
      | learn =>
          cases hres : call.upstream (forwarded call ctx) with
          | none =>
              rw [handle_noUpstream hdisp hres] at h
              cases h
          | some res =>
              rw [handle_learn hdisp hres] at h
              cases h
      | transitioning =>
          rw [handle_transitioning hdisp] at h
          cases h
      | passthrough =>
          rw [handle_passthrough hdisp, passthroughAnswer] at h
          cases hres : call.upstream (forwarded call ctx) with
          | none =>
              rw [hres] at h
              cases h
          | some res =>
              rw [hres] at h
              cases h

/-- A hit is sound but for the body, which was only compared as text. -/
theorem recordedBy_of_answeredExactly {st : AppState} (hnew : st.mocks = MockLibrary.new)
    {requests : List RoutedRequest} {m : RoutedRequest} {ctx : RequestContext}
    {e : MockEntry}
    (hdisp : Dispatched env cfg (m.setup (afterRequests env cfg st requests)) m.call ctx
      .mock)
    (hanswered : AnsweredExactly m.call ctx e) :
    ∃ r ctx₀, RecordedBy env cfg st requests r ctx₀ e
      ∧ ctx₀.svcKey = ctx.svcKey ∧ ctx₀.tenant = ctx.tenant
      ∧ r.call.request.method = m.call.request.method
      ∧ SameTarget r.call.request m.call.request
      ∧ Utf8.fromUtf8Lossy r.call.request.body = Utf8.fromUtf8Lossy m.call.request.body := by
  have hwf := wellFormed_afterRequests env cfg hnew requests
  have hfind := hanswered.find
  rw [hdisp.library] at hfind
  have hlook := (MockLibrary.findExact_eq hwf m.call.order ctx.svcKey ctx.method
    ctx.pathQuery ctx.tenant).symm.trans hfind
  obtain ⟨r, ctx₀, hby, hsvc, hkey⟩ := recordedBy_of_lookup hnew hlook
  refine ⟨r, ctx₀, hby, hsvc, ?_⟩
  obtain ⟨before, after, -, res, hrec, rfl⟩ := hby.among
  rw [key_learnEntry, Prod.mk.injEq, Prod.mk.injEq] at hkey
  obtain ⟨hmethod, huri, htenant⟩ := hkey
  have hbody := hrec.body_learnEntry.symm.trans hanswered.body
  obtain ⟨tenant₀, -, rfl⟩ := requestContext_some hrec.context
  obtain ⟨tenant, -, rfl⟩ := requestContext_some hdisp.context
  exact ⟨htenant, hmethod, sameTarget_of_lookupUri huri, hbody⟩

variable (env)

/-- Every exact hit of a request with this body is sound, whatever was
recorded before. -/
def EveryHitSound (body : Bytes) : Prop :=
  ∀ (cfg : Config) (st : AppState) (requests : List RoutedRequest) (m : RoutedRequest)
    (s : Served),
    st.mocks = MockLibrary.new → m.call.request.body = body →
    (handle env cfg (m.setup (afterRequests env cfg st requests)) m.call).2
      = .served .exact s →
    ∃ ctx e, Dispatched env cfg (m.setup (afterRequests env cfg st requests)) m.call ctx
        .mock
      ∧ AnsweredExactly m.call ctx e ∧ s = servedEntry env m.call xGhostMock e
      ∧ SoundHit env cfg st requests m.call ctx e

-- ========================================================== one collision

/-- An upload to one target. -/
def postA (body : Bytes) : Request where
  method := "POST"
  pathAndQuery := some "/a"
  headers := []
  body := body

/-- The upload in a mode, without routes. -/
noncomputable def routedPostA (mode : Mode) (body : Bytes) : RoutedRequest where
  mode := mode
  upstreams := []
  call := Call.plain default (postA body) (some byteAnswer)

variable (cfg)

theorem dispatched_postA (st : AppState) (mode : Mode) {body : Bytes}
    (hfits : body.length ≤ cfg.maxBodyBytes) :
    Dispatched env cfg ((routedPostA mode body).setup st) (routedPostA mode body).call
      (contextFor env cfg ((routedPostA mode body).setup st) (postA body) body globalTenant)
      mode :=
  dispatched_of_unrouted hfits rfl rfl rfl

/-- A recorded upload answers every upload that decodes to the same text. -/
theorem upload_answers_alike (body body' : Bytes)
    (hfits : body.length ≤ cfg.maxBodyBytes) (hfits' : body'.length ≤ cfg.maxBodyBytes)
    (halike : Utf8.fromUtf8Lossy body' = Utf8.fromUtf8Lossy body) :
    ∃ s, (handle env cfg ((routedPostA .mock body).setup
        (afterRequests env cfg recordingProxy [routedPostA .learn body']))
      (routedPostA .mock body).call).2 = .served .exact s := by
  have hrec : Recorded env cfg ((routedPostA .learn body').setup recordingProxy)
      (routedPostA .learn body').call _ byteAnswer :=
    ⟨dispatched_postA env cfg recordingProxy .learn hfits', rfl⟩
  have hmock := dispatched_postA env cfg
    (afterRequests env cfg recordingProxy [routedPostA .learn body']) .mock hfits
  obtain ⟨e, he⟩ : ∃ e, e = learnEntry env cfg (routedPostA .learn body').call
    (contextFor env cfg ((routedPostA .learn body').setup recordingProxy) (postA body')
      body' globalTenant) byteAnswer := ⟨_, rfl⟩
  have hmocks : ((routedPostA .mock body).setup
        (afterRequests env cfg recordingProxy [routedPostA .learn body'])).mocks
      = MockLibrary.new.publish globalTenant e := by
    rw [he]
    exact hrec.mocks.trans (by rw [svcKey_contextFor env cfg rfl]; rfl)
  refine ⟨servedEntry env (routedPostA .mock body).call xGhostMock e, ?_⟩
  rw [handle_mock hmock]
  refine (mockBranch_exact_iff env cfg _ _ _ _).mpr ⟨e, ?_, ?_, rfl⟩
  · rw [hmock.library, hmocks,
      MockLibrary.findExact_eq (MockLibrary.wellFormed_new.publish _ _),
      MockLibrary.mocksOf_publish, svcKey_contextFor env cfg rfl, if_pos rfl, he]
    exact Finmap.lookup_insert _
  · rw [he, hrec.body_learnEntry]
    exact halike

/-- Nothing else was recorded than the upload. -/
theorem not_soundHit_of_ne {body body' : Bytes} (hne : body' ≠ body) (ctx : RequestContext)
    (e : MockEntry) :
    ¬ SoundHit env cfg recordingProxy [routedPostA .learn body'] (routedPostA .mock body).call
      ctx e := by
  rintro ⟨r, ctx₀, hby, -, -, -, -, hbody⟩
  obtain ⟨before, after, hrun, -⟩ := hby.among
  have hr : r ∈ [routedPostA .learn body'] := by
    rw [hrun]
    exact List.mem_append_right _ (List.mem_cons_self ..)
  rw [List.mem_singleton] at hr
  subst hr
  exact hne hbody

-- ============================================================ the bodies

/-- Exact hits are sound for the bodies that are the UTF-8 of a text without
the replacement character, and for no others. -/
theorem exact_hits_sound_iff (body : Bytes) :
    EveryHitSound env body ↔ ∃ t : Text, t.utf8 = body ∧ '\uFFFD' ∉ t := by
  rw [← Utf8.decoding_determines_iff]
  constructor
  · intro hsound body' halike
    by_contra hne
    let big : Config := { Config.new with maxBodyBytes := body.length + body'.length }
    obtain ⟨s, hserved⟩ := upload_answers_alike env big body body'
      (Nat.le_add_right _ _) (Nat.le_add_left _ _) halike
    obtain ⟨ctx, e, -, -, -, hhit⟩ := hsound big recordingProxy [routedPostA .learn body']
      (routedPostA .mock body) s rfl rfl hserved
    exact not_soundHit_of_ne env big hne ctx e hhit
  · intro hdetermines cfg st requests m s hnew hbody hserved
    obtain ⟨ctx, e, hdisp, hanswered, hs⟩ := answeredExactly_of_served hserved
    obtain ⟨r, ctx₀, hby, hsvc, htenant, hmethod, htarget, halike⟩ :=
      recordedBy_of_answeredExactly hnew hdisp hanswered
    refine ⟨ctx, e, hdisp, hanswered, hs, r, ctx₀, hby, hsvc, htenant, hmethod, htarget, ?_⟩
    rw [hbody] at halike ⊢
    exact hdetermines _ halike

end Sound

/-- A recorded upload of the byte 0xFF answers an upload of the byte 0xFE. -/
theorem other_byte_answered :
    (∃ s, (handle default Config.new ((routedPostA .mock [0xFE]).setup
          (afterRequests default Config.new recordingProxy [routedPostA .learn [0xFF]]))
        (routedPostA .mock [0xFE]).call).2 = .served .exact s)
      ∧ ¬ EveryHitSound default [0xFE] := by
  have hserved := upload_answers_alike default Config.new [0xFE] [0xFF]
    (by decide) (by decide) (by decide)
  refine ⟨hserved, fun hsound => ?_⟩
  obtain ⟨s, hs⟩ := hserved
  obtain ⟨ctx, e, -, -, -, hhit⟩ := hsound Config.new recordingProxy _ _ s rfl rfl hs
  exact not_soundHit_of_ne default Config.new (by decide) ctx e hhit

end GostlyProxy
