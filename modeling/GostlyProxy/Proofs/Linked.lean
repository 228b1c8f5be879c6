/-
Read your writes, for captured resources.

A transition writes the resource and answers with its new body; the next
GET on the resource's path reads it back through the resource layer. Two
layers stand before that one. With no sequence configured only the exact
layer can answer first, and it does so whenever the library holds an entry
for the GET itself; the resource layer in turn does not take every word for
an id. `get_reads_transition` is read-your-writes off these two cases,
`recorded_get_hides_transition` is what happens in them.
-/
import GostlyProxy.Proofs.Replay

namespace GostlyProxy

open Lib

-- ==================================================== what a resource gives

section Serve

variable (env : Externals) (call : Call)

/-- A response built under the one header of a resource has its body. -/
theorem buildResponse_contentType (status : UInt16) (contentType : Text) (body : Bytes) :
    (buildResponse env call.order status
        (Finmap.singleton ("Content-Type" : Text) contentType) body).body = body
      ∧ (buildResponse env call.order status
        (Finmap.singleton ("Content-Type" : Text) contentType) body).status
        = (StatusCode.fromU16 status).getD StatusCode.ok := by
  have hname : HeaderName.fromBytes "Content-Type" = some contentTypeHeader := by decide
  have hlower : env.toLowercase "Content-Type" = "content-type" := by
    rw [env.toLowercase_ascii _ (by decide)]
    decide
  have hhop : isHopByHop "content-type" = false := by decide
  unfold buildResponse
  rw [call.order.iter_singleton, List.foldl_cons, List.foldl_nil, addHeader, hlower,
    hhop, if_neg Bool.false_ne_true]
  dsimp only
  rw [hname]
  cases HeaderValue.fromBytes (Text.utf8 contentType) with
  | none => exact ⟨rfl, rfl⟩
  | some value => exact ⟨rfl, rfl⟩

/-- A resource is served as 200 with its body printed. -/
theorem serveResource_eq (matchType : MatchType) (key : HeaderName) (value : Text)
    (resource : ResourceState) :
    ∃ s, serveResource env call matchType key value resource = .served matchType s
      ∧ s.response.status = StatusCode.ok
      ∧ s.response.body = Text.utf8 (env.printJson resource.body) := by
  obtain ⟨hbody, hstatus⟩ := buildResponse_contentType env call 200 resource.contentType
    (Text.utf8 (env.printJson resource.body))
  exact ⟨_, rfl, hstatus, hbody⟩

end Serve

-- ============================================================ the transition

section ReadYourWrites

variable {env : Externals} {cfg : Config}

/-- A transition's answer shows the resource it has stored. -/
theorem transition_answered {st : AppState} {call : Call} {ctx : RequestContext}
    {coll id action : Text} {s : Served}
    (htarget : transitionTarget env ctx = some (coll, id, action))
    (h : (mockBranch env cfg call ctx st).2 = .served .resourceTransition s) :
    ∃ resource,
      (mockBranch env cfg call ctx st).1.resourceStore.lookup ctx.svcKey coll id
        = some resource
      ∧ s.response.status = StatusCode.ok
      ∧ s.response.body = Text.utf8 (env.printJson resource.body) := by
  obtain ⟨st', a, hout⟩ := exists_mockOutcome env cfg call ctx st
  rw [hout.eq] at h ⊢
  cases hout with
  | exact => cases h
  | sequence => cases h
  | resource => cases h
  | smartSwap => cases h
  | miss => cases h
  | transition coll' id' action' resource nextState _ _ _ htarget' htrans =>
      rw [htarget] at htarget'
      cases htarget'
      obtain ⟨s', hserve, hstatus, hbody⟩ := serveResource_eq env call .resourceTransition
        xGhostTransition nextState resource
      rw [hserve] at h
      cases h
      refine ⟨resource, ?_, hstatus, hbody⟩
      rw [ResourceStore.lookup_put, if_pos rfl]

/-- The last two segments of a path are the resource's, and its id is one
the parser takes for an id. -/
structure NamesResource (path coll id : Text) : Prop where
  segments : ∃ rest, (pathSegments path).reverse = id :: coll :: rest
  isId : nonIdSegments.contains id = false ∧ isApiVersion id = false

theorem NamesResource.parse {path coll id : Text} (h : NamesResource path coll id) :
    parseCollectionAndId path = some (coll, id) := by
  obtain ⟨rest, hsegments⟩ := h.segments
  unfold parseCollectionAndId
  rw [hsegments]
  dsimp only
  rw [h.isId.1, h.isId.2]
  rfl

/-- With no sequence and no entry that answers, a GET on a stored resource
is answered by the resource layer. -/
theorem get_reads_resource {st : AppState} {call : Call} {ctx : RequestContext}
    {coll id : Text} {resource : ResourceState} (hget : ctx.method = "GET")
    (hpath : NamesResource ctx.pathQuery coll id) (hseqs : st.sequences = [])
    (hexact : ExactSilent call ctx)
    (hstored : st.resourceStore.lookup ctx.svcKey coll id = some resource) :
    ∃ s, (mockBranch env cfg call ctx st).2 = .served .resourceStore s
      ∧ s.response.status = StatusCode.ok
      ∧ s.response.body = Text.utf8 (env.printJson resource.body) := by
  have hseq : SequenceSilent env ctx st := by
    unfold SequenceSilent
    rw [hseqs]
    rfl
  have hhit : resourceHit ctx st = some resource := by
    rw [resourceHit, resourceTarget, if_pos hget, hpath.parse]
    exact hstored
  obtain ⟨s, hserve, hstatus, hbody⟩ := serveResource_eq env call .resourceStore
    xGhostResource "true" resource
  rw [(MockOutcome.resource resource hexact hseq hhit :
    MockOutcome env cfg call ctx st _ _).eq]
  exact ⟨s, hserve, hstatus, hbody⟩

variable (env cfg)

/-- Read your writes: after a transition's answer, a GET on the resource's
path that the library has no entry for is answered from the resource
store, with the same body. -/
theorem get_reads_transition (codec : EntryCodec) (st : AppState) (call : Call)
    (ctx : RequestContext) (coll id action : Text) (s : Served)
    (hst : Reachable env cfg codec st) (hseqs : st.sequences = [])
    (hdisp : Dispatched env cfg st call ctx .mock)
    (htarget : transitionTarget env ctx = some (coll, id, action))
    (hserved : (handle env cfg st call).2 = .served .resourceTransition s)
    (call' : Call) (ctx' : RequestContext)
    (hdisp' : Dispatched env cfg (handle env cfg st call).1 call' ctx' .mock)
    (hget : ctx'.method = "GET") (hpath : NamesResource ctx'.pathQuery coll id)
    (hsvc : ctx'.svcKey = ctx.svcKey) (htenant : ctx'.tenant = ctx.tenant)
    (hexact : ∀ entry : MockEntry,
      (st.mocks.mocksOf ctx.svcKey).lookup (("GET" : Text), ctx'.pathQuery, ctx.tenant)
        = some entry → entry.request.body ≠ ctx'.bodyStr) :
    ∃ s', (handle env cfg (handle env cfg st call).1 call').2
        = .served .resourceStore s'
      ∧ s'.response.status = s.response.status
      ∧ s'.response.body = s.response.body
      ∧ ∃ resource,
        (handle env cfg st call).1.resourceStore.lookup ctx.svcKey coll id = some resource
          ∧ s'.response.body = Text.utf8 (env.printJson resource.body) := by
  have hsame := sameSetup_handle env cfg st call
  rw [handle_mock hdisp] at hserved
  obtain ⟨resource, hstored, hstatus, hbody⟩ := transition_answered htarget hserved
  rw [← handle_mock hdisp] at hstored
  have hlib : ctx'.library = st.mocks := by
    obtain ⟨tenant, -, rfl⟩ := requestContext_some hdisp'.context
    unfold contextFor
    rw [handle_mock hdisp]
    exact (mockFrame_mockBranch env cfg call ctx st).mocks
  have hsilent : ExactSilent call' ctx' := by
    intro entry hfind
    rw [hlib, MockLibrary.findExact_eq hst.wellFormed, hsvc, hget, htenant] at hfind
    exact hexact entry hfind
  rw [← hsvc] at hstored
  obtain ⟨s', hserved', hstatus', hbody'⟩ := get_reads_resource hget hpath
    (hsame.sequences.trans hseqs) hsilent hstored
  rw [handle_mock hdisp']
  rw [hsvc] at hstored
  exact ⟨s', hserved', hstatus'.trans hstatus.symm, hbody'.trans hbody.symm, resource,
    hstored, hbody'⟩

end ReadYourWrites

-- ============================================================= one charge

mutual

/-- The JSON library's printer, on strings that need no escapes. -/
def printPlain : Json → Text
  | .null => "null"
  | .bool true => "true"
  | .bool false => "false"
  | .number repr => repr
  | .string s => '"' :: s ++ ['"']
  | .array items => '[' :: Text.join [','] (printItems items) ++ [']']
  | .object members => '\x7b' :: Text.join [','] (printMembers members) ++ ['\x7d']

def printItems : List Json → List Text
  | [] => []
  | v :: vs => printPlain v :: printItems vs

def printMembers : List (Text × Json) → List Text
  | [] => []
  | (k, v) :: ms => ('"' :: k ++ '"' :: ':' :: printPlain v) :: printMembers ms

end

def charge (id status : Text) : Json :=
  .object [("id", .string id), ("status", .string status)]

section Charge

variable (id : Text)

/-- A parser that knows the text of the created charge. -/
def chargeExternals : Externals :=
  { (default : Externals) with
    parseJson := fun t =>
      if t = printPlain (charge id "created") then some (charge id "created") else none
    printJson := printPlain }

def bareRequest (method path : Text) : Request where
  method := method
  pathAndQuery := some path
  headers := []
  body := []

def chargeAnswer (status : StatusCode) : UpstreamResponse where
  status := status
  headers := []
  body := Text.utf8 (printPlain (charge id "created"))

def created : StatusCode := ⟨201, by decide⟩

/-- A recording proxy with the bundled machines. -/
def chargeProxy : AppState :=
  AppState.boot .learn MockLibrary.new []
    (ResourceStore.new (some withBundledFixtures))

def chargePath : Text := ("/charges/" : Text) ++ id
def capturePath : Text := chargePath id ++ ("/capture" : Text)

noncomputable def learnGet : Call :=
  Call.plain default (bareRequest "GET" (chargePath id))
    (some (chargeAnswer id StatusCode.ok))
noncomputable def learnPost : Call :=
  Call.plain default (bareRequest "POST" "/charges") (some (chargeAnswer id created))
noncomputable def capture : Call :=
  Call.plain default (bareRequest "POST" (capturePath id)) none
noncomputable def readCharge : Call :=
  Call.plain default (bareRequest "GET" (chargePath id)) none

/-- The proxy after it recorded some calls. -/
def learning (calls : List Call) : AppState :=
  Machine.run (fun st call => (handle (chargeExternals id) Config.new st call).1)
    chargeProxy calls

/-- The same, set to MOCK. -/
def afterLearning (calls : List Call) : AppState :=
  { learning id calls with mode := .mock }

/-- The context of a bare request. -/
def chargeContext (st : AppState) (call : Call) : RequestContext :=
  contextFor (chargeExternals id) Config.new st call.request [] globalTenant

theorem reachable_afterLearning (calls : List Call) :
    Reachable (chargeExternals id) Config.new sampleCodec (afterLearning id calls) := by
  have hrun : Reachable (chargeExternals id) Config.new sampleCodec (learning id calls) :=
    Machine.run_invariant (fun st call h => h.handle _ _ call) (.boot chargeProxy none) calls
  exact hrun.setMode _ _ .mock

theorem sameSetup_learning (calls : List Call) : SameSetup chargeProxy (learning id calls) :=
  Machine.run_invariant
    (fun st call h => h.trans (sameSetup_handle (chargeExternals id) Config.new st call))
    (SameSetup.refl chargeProxy) calls

variable {id}

theorem svcKey_chargeContext {st : AppState} (hroutes : st.upstreams = []) (call : Call) :
    (chargeContext id st call).svcKey = globalTenant := svcKey_contextFor _ _ hroutes ..

/-- In MOCK mode without routes, and with no sequence configured. -/
structure Replaying (st : AppState) : Prop where
  mode : st.mode = .mock
  routes : st.upstreams = []
  sequences : st.sequences = []
  wellFormed : st.mocks.WellFormed

theorem replaying_afterLearning (calls : List Call) :
    Replaying (afterLearning id calls) where
  mode := rfl
  routes := (sameSetup_learning id calls).upstreams
  sequences := (sameSetup_learning id calls).sequences
  wellFormed := (reachable_afterLearning id calls).wellFormed

theorem Replaying.dispatched {st : AppState} (h : Replaying st) {call : Call}
    (hbody : call.request.body = [])
    (htenant : resolveTenant call.request.headers call.request.query = some globalTenant) :
    Dispatched (chargeExternals id) Config.new st call (chargeContext id st call) .mock := by
  unfold chargeContext
  rw [← hbody]
  exact dispatched_of_unrouted (by rw [hbody]; exact Nat.zero_le _) htenant h.routes h.mode

/-- Nothing is recorded of a request: the exact layer holds back. -/
theorem Replaying.exactSilent {st : AppState} (h : Replaying st) {call : Call}
    (hnone : (st.mocks.mocksOf globalTenant).lookup
      (call.request.method, lookupUri call.request, globalTenant) = none) :
    ExactSilent call (chargeContext id st call) := by
  intro entry hfind
  rw [svcKey_chargeContext h.routes, MockLibrary.findExact_eq
    (show (chargeContext id st call).library.WellFormed from h.wellFormed)] at hfind
  cases hnone.symm.trans hfind

theorem Replaying.sequenceSilent {st : AppState} (h : Replaying st) (call : Call) :
    SequenceSilent (chargeExternals id) (chargeContext id st call) st := by
  unfold SequenceSilent
  rw [h.sequences]
  rfl

variable (id)

/-- A stored charge that nothing was recorded about is captured, and the
answer shows it. -/
theorem capture_answered {st : AppState} {body : Json} (h : Replaying st)
    (htenant : resolveTenant (capture id).request.headers (capture id).request.query
      = some globalTenant)
    (hnone : (st.mocks.mocksOf globalTenant).lookup
      (("POST" : Text), lookupUri (capture id).request, globalTenant) = none)
    (htarget : transitionTarget (chargeExternals id) (chargeContext id st (capture id))
      = some (("charges" : Text), id, ("capture" : Text)))
    (hmoves : (st.resourceStore.transition globalTenant "charges" id "capture" 0).map
      (fun moved => moved.1.body) = some body) :
    ∃ s, (handle (chargeExternals id) Config.new st (capture id)).2
        = .served .resourceTransition s
      ∧ s.response.body = Text.utf8 (printPlain body) := by
  obtain ⟨⟨resource, nextState⟩, htrans, rfl⟩ := Option.map_eq_some_iff.mp hmoves
  rw [← svcKey_chargeContext h.routes (capture id)] at htrans
  have hout : MockOutcome (chargeExternals id) Config.new (capture id)
      (chargeContext id st (capture id)) st _ _ :=
    .transition "charges" id "capture" resource nextState (h.exactSilent hnone)
      (h.sequenceSilent _) rfl htarget htrans
  obtain ⟨s, hserve, -, hbody⟩ := serveResource_eq (chargeExternals id) (capture id)
    .resourceTransition xGhostTransition nextState resource
  rw [handle_mock (h.dispatched rfl htenant), hout.eq]
  exact ⟨s, hserve, hbody⟩

/-- After a capture the library and the setup are what they were. -/
theorem Replaying.afterCapture {st : AppState} (h : Replaying st)
    (htenant : resolveTenant (capture id).request.headers (capture id).request.query
      = some globalTenant) :
    Replaying (handle (chargeExternals id) Config.new st (capture id)).1
      ∧ (handle (chargeExternals id) Config.new st (capture id)).1.mocks = st.mocks := by
  have hsame := sameSetup_handle (chargeExternals id) Config.new st (capture id)
  have hmocks : (handle (chargeExternals id) Config.new st (capture id)).1.mocks
      = st.mocks := by
    rw [handle_mock (h.dispatched rfl htenant)]
    exact (mockFrame_mockBranch _ _ _ _ _).mocks
  refine ⟨⟨hsame.mode.trans h.mode, hsame.upstreams.trans h.routes,
    hsame.sequences.trans h.sequences, ?_⟩, hmocks⟩
  rw [hmocks]
  exact h.wellFormed

/-- A recorded charge is read as it was recorded. -/
theorem read_answered {st : AppState} {e : MockEntry} (h : Replaying st)
    (htenant : resolveTenant (readCharge id).request.headers (readCharge id).request.query
      = some globalTenant)
    (hfind : (st.mocks.mocksOf globalTenant).lookup
      (("GET" : Text), lookupUri (readCharge id).request, globalTenant) = some e)
    (hbody : e.request.body = []) :
    (handle (chargeExternals id) Config.new st (readCharge id)).2
      = serveEntry (chargeExternals id) (readCharge id) .exact xGhostMock e := by
  have hhit : (chargeContext id st (readCharge id)).library.findExact (readCharge id).order
      (chargeContext id st (readCharge id)).svcKey
      (chargeContext id st (readCharge id)).method
      (chargeContext id st (readCharge id)).pathQuery
      (chargeContext id st (readCharge id)).tenant = some e := by
    rw [MockLibrary.findExact_eq (show (chargeContext id st (readCharge
      id)).library.WellFormed from h.wellFormed), svcKey_chargeContext h.routes]
    exact hfind
  rw [handle_mock (h.dispatched rfl htenant),
    (MockOutcome.exact e hhit hbody :
      MockOutcome (chargeExternals id) Config.new (readCharge id) _ st _ _).eq]

/-- A charge whose path the parser does not read is not found. -/
theorem read_missed {st : AppState} (h : Replaying st)
    (htenant : resolveTenant (readCharge id).request.headers (readCharge id).request.query
      = some globalTenant)
    (hnone : (st.mocks.mocksOf globalTenant).lookup
      (("GET" : Text), lookupUri (readCharge id).request, globalTenant) = none)
    (hpath : parseCollectionAndId (lookupUri (readCharge id).request) = none) :
    ∃ s, (handle (chargeExternals id) Config.new st (readCharge id)).2 = .served .miss s
      ∧ s.response.body = Text.utf8 st.runtimeConfig.unmatchedBody := by
  have hres : resourceHit (chargeContext id st (readCharge id)) st = none := by
    have htarget : resourceTarget (chargeContext id st (readCharge id)) = none :=
      (if_pos rfl).trans hpath
    unfold resourceHit
    rw [htarget]
    rfl
  have htrans : TransitionSilent (chargeExternals id) (readCharge id)
      (chargeContext id st (readCharge id)) st := by
    intro coll id' action htarget
    cases htarget
  have hout : MockOutcome (chargeExternals id) Config.new (readCharge id)
      (chargeContext id st (readCharge id)) st _ _ :=
    .miss (h.exactSilent hnone) (h.sequenceSilent _) hres htrans rfl
  rw [handle_mock (h.dispatched rfl htenant), hout.eq]
  exact ⟨_, rfl, rfl⟩

end Charge

/-- What is recorded of the charge. -/
noncomputable def recordedCharge : MockEntry :=
  learnEntry (chargeExternals "ch_1") Config.new (learnGet "ch_1")
    (chargeContext "ch_1" chargeProxy (learnGet "ch_1")) (chargeAnswer "ch_1" StatusCode.ok)

/-- Nothing is recorded of the charge itself: the GET reads the capture. -/
theorem get_reads_capture :
    let st := afterLearning "ch_1" [learnPost "ch_1"]
    ∃ s s', (handle (chargeExternals "ch_1") Config.new st (capture "ch_1")).2
        = .served .resourceTransition s
      ∧ (handle (chargeExternals "ch_1") Config.new
          (handle (chargeExternals "ch_1") Config.new st (capture "ch_1")).1
          (readCharge "ch_1")).2 = .served .resourceStore s'
      ∧ s'.response.body = s.response.body := by
  intro st
  have hst : Replaying st := replaying_afterLearning [learnPost "ch_1"]
  obtain ⟨hafter, -⟩ := hst.afterCapture "ch_1" rfl
  obtain ⟨s, hserved, -⟩ := capture_answered "ch_1" hst rfl rfl rfl
    (show _ = some (charge "ch_1" "captured") from rfl)
  obtain ⟨s', hserved', -, hbody, -⟩ := get_reads_transition (chargeExternals "ch_1")
    Config.new sampleCodec st (capture "ch_1") (chargeContext "ch_1" st (capture "ch_1"))
    "charges" "ch_1" "capture" s (reachable_afterLearning "ch_1" _) hst.sequences
    (hst.dispatched rfl rfl) rfl hserved (readCharge "ch_1")
    (chargeContext "ch_1" _ (readCharge "ch_1")) (hafter.dispatched rfl rfl) rfl
    ⟨⟨[], by decide⟩, by decide⟩
    ((svcKey_chargeContext hafter.routes _).trans (svcKey_chargeContext hst.routes _).symm)
    rfl (fun entry hfind => by
      rw [svcKey_chargeContext hst.routes] at hfind
      have hnone : (st.mocks.mocksOf globalTenant).lookup
        (("GET" : Text), ("/charges/ch_1" : Text), globalTenant) = none := rfl
      cases hnone.symm.trans hfind)
  exact ⟨s, s', hserved, hserved', hbody⟩

/-- The GET was recorded before the charge was captured: it is answered with
the recording, and the capture stays unread. -/
theorem recorded_get_hides_capture :
    let st := afterLearning "ch_1" [learnGet "ch_1", learnPost "ch_1"]
    ∃ s s', (handle (chargeExternals "ch_1") Config.new st (capture "ch_1")).2
        = .served .resourceTransition s
      ∧ (handle (chargeExternals "ch_1") Config.new
          (handle (chargeExternals "ch_1") Config.new st (capture "ch_1")).1
          (readCharge "ch_1")).2 = .served .exact s'
      ∧ s'.response.body ≠ s.response.body := by
  intro st
  have hst : Replaying st := replaying_afterLearning [learnGet "ch_1", learnPost "ch_1"]
  obtain ⟨hafter, hmocks⟩ := hst.afterCapture "ch_1" rfl
  obtain ⟨s, hserved, hbody⟩ := capture_answered "ch_1" hst rfl rfl rfl
    (show _ = some (charge "ch_1" "captured") from rfl)
  have hread := read_answered "ch_1" hafter rfl
    (show _ = some recordedCharge by rw [hmocks]; rfl) rfl
  have hcarries : Carries (chargeExternals "ch_1") Config.new
      (chargeContext "ch_1" chargeProxy (learnGet "ch_1")) recordedCharge
      (chargeAnswer "ch_1" StatusCode.ok) := ⟨rfl, rfl⟩
  refine ⟨s, servedEntry (chargeExternals "ch_1") (readCharge "ch_1") xGhostMock
    recordedCharge, hserved, hread, ?_⟩
  rw [hbody, response_servedEntry hcarries]
  have hdiffer : Text.utf8 (storedBody Config.new (chargeAnswer "ch_1" StatusCode.ok).body)
      ≠ Text.utf8 (printPlain (charge "ch_1" "captured")) := by decide
  exact hdiffer

/-- A charge called search is captured, and its path is not read as the path
of a charge: the GET is a miss. -/
theorem search_id_hides_capture :
    let st := afterLearning "search" [learnPost "search"]
    ∃ s s', (handle (chargeExternals "search") Config.new st (capture "search")).2
        = .served .resourceTransition s
      ∧ (handle (chargeExternals "search") Config.new
          (handle (chargeExternals "search") Config.new st (capture "search")).1
          (readCharge "search")).2 = .served .miss s'
      ∧ s'.response.body ≠ s.response.body := by
  intro st
  have hst : Replaying st := replaying_afterLearning [learnPost "search"]
  obtain ⟨hafter, hmocks⟩ := hst.afterCapture "search" rfl
  obtain ⟨s, hserved, hbody⟩ := capture_answered "search" hst rfl rfl rfl
    (show _ = some (charge "search" "captured") from rfl)
  obtain ⟨s', hserved', hbody'⟩ := read_missed "search" hafter rfl (by rw [hmocks]; rfl) (by decide)
  refine ⟨s, s', hserved, hserved', ?_⟩
  have hconfig : (handle (chargeExternals "search") Config.new st
      (capture "search")).1.runtimeConfig = RuntimeConfig.new :=
    (sameSetup_handle _ _ st _).runtimeConfig.trans
      (sameSetup_learning "search" [learnPost "search"]).runtimeConfig
  rw [hbody, hbody', hconfig]
  decide

/-- In both ways a capture can stay unread, with no sequence configured. -/
theorem recorded_get_hides_transition :
    (∃ st, Reachable (chargeExternals "ch_1") Config.new sampleCodec st
      ∧ st.sequences = []
      ∧ ∃ s s', (handle (chargeExternals "ch_1") Config.new st (capture "ch_1")).2
          = .served .resourceTransition s
        ∧ (handle (chargeExternals "ch_1") Config.new
            (handle (chargeExternals "ch_1") Config.new st (capture "ch_1")).1
            (readCharge "ch_1")).2 = .served .exact s'
        ∧ s'.response.body ≠ s.response.body)
    ∧ ∃ st, Reachable (chargeExternals "search") Config.new sampleCodec st
      ∧ st.sequences = []
      ∧ ∃ s s', (handle (chargeExternals "search") Config.new st (capture "search")).2
          = .served .resourceTransition s
        ∧ (handle (chargeExternals "search") Config.new
            (handle (chargeExternals "search") Config.new st (capture "search")).1
            (readCharge "search")).2 = .served .miss s'
        ∧ s'.response.body ≠ s.response.body :=
  ⟨⟨_, reachable_afterLearning "ch_1" _, (replaying_afterLearning _).sequences,
      recorded_get_hides_capture⟩,
    _, reachable_afterLearning "search" _, (replaying_afterLearning _).sequences,
      search_id_hides_capture⟩

end GostlyProxy
