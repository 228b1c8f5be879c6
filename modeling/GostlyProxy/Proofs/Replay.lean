/-
Recorded, then replayed.

# The way of a response

A LEARN round trip stores the upstream's response as an entry: the headers
collected by name and redacted, the body as text. A MOCK answer is built
back from the entry. `recording_stays` carries the entry from the one to
the other through any run whose writes spare it, and `replay_exact` is the
answer.

`replay_faithful_iff` compares what comes back with what the upstream
sent: the response is the same exactly when the body is UTF-8 and every
header that is to come back came once and as a string.
-/
import GostlyProxy.Proofs.Codec
import GostlyProxy.Proofs.LibraryRuns
import GostlyProxy.Proofs.Respond

namespace GostlyProxy

open Lib

-- ==================================================== the recording stays

section Stays

variable (env : Externals) (cfg : Config) (codec : EntryCodec)

/-- A write that leaves an entry where it is: a publish under another key,
a reload of a file in which the entry is the last line of its key. -/
def LibraryWrite.Spares (svcId : Text) (entry : MockEntry) : LibraryWrite → Prop
  | .publish s e => ¬ (svcId = s ∧ entry.key = e.key)
  | .loadFile s content => svcId = s → lastLine codec content entry.key = some entry
  | .loadDir dir => lastLine codec (dir.lookup (mockFileName svcId)) entry.key = some entry

variable {codec}

theorem lastWrite_of_spares {svcId : Text} {entry : MockEntry}
    {newer older : List LibraryWrite} (hspares : ∀ w ∈ newer, w.Spares codec svcId entry)
    (hlast : lastWrite codec older svcId entry.key = some entry) :
    lastWrite codec (newer ++ older) svcId entry.key = some entry := by
  induction newer with
  | nil => exact hlast
  | cons w newer ih =>
      have hw := hspares w (List.mem_cons_self ..)
      have hrest := ih fun w' hw' => hspares w' (List.mem_cons_of_mem _ hw')
      rw [List.cons_append]
      cases w with
      | publish s e => rw [lastWrite, if_neg hw, hrest]
      | loadFile s content =>
          unfold lastWrite
          by_cases hs : svcId = s
          · rw [if_pos hs, hw hs]
          · rw [if_neg hs, hrest]
      | loadDir dir => exact hw

/-- An entry that was written last under its key is still found after a run
whose writes spare it. -/
theorem recording_stays {st : AppState} {history : List LibraryWrite}
    (h : Refines codec st.mocks history) {svcId : Text} {entry : MockEntry}
    (hlast : lastWrite codec history svcId entry.key = some entry)
    (later : List LibraryAction)
    (hspares : ∀ w ∈ (Machine.run (recordedStep env cfg codec) (st, []) later).2,
      w.Spares codec svcId entry) :
    let lib := (Machine.run (recordedStep env cfg codec) (st, []) later).1.mocks
    lib.WellFormed ∧ (lib.mocksOf svcId).lookup entry.key = some entry := by
  intro lib
  have hrun : Refines codec lib
      ((Machine.run (recordedStep env cfg codec) (st, []) later).2 ++ history) := by
    refine Machine.run_invariant (I := fun s : AppState × List LibraryWrite =>
      Refines codec s.1.mocks (s.2 ++ history)) ?_ h later
    intro s a hs
    have hstep := libraryStep_refines env cfg (s.1, s.2 ++ history) a hs
    unfold recordedStep at hstep ⊢
    rw [List.append_assoc]
    exact hstep
  refine ⟨hrun.wellFormed, ?_⟩
  rw [hrun.lookup]
  exact lastWrite_of_spares hspares hlast

end Stays

-- ========================================================= the two requests

section Replay

variable (env : Externals) (cfg : Config)

/-- A request the LEARN branch records. -/
structure Recorded (st : AppState) (call : Call) (ctx : RequestContext)
    (res : UpstreamResponse) : Prop extends Dispatched env cfg st call ctx .learn where
  response : call.upstream (forwarded call ctx) = some res

/-- The same request again, to the same service, in MOCK mode. -/
structure Repeated (call : Call) (ctx : RequestContext) (st' : AppState) (call' : Call)
    (ctx' : RequestContext) : Prop extends Dispatched env cfg st' call' ctx' .mock where
  request : call'.request = call.request
  service : ctx'.svcKey = ctx.svcKey

variable {env cfg}

/-- The same request has the same key and the same body. -/
theorem Repeated.same {st : AppState} {call : Call} {ctx : RequestContext}
    {st' : AppState} {call' : Call} {ctx' : RequestContext}
    (h : Repeated env cfg call ctx st' call' ctx')
    (hctx : requestContext env cfg st call.request call.request.body = some ctx) :
    ctx'.method = ctx.method ∧ ctx'.pathQuery = ctx.pathQuery
      ∧ ctx'.tenant = ctx.tenant ∧ ctx'.bodyStr = ctx.bodyStr := by
  obtain ⟨tenant, htenant, rfl⟩ := requestContext_some hctx
  obtain ⟨tenant', htenant', hctx'⟩ := requestContext_some h.context
  rw [h.request] at htenant' hctx'
  rw [htenant, Option.some.injEq] at htenant'
  subst htenant' hctx'
  exact ⟨rfl, rfl, rfl, rfl⟩

theorem key_learnEntry (call : Call) (ctx : RequestContext) (res : UpstreamResponse) :
    (learnEntry env cfg call ctx res).key = (ctx.method, ctx.pathQuery, ctx.tenant) := rfl

/-- Within the cap the recorded request body is the request's. -/
theorem Recorded.body_learnEntry {st : AppState} {call : Call} {ctx : RequestContext}
    {res : UpstreamResponse} (h : Recorded env cfg st call ctx res) :
    (learnEntry env cfg call ctx res).request.body = ctx.bodyStr := by
  obtain ⟨tenant, -, rfl⟩ := requestContext_some h.context
  unfold learnEntry
  exact if_neg (Nat.not_lt.mpr h.fits)

/-- A recorded request publishes its entry. -/
theorem Recorded.mocks {st : AppState} {call : Call} {ctx : RequestContext}
    {res : UpstreamResponse} (h : Recorded env cfg st call ctx res) :
    (handle env cfg st call).1.mocks
      = st.mocks.publish ctx.svcKey (learnEntry env cfg call ctx res) := by
  rw [handle_learn h.toDispatched h.response, ← mocks_learnState]
  exact (mockFrame_settle _ _ _).mocks

variable (env cfg)

/-- The program after a recorded request and a later run, with the writes
of that run. -/
def afterwards (codec : EntryCodec) (st : AppState) (call : Call)
    (later : List LibraryAction) : AppState × List LibraryWrite :=
  Machine.run (recordedStep env cfg codec) ((handle env cfg st call).1, []) later

/-- The request is answered from the entry by the exact layer. -/
structure AnsweredExactly (call : Call) (ctx : RequestContext) (e : MockEntry) : Prop where
  find : ctx.library.findExact call.order ctx.svcKey ctx.method ctx.pathQuery ctx.tenant
    = some e
  body : e.request.body = ctx.bodyStr

/-- After a run that spared the recording, a repeated request finds it. -/
theorem answeredExactly_repeated {codec : EntryCodec} {st : AppState}
    (hst : Reachable env cfg codec st) {call : Call} {ctx : RequestContext}
    {res : UpstreamResponse} (hrec : Recorded env cfg st call ctx res)
    {later : List LibraryAction}
    (hspares : ∀ w ∈ (afterwards env cfg codec st call later).2,
      w.Spares codec ctx.svcKey (learnEntry env cfg call ctx res))
    {call' : Call} {ctx' : RequestContext}
    (hrep : Repeated env cfg call ctx (afterwards env cfg codec st call later).1 call'
      ctx') :
    AnsweredExactly call' ctx' (learnEntry env cfg call ctx res) := by
  obtain ⟨history, hbefore⟩ := hst.refines
  have hrefines : Refines codec (handle env cfg st call).1.mocks
      (.publish ctx.svcKey (learnEntry env cfg call ctx res) :: history) := by
    rw [hrec.mocks]
    exact hbefore.publish _ _
  obtain ⟨hwf, hlook⟩ := recording_stays env cfg hrefines (if_pos ⟨rfl, rfl⟩) later hspares
  obtain ⟨hmethod, huri, htenant, hbody⟩ := hrep.same hrec.context
  obtain ⟨tenant, -, hctx'⟩ := requestContext_some hrep.context
  have hlib : ctx'.library = (afterwards env cfg codec st call later).1.mocks := by
    rw [hctx']
    rfl
  constructor
  · rw [hlib, afterwards, MockLibrary.findExact_eq hwf, hrep.service, hmethod, huri,
      htenant, ← key_learnEntry call ctx res]
    exact hlook
  · exact hrec.body_learnEntry.trans hbody.symm

/-- The answer to a repeated request: the exact layer serves the recorded
entry. -/
theorem replay_exact {codec : EntryCodec} {st : AppState}
    (hst : Reachable env cfg codec st) {call : Call} {ctx : RequestContext}
    {res : UpstreamResponse} (hrec : Recorded env cfg st call ctx res)
    {later : List LibraryAction}
    (hspares : ∀ w ∈ (afterwards env cfg codec st call later).2,
      w.Spares codec ctx.svcKey (learnEntry env cfg call ctx res))
    {call' : Call} {ctx' : RequestContext}
    (hrep : Repeated env cfg call ctx (afterwards env cfg codec st call later).1 call'
      ctx') :
    (handle env cfg (afterwards env cfg codec st call later).1 call').2
      = serveEntry env call' .exact xGhostMock (learnEntry env cfg call ctx res) := by
  have hanswered := answeredExactly_repeated env cfg hst hrec hspares hrep
  rw [handle_mock hrep.toDispatched,
    (MockOutcome.exact _ hanswered.find hanswered.body :
      MockOutcome env cfg call' ctx' _ _ _).eq]

-- ========================================================= what is served

/-- The response an entry is served as. -/
def servedEntry (call : Call) (key : HeaderName) (e : MockEntry) : Served :=
  serveMockResponse env call.order e.response.status e.response.headers
    (Text.utf8 e.response.body) e.response.latencyMs key "true"

theorem serveEntry_eq (call : Call) (matchType : MatchType) (key : HeaderName)
    (e : MockEntry) :
    serveEntry env call matchType key e = .served matchType (servedEntry env call key e) :=
  rfl

/-- The entry carries the status and the headers recorded of a response. -/
structure Carries (ctx : RequestContext) (e : MockEntry) (res : UpstreamResponse) :
    Prop where
  status : e.response.status = res.status.1
  headers : e.response.headers = storedHeaders env cfg ctx res.headers

theorem carries_learnEntry (call : Call) (ctx : RequestContext)
    (res : UpstreamResponse) :
    Carries env cfg ctx (learnEntry env cfg call ctx res) res := ⟨rfl, rfl⟩

variable {env cfg}

theorem response_servedEntry {ctx : RequestContext} {e : MockEntry}
    {res : UpstreamResponse} (h : Carries env cfg ctx e res) (call : Call)
    (key : HeaderName) :
    (servedEntry env call key e).response
      = { status := res.status
          headers := (buildResponse env call.order res.status.1
            (storedHeaders env cfg ctx res.headers)
            (Text.utf8 e.response.body)).headers.insert key valueTrue
          body := Text.utf8 e.response.body } := by
  have hval : (HeaderValue.fromStr "true").getD valueTrue = valueTrue := by decide
  have hgood := goodNames_storedHeaders env cfg ctx res.headers
  unfold servedEntry serveMockResponse
  rw [h.status, h.headers, buildResponse_eq env call.order _ hgood,
    StatusCode.fromU16_val]
  dsimp only
  rw [hval]
  rfl

/-- A header the layer did not write comes back as the recording left it. -/
theorem getAll_servedEntry {ctx : RequestContext} {e : MockEntry}
    {res : UpstreamResponse} (h : Carries env cfg ctx e res) (call : Call)
    {key n : HeaderName} (hne : key ≠ n) :
    (servedEntry env call key e).response.headers.getAll n.toText
      = if isHopByHop n.toText then []
        else ((res.headers.getAll n.toText).getLast?.map fun v =>
          if isRedacted env cfg ctx n.toText then redactedValue else v.kept).toList := by
  rw [response_servedEntry h, HeaderMap.getAll_insert_ne
    fun hname => hne (HeaderName.toText_injective hname), getAll_replayed]

-- ============================================================== the same

variable (env cfg)

/-- The names a replay is to give back: those the upstream sent, without
the redacted and the hop-by-hop ones. -/
def ComesBack (ctx : RequestContext) (res : UpstreamResponse) (n : HeaderName) : Prop :=
  res.headers.getAll n.toText ≠ [] ∧ isRedacted env cfg ctx n.toText = false
    ∧ isHopByHop n.toText = false

/-- The answer is the upstream's response, from the exact layer: its
status, its body and, for every header that is to come back, its list. -/
def Faithful (ctx : RequestContext) (res : UpstreamResponse) (answer : Answer) : Prop :=
  ∃ s, answer = .served .exact s
    ∧ s.response.status = res.status ∧ s.response.body = res.body
    ∧ ∀ n, ComesBack env cfg ctx res n →
        s.response.headers.getAll n.toText = res.headers.getAll n.toText

/-- The responses that survive a recording: the body is UTF-8, and every
header that is to come back came once, as a string; the header the exact
layer writes, with the value it writes. -/
structure Replayable (ctx : RequestContext) (res : UpstreamResponse) : Prop where
  utf8 : Utf8.IsUtf8 res.body
  headers : ∀ n, ComesBack env cfg ctx res n →
    ∃ v, res.headers.getAll n.toText = [v] ∧ v.toStr.isSome
      ∧ (n = xGhostMock → v = valueTrue)

variable {env cfg}

/-- The last value of a list, kept, is the list when it is one string. -/
theorem kept_getLast_iff {values : List HeaderValue} (h : values ≠ []) :
    [(values.getLast h).kept] = values ↔ ∃ v, values = [v] ∧ v.toStr.isSome := by
  rcases values with _ | ⟨v, _ | ⟨w, rest⟩⟩
  · exact absurd rfl h
  · rw [List.getLast_singleton, List.cons.injEq, and_iff_left rfl,
      HeaderValue.kept_eq_self_iff]
    constructor
    · intro hstr
      exact ⟨v, rfl, hstr⟩
    · rintro ⟨v', hv, hstr⟩
      cases hv
      exact hstr
  · constructor
    · intro hlist
      cases congrArg List.length hlist
    · rintro ⟨v', hlist, -⟩
      cases hlist

/-- One header comes back as it was when it came once, as a string. -/
theorem getAll_exact_iff {ctx : RequestContext} {e : MockEntry}
    {res : UpstreamResponse} (h : Carries env cfg ctx e res) (call : Call)
    {n : HeaderName} (hback : ComesBack env cfg ctx res n) :
    (servedEntry env call xGhostMock e).response.headers.getAll n.toText
        = res.headers.getAll n.toText
      ↔ ∃ v, res.headers.getAll n.toText = [v] ∧ v.toStr.isSome
        ∧ (n = xGhostMock → v = valueTrue) := by
  obtain ⟨hsome, hred, hhop⟩ := hback
  by_cases hn : xGhostMock = n
  · subst hn
    rw [response_servedEntry h, HeaderMap.getAll_insert_self]
    constructor
    · intro hlist
      exact ⟨valueTrue, hlist.symm, by decide, fun _ => rfl⟩
    · rintro ⟨v, hlist, -, hv⟩
      rw [hlist, hv rfl]
  · have hlast : (res.headers.getAll n.toText).getLast?
        = some ((res.headers.getAll n.toText).getLast hsome) :=
      List.getLast?_eq_getLast_of_ne_nil hsome
    rw [getAll_servedEntry h call hn, hhop, if_neg Bool.false_ne_true, hred, hlast]
    rw [Option.map_some, if_neg Bool.false_ne_true, Option.toList_some, kept_getLast_iff]
    constructor
    · rintro ⟨v, hlist, hstr⟩
      exact ⟨v, hlist, hstr, fun he => absurd he.symm hn⟩
    · rintro ⟨v, hlist, hstr, -⟩
      exact ⟨v, hlist, hstr⟩

/-- What the exact layer serves from a recording is the upstream's response
exactly when that is one of those that survive. -/
theorem faithful_serveEntry_iff (call call' : Call) (ctx : RequestContext)
    {res : UpstreamResponse} (hcap : res.body.length ≤ cfg.maxBodyBytes) :
    Faithful env cfg ctx res
        (serveEntry env call' .exact xGhostMock (learnEntry env cfg call ctx res))
      ↔ Replayable env cfg ctx res := by
  have hcarries := carries_learnEntry env cfg call ctx res
  have hbody : Text.utf8 (learnEntry env cfg call ctx res).response.body = res.body
      ↔ Utf8.IsUtf8 res.body := by
    unfold learnEntry storedBody
    rw [if_neg (Nat.not_lt.mpr hcap), Utf8.utf8_fromUtf8Lossy_iff]
  constructor
  · rintro ⟨s, hserved, -, hsame, hheaders⟩
    cases hserved
    refine ⟨?_, fun n hback => ?_⟩
    · rw [← hbody, ← hsame]
      exact (congrArg Response.body (response_servedEntry hcarries call' xGhostMock)).symm
    · exact (getAll_exact_iff hcarries call' hback).mp (hheaders n hback)
  · intro hrep
    refine ⟨servedEntry env call' xGhostMock _, rfl, ?_, ?_, fun n hback => ?_⟩
    · rw [response_servedEntry hcarries]
    · rw [response_servedEntry hcarries]
      exact hbody.mpr hrep.utf8
    · exact (getAll_exact_iff hcarries call' hback).mpr (hrep.headers n hback)

/-- A recorded response is replayed as it was exactly when it is one of
those that survive. -/
theorem replay_faithful_iff (codec : EntryCodec) (st : AppState) (call : Call)
    (ctx : RequestContext) (res : UpstreamResponse) (later : List LibraryAction)
    (call' : Call) (ctx' : RequestContext)
    (hst : Reachable env cfg codec st) (hrec : Recorded env cfg st call ctx res)
    (hcap : res.body.length ≤ cfg.maxBodyBytes)
    (hspares : ∀ w ∈ (afterwards env cfg codec st call later).2,
      w.Spares codec ctx.svcKey (learnEntry env cfg call ctx res))
    (hrep : Repeated env cfg call ctx (afterwards env cfg codec st call later).1 call'
      ctx') :
    Faithful env cfg ctx res
        (handle env cfg (afterwards env cfg codec st call later).1 call').2
      ↔ Replayable env cfg ctx res := by
  rw [replay_exact env cfg hst hrec hspares hrep, faithful_serveEntry_iff _ _ _ hcap]

end Replay

-- =========================================================== one exchange

def getA : Request where
  method := "GET"
  pathAndQuery := some "/a"
  headers := []
  body := []

/-- A proxy that records and has recorded nothing yet. -/
def recordingProxy : AppState :=
  AppState.boot .learn MockLibrary.new [] (ResourceStore.new none)

def contextA : RequestContext :=
  contextFor default Config.new recordingProxy getA [] globalTenant

def contentLengthHeader : HeaderName := ⟨"content-length", by decide⟩
def valueOne : HeaderValue := ⟨Text.utf8 "1", by decide⟩
def valueTwo : HeaderValue := ⟨Text.utf8 "2", by decide⟩

/-- The empty object, with its type and length. -/
def jsonAnswer : UpstreamResponse where
  status := StatusCode.ok
  headers := [(contentTypeHeader, valueJson), (contentLengthHeader, valueTwo)]
  body := Text.utf8 "\x7b\x7d"

/-- One byte that is no text, with its length. -/
def byteAnswer : UpstreamResponse where
  status := StatusCode.ok
  headers := [(contentLengthHeader, valueOne)]
  body := [0xFF]

/-- The proxy after it recorded an answer to the request and was set to
MOCK. -/
noncomputable def replayingProxy (res : UpstreamResponse) : AppState :=
  (afterwards default Config.new sampleCodec recordingProxy
    (Call.plain default getA (some res)) [.admin (.setMode .mock)]).1

theorem recorded_getA (res : UpstreamResponse) :
    Recorded default Config.new recordingProxy (Call.plain default getA (some res))
      contextA res := ⟨⟨Nat.zero_le _, rfl, rfl⟩, rfl⟩

theorem repeated_getA (res : UpstreamResponse) :
    Repeated default Config.new (Call.plain default getA (some res)) contextA
      (replayingProxy res) (Call.plain default getA none)
      (contextFor default Config.new (replayingProxy res) getA [] globalTenant) :=
  ⟨⟨Nat.zero_le _, rfl, rfl⟩, rfl, rfl⟩

theorem getAll_jsonAnswer (n : HeaderName)
    (h : jsonAnswer.headers.getAll n.toText ≠ []) :
    ∃ v, jsonAnswer.headers.getAll n.toText = [v] ∧ v.toStr.isSome ∧ n ≠ xGhostMock := by
  by_cases htype : n = contentTypeHeader
  · subst htype
    exact ⟨valueJson, rfl, by decide, by decide⟩
  by_cases hlength : n = contentLengthHeader
  · subst hlength
    exact ⟨valueTwo, rfl, by decide, by decide⟩
  refine absurd ?_ h
  have htype' : contentTypeHeader.toText ≠ n.toText := fun he =>
    htype (HeaderName.toText_injective he).symm
  have hlength' : contentLengthHeader.toText ≠ n.toText := fun he =>
    hlength (HeaderName.toText_injective he).symm
  simp [HeaderMap.getAll, jsonAnswer, htype', hlength']

/-- The object comes back as it was. -/
theorem replay_faithful_json :
    Faithful default Config.new contextA jsonAnswer
      (handle default Config.new (replayingProxy jsonAnswer)
        (Call.plain default getA none)).2 := by
  refine (replay_faithful_iff sampleCodec recordingProxy _ contextA jsonAnswer
    [.admin (.setMode .mock)] _ _ (.boot recordingProxy none) (recorded_getA jsonAnswer)
    (by decide) (fun _ hw => absurd hw List.not_mem_nil)
    (repeated_getA jsonAnswer)).mpr ⟨?_, ?_⟩
  · exact ⟨"\x7b\x7d", rfl⟩
  · rintro n ⟨hsome, -, -⟩
    obtain ⟨v, hlist, hstr, hn⟩ := getAll_jsonAnswer n hsome
    exact ⟨v, hlist, hstr, fun he => absurd he hn⟩

theorem reachable_recordingProxy :
    Reachable default Config.new sampleCodec recordingProxy := .boot recordingProxy none

/-- The recording of the exchange answers the request. -/
theorem answeredExactly_getA (res : UpstreamResponse) :
    AnsweredExactly (Call.plain default getA none)
      (contextFor default Config.new (replayingProxy res) getA [] globalTenant)
      (learnEntry default Config.new (Call.plain default getA (some res)) contextA res) :=
  answeredExactly_repeated default Config.new reachable_recordingProxy (recorded_getA res)
    (fun _ hw => absurd hw List.not_mem_nil) (repeated_getA res)

theorem replay_byteAnswer :
    (handle default Config.new (replayingProxy byteAnswer)
        (Call.plain default getA none)).2
      = .served .exact (servedEntry default (Call.plain default getA none) xGhostMock
        (learnEntry default Config.new (Call.plain default getA (some byteAnswer))
          contextA byteAnswer)) :=
  replay_exact default Config.new reachable_recordingProxy (recorded_getA byteAnswer)
    (fun _ hw => absurd hw List.not_mem_nil) (repeated_getA byteAnswer)

/-- The byte comes back as the three bytes of U+FFFD. -/
theorem replayed_byte_differs :
    ¬ Faithful default Config.new contextA byteAnswer
      (handle default Config.new (replayingProxy byteAnswer)
        (Call.plain default getA none)).2 := by
  rw [replay_byteAnswer, ← serveEntry_eq, faithful_serveEntry_iff _ _ _ (by decide)]
  rintro ⟨hutf8, -⟩
  rw [← Utf8.utf8_fromUtf8Lossy_iff] at hutf8
  revert hutf8
  decide

end GostlyProxy
