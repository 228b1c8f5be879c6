/-
The content length of a replay.

A recording stores the upstream's `content-length` like any header, and
what is served under it can have another length: a refused piece of the
body becomes three bytes, a body over the cap becomes a marker, smart swap
replaces and prints anew. `replay_framed_iff` says exactly when the length
is right again, for the exact layer and for smart swap;
`exists_answeredSwapped` says that smart swap has no other answers. Where
smart swap keeps the length of the text, because it replaces nothing or
replaces values by values as long (`KeepsLength`), its answers are framed
when those of the exact layer are (`swapped_framed_iff`).
-/
import GostlyProxy.Proofs.Replay
import GostlyProxy.Proofs.Swaps
import GostlyProxy.Proofs.TextSwap
import Mathlib.Data.Nat.Digits.Defs

namespace GostlyProxy

open Lib

-- ============================================================== the framing

/-- The number a content length says, in decimal digits. -/
def HeaderValue.decimal (v : HeaderValue) : Option Nat :=
  if v.1 ≠ [] ∧ ∀ b ∈ v.1, 48 ≤ b.toNat ∧ b.toNat ≤ 57
  then some (v.1.foldl (fun n b => 10 * n + (b.toNat - 48)) 0) else none

/-- A content length, if there is one, is the length of the body. -/
def Framed (headers : HeaderMap) (body : Bytes) : Prop :=
  ∀ v ∈ headers.getAll contentLengthHeader.toText, v.decimal = some body.length

theorem HeaderValue.toStr_of_decimal {v : HeaderValue} {n : Nat}
    (h : v.decimal = some n) : v.toStr.isSome := by
  unfold decimal at h
  by_cases hdigits : v.1 ≠ [] ∧ ∀ b ∈ v.1, 48 ≤ b.toNat ∧ b.toNat ≤ 57
  · have hvis : ∀ b ∈ v.1, isVisibleByte b = true := by
      intro b hb
      obtain ⟨hlow, hhigh⟩ := hdigits.2 b hb
      have h₁ : (32 : UInt8) ≤ b := UInt8.le_iff_toNat_le.mpr (Nat.le_trans (by decide) hlow)
      have h₂ : b < 127 := UInt8.lt_iff_toNat_lt.mpr (Nat.lt_of_le_of_lt hhigh (by decide))
      unfold isVisibleByte
      rw [decide_eq_true h₁, decide_eq_true h₂]
      rfl
    unfold toStr
    rw [if_pos hvis]
    rfl
  · rw [if_neg hdigits] at h
    cases h

/-- A text of 24 characters and a number is as long as the number says for
26 alone. -/
theorem length_ofNat_add_iff (n : Nat) : (Text.ofNat n).length + 24 = n ↔ n = 26 := by
  constructor
  · intro h
    by_cases hsmall : n < 100
    · have hlen : (Text.ofNat n).length ≤ 2 := Nat.toDigits_length 10 n 2 (by decide) hsmall
      have hcases : n = 24 ∨ n = 25 ∨ n = 26 := by omega
      rcases hcases with rfl | rfl | rfl
      · exact absurd h (by decide)
      · exact absurd h (by decide)
      · rfl
    · have hpow : ∀ k, 2 ≤ k → k + 25 < 10 ^ k := by
        intro k hk
        induction k, hk using Nat.le_induction with
        | base => decide
        | succ k _ ih => rw [Nat.pow_succ]; omega
      have hlt : n < 10 ^ (n - 25) := by
        have := hpow (n - 25) (by omega)
        omega
      have hlen : (Text.ofNat n).length ≤ n - 25 :=
        Nat.toDigits_length 10 n (n - 25) (by omega) hlt
      omega
  · rintro rfl
    decide

theorem length_bodyTruncated (n : Nat) :
    (Text.utf8 (bodyTruncated n)).length = (Text.ofNat n).length + 24 := by
  have hopen : ∀ c ∈ ("[BODY_TRUNCATED: " : Text), c.toNat < 128 := by decide
  have hclose : ∀ c ∈ (" bytes]" : Text), c.toNat < 128 := by decide
  have hascii : ∀ c ∈ bodyTruncated n, c.toNat < 128 := by
    intro c hc
    rcases List.mem_append.mp hc with hc | hc
    · exact hopen c hc
    rcases List.mem_append.mp hc with hc | hc
    · exact Text.ofNat_ascii hc
    · exact hclose c hc
  have hopenLen : ("[BODY_TRUNCATED: " : Text).length = 17 := rfl
  have hcloseLen : (" bytes]" : Text).length = 7 := rfl
  have hparts : bodyTruncated n
      = ("[BODY_TRUNCATED: " : Text) ++ (Text.ofNat n ++ (" bytes]" : Text)) := rfl
  have hlen := congrArg List.length hparts
  rw [List.length_append, List.length_append] at hlen
  rw [Utf8.length_utf8_of_ascii hascii]
  omega

/-- What a recording is stored as is as long as the body: within the cap
when every refused piece is three bytes, over the cap never but by
accident. -/
theorem length_storedBody_iff (cfg : Config) (body : Bytes) :
    (Text.utf8 (storedBody cfg body)).length = body.length
      ↔ if cfg.maxBodyBytes < body.length then body.length = 26
        else ∀ r, .invalid r ∈ Utf8.pieces body → r.length = 3 := by
  unfold storedBody
  by_cases hcap : cfg.maxBodyBytes < body.length
  · rw [if_pos hcap, if_pos hcap, length_bodyTruncated, length_ofNat_add_iff]
  · rw [if_neg hcap, if_neg hcap, Utf8.length_utf8_fromUtf8Lossy_eq_iff]

section Framing

variable {env : Externals} {cfg : Config}

/-- The served response is framed exactly when there was no length, or it
was stored and the served text is as long as the upstream's body. -/
theorem framed_servedEntry_iff {ctx : RequestContext} {e : MockEntry}
    {res : UpstreamResponse} (h : Carries env cfg ctx e res)
    (hup : Framed res.headers res.body) (call : Call) {key : HeaderName}
    (hkey : key ≠ contentLengthHeader) :
    Framed (servedEntry env call key e).response.headers
        (servedEntry env call key e).response.body
      ↔ res.headers.getAll contentLengthHeader.toText = []
        ∨ (isRedacted env cfg ctx contentLengthHeader.toText = false
          ∧ (Text.utf8 e.response.body).length = res.body.length) := by
  have hhop : isHopByHop contentLengthHeader.toText = false := by decide
  have hbody : (servedEntry env call key e).response.body = Text.utf8 e.response.body :=
    congrArg Response.body (response_servedEntry h call key)
  unfold Framed
  rw [getAll_servedEntry h call hkey, hhop, if_neg Bool.false_ne_true, hbody]
  cases hlast : (res.headers.getAll contentLengthHeader.toText).getLast? with
  | none =>
      rw [List.getLast?_eq_none_iff.mp hlast]
      simp
  | some v =>
      have hmem : v ∈ res.headers.getAll contentLengthHeader.toText :=
        List.mem_of_getLast? hlast
      have hdec := hup v hmem
      have hne : res.headers.getAll contentLengthHeader.toText ≠ [] :=
        List.ne_nil_of_mem hmem
      rw [Option.map_some, Option.toList_some, or_iff_right hne]
      simp only [List.mem_singleton, forall_eq]
      cases hred : isRedacted env cfg ctx contentLengthHeader.toText with
      | true =>
          have hnone : redactedValue.decimal = none := by decide
          rw [if_pos rfl, hnone]
          simp
      | false =>
          rw [if_neg Bool.false_ne_true,
            (HeaderValue.kept_eq_self_iff v).mpr (HeaderValue.toStr_of_decimal hdec),
            hdec, Option.some.injEq, and_iff_right rfl]
          exact eq_comm

variable (env cfg)

/-- The request is answered from the entry by smart swap: no layer before
it answers, it picks the entry, and it replaces something or has nothing to
replace. -/
structure AnsweredSwapped (st : AppState) (call : Call) (ctx : RequestContext)
    (e : MockEntry) (subs : HashMap Text Text) : Prop where
  exact : ExactSilent call ctx
  sequence : SequenceSilent env ctx st
  resource : resourceHit ctx st = none
  transition : TransitionSilent env call ctx st
  enabled : cfg.smartSwapEnabled = true
  picked : (ctx.library.entriesForService call.order ctx.svcKey
    (some ctx.tenant)).reverse.find? (fitsRequest env ctx.method ctx.pathQuery) = some e
  replaces : swapSubs env call.order e ctx.pathQuery ctx.bodyStr = some subs
  differs : subs.size = 0 → e.request.uri = ctx.pathQuery ∧ e.request.body = ctx.bodyStr

variable {env cfg}

/-- What smart swap makes of the entry it picks. -/
theorem AnsweredSwapped.swapHit {st : AppState} {call : Call} {ctx : RequestContext}
    {e : MockEntry} {subs : HashMap Text Text}
    (h : AnsweredSwapped env cfg st call ctx e subs) :
    swapHit env cfg call ctx
      = some (e.withBody
        (applySubstitutionsToJson env call.order e.response.body subs)) := by
  have hdiffers : (decide (subs.size = 0)
      && (decide (e.request.uri ≠ ctx.pathQuery)
        || decide (e.request.body ≠ ctx.bodyStr))) = false := by
    by_cases hsize : subs.size = 0
    · obtain ⟨huri, hbody⟩ := h.differs hsize
      simp [huri, hbody]
    · simp [hsize]
  rw [GostlyProxy.swapHit, if_pos h.enabled, findSmartSwap, h.picked, Option.bind_some,
    swapEntry_eq, h.replaces, Option.bind_some, finishSwap, hdiffers]
  rfl

theorem carries_withBody {ctx : RequestContext} {e : MockEntry}
    {res : UpstreamResponse} (h : Carries env cfg ctx e res) (body : Text) :
    Carries env cfg ctx (e.withBody body) res := ⟨h.status, h.headers⟩

variable (env cfg)

/-- Every answer of smart swap is one of an entry it picked. -/
theorem exists_answeredSwapped {st : AppState} {call : Call} {ctx : RequestContext}
    {s : Served} (h : (mockBranch env cfg call ctx st).2 = .served .smartSwap s) :
    ∃ e subs, AnsweredSwapped env cfg st call ctx e subs
      ∧ s = servedEntry env call xGhostSwapMatch (e.withBody
        (applySubstitutionsToJson env call.order e.response.body subs)) := by
  obtain ⟨st', a, hout⟩ := exists_mockOutcome env cfg call ctx st
  rw [hout.eq] at h
  cases hout with
  | exact => cases h
  | sequence => cases h
  | resource => cases h
  | transition => cases h
  | miss => cases h
  | smartSwap entry hexact hseq hres htrans hswap =>
      rw [swapHit] at hswap
      by_cases hon : cfg.smartSwapEnabled = true
      · rw [if_pos hon, findSmartSwap] at hswap
        obtain ⟨e, hpicked, hswap⟩ := Option.bind_eq_some_iff.mp hswap
        rw [swapEntry_eq] at hswap
        obtain ⟨subs, hsubs, hswap⟩ := Option.bind_eq_some_iff.mp hswap
        unfold finishSwap at hswap
        by_cases hidle : (decide (subs.size = 0)
            && (decide (e.request.uri ≠ ctx.pathQuery)
              || decide (e.request.body ≠ ctx.bodyStr))) = true
        · rw [if_pos hidle] at hswap
          cases hswap
        · rw [if_neg hidle, Option.some.injEq] at hswap
          subst hswap
          refine ⟨e, subs, ⟨hexact, hseq, hres, htrans, hon, hpicked, hsubs, ?_⟩, ?_⟩
          · intro hsize
            simpa [hsize] using hidle
          · cases h
            rfl
      · rw [if_neg hon] at hswap
        cases hswap

variable {env cfg}

/-- What smart swap answers from a recording, and when that is framed. -/
theorem framed_of_answeredSwapped (call : Call) (ctx : RequestContext) (res : UpstreamResponse)
    (hup : Framed res.headers res.body) {st' : AppState} {call' : Call}
    {ctx' : RequestContext} (hdisp : Dispatched env cfg st' call' ctx' .mock)
    {subs : HashMap Text Text}
    (h : AnsweredSwapped env cfg st' call' ctx' (learnEntry env cfg call ctx res) subs) :
    ∃ s, (handle env cfg st' call').2 = .served .smartSwap s
      ∧ (Framed s.response.headers s.response.body
        ↔ res.headers.getAll contentLengthHeader.toText = []
          ∨ (isRedacted env cfg ctx contentLengthHeader.toText = false
            ∧ (Text.utf8 (applySubstitutionsToJson env call'.order
              (storedBody cfg res.body) subs)).length = res.body.length)) := by
  have hcarries : Carries env cfg ctx (learnEntry env cfg call ctx res) res :=
    carries_learnEntry env cfg call ctx res
  refine ⟨servedEntry env call' xGhostSwapMatch ((learnEntry env cfg call ctx res).withBody
    (applySubstitutionsToJson env call'.order (storedBody cfg res.body) subs)), ?_, ?_⟩
  · rw [handle_mock hdisp, (MockOutcome.smartSwap _ h.exact h.sequence h.resource h.transition
      h.swapHit : MockOutcome env cfg call' ctx' st' _ _).eq]
    rfl
  · rw [framed_servedEntry_iff (carries_withBody hcarries _) hup call' (by decide)]
    rfl

variable (env cfg)

/-- A replay of a recorded response is framed exactly when no content
length came, or it was not redacted and the served text is as long as the
upstream's body: for the exact layer the text that was stored, for smart
swap what it makes of that text. -/
theorem replay_framed_iff (call : Call) (ctx : RequestContext) (res : UpstreamResponse)
    (hup : Framed res.headers res.body) (st' : AppState) (call' : Call)
    (ctx' : RequestContext) (hdisp : Dispatched env cfg st' call' ctx' .mock) :
    let e := learnEntry env cfg call ctx res
    let noLength := res.headers.getAll contentLengthHeader.toText = []
    let stored := isRedacted env cfg ctx contentLengthHeader.toText = false
    (AnsweredExactly call' ctx' e →
      ∃ s, (handle env cfg st' call').2 = .served .exact s
        ∧ (Framed s.response.headers s.response.body
          ↔ noLength ∨ (stored ∧ if cfg.maxBodyBytes < res.body.length
              then res.body.length = 26
              else ∀ r, .invalid r ∈ Utf8.pieces res.body → r.length = 3)))
      ∧ ∀ subs, AnsweredSwapped env cfg st' call' ctx' e subs →
        ∃ s, (handle env cfg st' call').2 = .served .smartSwap s
          ∧ (Framed s.response.headers s.response.body
            ↔ noLength ∨ (stored ∧ (Text.utf8 (applySubstitutionsToJson env call'.order
                (storedBody cfg res.body) subs)).length = res.body.length)) := by
  intro e noLength stored
  have hcarries : Carries env cfg ctx e res := carries_learnEntry env cfg call ctx res
  constructor
  · intro h
    refine ⟨servedEntry env call' xGhostMock e, ?_, ?_⟩
    · rw [handle_mock hdisp, (MockOutcome.exact e h.find h.body
        : MockOutcome env cfg call' ctx' st' _ _).eq]
      rfl
    · rw [framed_servedEntry_iff hcarries hup call' (by decide), ← length_storedBody_iff]
      rfl
  · exact fun subs h => framed_of_answeredSwapped call ctx res hup hdisp h

-- ========================================================= on the inputs

/-- Smart swap leaves a text as long as it was: there is nothing to replace,
or no string of its JSON is replaced and it prints as it read, or it is
ASCII and no JSON and every value is as long as the one it replaces. -/
inductive KeepsLength (body : Text) (subs : HashMap Text Text) : Prop where
  | nothing (hsize : subs.size = 0) : KeepsLength body subs
  | printed {v : Json} (hparse : env.parseJson body = some v) (hprint : env.printJson v = body)
      (hstrings : ∀ s ∈ v.strings, subs.lookup s = none) : KeepsLength body subs
  | replaced (hjson : env.parseJson body = none) (hascii : ∀ c ∈ body, c.toNat < 128)
      (hvalues : ∀ k v, subs.lookup k = some v → v.length = k.length ∧ ∀ c ∈ v, c.toNat < 128) :
      KeepsLength body subs

variable {env cfg}

/-- Replacing values by values as long, one key after another. -/
theorem length_foldl_replace {pairs : List (Text × Text)}
    (hpairs : ∀ p ∈ pairs, p.2.length = p.1.length ∧ ∀ c ∈ p.2, c.toNat < 128) {text : Text}
    (htext : ∀ c ∈ text, c.toNat < 128) :
    (pairs.foldl (fun t p => replaceAtWordBoundary t p.1 p.2) text).length = text.length
      ∧ ∀ c ∈ pairs.foldl (fun t p => replaceAtWordBoundary t p.1 p.2) text,
        c.toNat < 128 := by
  induction pairs generalizing text with
  | nil => exact ⟨rfl, htext⟩
  | cons p pairs ih =>
      rw [List.forall_mem_cons] at hpairs
      obtain ⟨⟨hlen, hvalue⟩, hrest⟩ := hpairs
      obtain ⟨hone, hascii⟩ := length_replaceAtWordBoundary htext hvalue hlen
      obtain ⟨hall, hascii'⟩ := ih hrest hascii
      rw [List.foldl_cons]
      exact ⟨hall.trans hone, hascii'⟩

theorem KeepsLength.length_eq {body : Text} {subs : HashMap Text Text}
    (h : KeepsLength env body subs) (rs : RandomState) :
    (Text.utf8 (applySubstitutionsToJson env rs body subs)).length
      = (Text.utf8 body).length := by
  cases h with
  | nothing hsize => rw [applySubstitutionsToJson, if_pos hsize]
  | @printed v hparse hprint hstrings =>
      unfold applySubstitutionsToJson
      rw [hparse]
      dsimp only
      rw [substituteInJson_of_none hstrings, hprint, ite_self]
  | replaced hjson hascii hvalues =>
      rw [applySubstitutions_text rs hjson]
      obtain ⟨hlen, hascii'⟩ := length_foldl_replace
        (fun p hp => hvalues p.1 p.2 ((mem_applyOrder rs).mp hp)) hascii
      rw [Utf8.length_utf8_of_ascii hascii', Utf8.length_utf8_of_ascii hascii, hlen]

/-- Where smart swap keeps the length of the stored text, its answer is framed
exactly when that of the exact layer would be. -/
theorem swapped_framed_iff (call : Call) (ctx : RequestContext) (res : UpstreamResponse)
    (hup : Framed res.headers res.body) {st' : AppState} {call' : Call}
    {ctx' : RequestContext} (hdisp : Dispatched env cfg st' call' ctx' .mock)
    {subs : HashMap Text Text}
    (h : AnsweredSwapped env cfg st' call' ctx' (learnEntry env cfg call ctx res) subs)
    (hkeeps : KeepsLength env (storedBody cfg res.body) subs) :
    ∃ s, (handle env cfg st' call').2 = .served .smartSwap s
      ∧ (Framed s.response.headers s.response.body
        ↔ res.headers.getAll contentLengthHeader.toText = []
          ∨ (isRedacted env cfg ctx contentLengthHeader.toText = false
            ∧ if cfg.maxBodyBytes < res.body.length then res.body.length = 26
              else ∀ r, .invalid r ∈ Utf8.pieces res.body → r.length = 3)) := by
  obtain ⟨s, hserved, hframed⟩ := framed_of_answeredSwapped call ctx res hup hdisp h
  refine ⟨s, hserved, ?_⟩
  rw [hframed, hkeeps.length_eq, length_storedBody_iff]

end Framing

-- =========================================================== one exchange

theorem framed_of_singleton {headers : HeaderMap} {body : Bytes} {v : HeaderValue}
    (hlist : headers.getAll contentLengthHeader.toText = [v])
    (hv : v.decimal = some body.length) : Framed headers body := by
  intro w hw
  rw [hlist, List.mem_singleton] at hw
  rw [hw, hv]

/-- A user, asked for by number. -/
def getUser (id : Text) : Request where
  method := "GET"
  pathAndQuery := some ("/users/" ++ id)
  headers := []
  body := []

def valueSix : HeaderValue := ⟨Text.utf8 "6", by decide⟩

/-- A line of text that names the user, with its length. -/
def textAnswer : UpstreamResponse where
  status := StatusCode.ok
  headers := [(contentLengthHeader, valueSix)]
  body := Text.utf8 "user 1"

def swappingConfig : Config := { Config.new with smartSwapEnabled := true }

/-- The recording of the first user. -/
noncomputable def recordedUser : MockEntry :=
  learnEntry default swappingConfig (Call.plain default (getUser "1") (some textAnswer))
    (contextFor default swappingConfig recordingProxy (getUser "1") [] globalTenant) textAnswer

/-- The proxy after the first user was recorded and it was set to MOCK. -/
noncomputable def swappingProxy : AppState :=
  (afterwards default swappingConfig sampleCodec recordingProxy
    (Call.plain default (getUser "1") (some textAnswer)) [.admin (.setMode .mock)]).1

noncomputable def secondUser : RequestContext :=
  contextFor default swappingConfig swappingProxy (getUser "2") [] globalTenant

theorem mocks_swappingProxy :
    swappingProxy.mocks = MockLibrary.new.publish globalTenant recordedUser := rfl

theorem wellFormed_swappingProxy : swappingProxy.mocks.WellFormed := by
  rw [mocks_swappingProxy]
  exact MockLibrary.wellFormed_new.publish _ _

/-- The library holds the one recording. -/
theorem lookup_swappingProxy (key : MockKey) (e : MockEntry) :
    (swappingProxy.mocks.mocksOf globalTenant).lookup key = some e
      ↔ key = recordedUser.key ∧ e = recordedUser := by
  rw [mocks_swappingProxy, MockLibrary.mocksOf_publish, if_pos rfl, MockLibrary.mocksOf_new]
  by_cases hkey : key = recordedUser.key
  · rw [hkey, Finmap.lookup_insert, Option.some.injEq]
    constructor
    · rintro rfl
      exact ⟨rfl, rfl⟩
    · rintro ⟨-, rfl⟩
      rfl
  · rw [Finmap.lookup_insert_of_ne _ hkey, Finmap.lookup_empty]
    exact iff_of_false (by simp) fun h => hkey h.1

/-- Smart swap has the one recording to try. -/
theorem mem_entries_swappingProxy (e : MockEntry) :
    e ∈ (swappingProxy.mocks.entriesForService default globalTenant (some globalTenant)).reverse
      ↔ e = recordedUser := by
  rw [List.mem_reverse, MockLibrary.mem_entriesForService wellFormed_swappingProxy]
  constructor
  · exact fun h => ((lookup_swappingProxy _ _).mp h.2).2
  · rintro rfl
    exact ⟨rfl, (lookup_swappingProxy _ _).mpr ⟨rfl, rfl⟩⟩

theorem fits_recordedUser : fitsRequest default "GET" "/users/2" recordedUser = true := by
  decide

theorem differences_recordedUser :
    differences default default recordedUser "/users/2" []
      = [(("1" : Text), ("2" : Text))] := by
  have hquery : queryDiffs default (queryParams recordedUser.request.uri)
      (queryParams "/users/2") = [] := by
    have hparams : queryParams recordedUser.request.uri = ∅ := rfl
    rw [hparams, queryDiffs, RandomState.iter_empty]
    rfl
  unfold differences
  rw [hquery]
  decide

/-- The second user is answered from the recording of the first. -/
theorem answeredSwapped_secondUser :
    AnsweredSwapped default swappingConfig swappingProxy (Call.plain default (getUser "2") none)
      secondUser recordedUser
      (evidenceMap default default recordedUser "/users/2" []) where
  exact := by
    intro e he
    have hfind : swappingProxy.mocks.findExact default globalTenant "GET" "/users/2" globalTenant
        = some e := he
    rw [MockLibrary.findExact_eq wellFormed_swappingProxy] at hfind
    exact absurd ((lookup_swappingProxy _ _).mp hfind).1 (by decide)
  sequence := rfl
  resource := rfl
  transition := fun _ _ _ h => by cases h
  enabled := rfl
  picked := by
    show (swappingProxy.mocks.entriesForService default globalTenant
      (some globalTenant)).reverse.find? (fitsRequest default "GET" "/users/2") = _
    cases hfind : (swappingProxy.mocks.entriesForService default globalTenant
        (some globalTenant)).reverse.find? (fitsRequest default "GET" "/users/2") with
    | none =>
        have hnone := List.find?_eq_none.mp hfind recordedUser
          ((mem_entries_swappingProxy _).mpr rfl)
        exact absurd fits_recordedUser hnone
    | some e =>
        rw [(mem_entries_swappingProxy e).mp (List.mem_of_find?_eq_some hfind)]
  replaces := swapSubs_of_fits default default [] fits_recordedUser
  differs := by
    intro hsize
    rw [evidenceMap, differences_recordedUser, HashMap.size_eq_zero,
      HashMap.collect_eq_empty] at hsize
    revert hsize
    decide

/-- One digit for another: the text stays as long. -/
theorem keepsLength_secondUser :
    KeepsLength default (storedBody swappingConfig textAnswer.body)
      (evidenceMap default default recordedUser "/users/2" []) := by
  refine .replaced rfl (by decide) fun k v hlook => ?_
  have hpair := HashMap.mem_of_lookup_collect hlook
  rw [differences_recordedUser] at hpair
  have hone := List.mem_of_mem_filter hpair
  rw [List.mem_singleton] at hone
  cases hone
  decide

/-- The object comes back framed from the exact layer, and the second user's
line from smart swap. -/
theorem replay_framed_json :
    (∃ s, (handle default Config.new (replayingProxy jsonAnswer)
          (Call.plain default getA none)).2 = .served .exact s
        ∧ Framed s.response.headers s.response.body)
      ∧ ∃ s, (handle default swappingConfig swappingProxy
          (Call.plain default (getUser "2") none)).2 = .served .smartSwap s
        ∧ Framed s.response.headers s.response.body := by
  have hup : Framed jsonAnswer.headers jsonAnswer.body :=
    framed_of_singleton (v := valueTwo) rfl (by decide)
  obtain ⟨s, hserved, hframed⟩ := (replay_framed_iff default Config.new
    (Call.plain default getA (some jsonAnswer)) contextA jsonAnswer hup
    (replayingProxy jsonAnswer) (Call.plain default getA none)
    (contextFor default Config.new (replayingProxy jsonAnswer) getA [] globalTenant)
    (repeated_getA jsonAnswer).toDispatched).1 (answeredExactly_getA jsonAnswer)
  have hup' : Framed textAnswer.headers textAnswer.body :=
    framed_of_singleton (v := valueSix) rfl (by decide)
  obtain ⟨s', hserved', hframed'⟩ := (replay_framed_iff default swappingConfig
    (Call.plain default (getUser "1") (some textAnswer))
    (contextFor default swappingConfig recordingProxy (getUser "1") [] globalTenant) textAnswer
    hup' swappingProxy (Call.plain default (getUser "2") none) secondUser
    ⟨Nat.zero_le _, rfl, rfl⟩).2 _ answeredSwapped_secondUser
  refine ⟨⟨s, hserved, hframed.mpr (Or.inr ⟨by decide, ?_⟩)⟩,
    s', hserved', hframed'.mpr (Or.inr ⟨by decide, ?_⟩)⟩
  · rw [if_neg (by decide)]
    intro r hr
    unfold jsonAnswer at hr
    rw [Utf8.pieces_utf8, List.mem_map] at hr
    obtain ⟨c, -, hc⟩ := hr
    cases hc
  · exact (keepsLength_secondUser.length_eq _).trans (by decide)

/-- The byte comes back under the length it came with. -/
theorem replayed_byte_misframed :
    Framed byteAnswer.headers byteAnswer.body
      ∧ ∃ s, (handle default Config.new (replayingProxy byteAnswer)
          (Call.plain default getA none)).2 = .served .exact s
        ∧ ¬ Framed s.response.headers s.response.body := by
  have hup : Framed byteAnswer.headers byteAnswer.body :=
    framed_of_singleton (v := valueOne) rfl (by decide)
  refine ⟨hup, _, replay_byteAnswer, ?_⟩
  rw [framed_servedEntry_iff (carries_learnEntry _ _ _ _ _) hup _ (by decide)]
  rintro (hnone | ⟨-, hlen⟩)
  · revert hnone
    decide
  · revert hlen
    decide

end GostlyProxy
