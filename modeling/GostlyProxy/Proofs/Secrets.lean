/-
What stands in the logs, line by line.

The proxy writes a log in three ways: a task appends the line of an entry,
a reload rewrites a mock file from what it read, and nothing else. So every
line is the line of an entry that was spawned, and a property of responses
that all spawned entries have is one of every line (`logsInv_exec`).

# Redaction

A recording redacts the response before it spawns anything
(`redacted_learnEntry`); an injected entry is spawned as it was posted.
`secrets_redacted_iff` says for which posts the logs stay redacted.
-/
import GostlyProxy.Proofs.Inject
import GostlyProxy.Proofs.MockLog
import GostlyProxy.Proofs.MockTasks
import GostlyProxy.Proofs.Reload

namespace GostlyProxy

open Lib

-- =============================================================== the logs

section Logs

variable (codec : EntryCodec) (Q : MockResponse → Prop)

/-- Every line is the line of an entry whose response has the property. -/
def LinesOf (text : Text) : Prop :=
  ∀ line ∈ Text.lines text, ∃ e : MockEntry, line = codec.print e ∧ Q e.response

/-- A text of complete such lines. -/
structure LogOf (text : Text) : Prop where
  terminated : Text.NewlineTerminated text
  lines : LinesOf codec Q text

/-- All files of a kind are such texts. -/
def LogsOf (name : Text → Text) (dir : Dir) : Prop :=
  ∀ svc, LogOf codec Q ((dir.lookup (name svc)).getD [])

variable {codec Q}

theorem logOf_nil : LogOf codec Q [] := ⟨Or.inl rfl, fun _ h => absurd h List.not_mem_nil⟩

theorem LogOf.append (hcodec : codec.Lawful) {text : Text} (h : LogOf codec Q text)
    {e : MockEntry} (he : Q e.response) : LogOf codec Q (text ++ (codec.print e ++ ['\n'])) where
  terminated := Text.newlineTerminated_append_line _ _
  lines := by
    intro line hline
    rw [Text.lines_append_line h.terminated (hcodec.isLine_print e)] at hline
    rcases List.mem_append.mp hline with hline | hline
    · exact h.lines line hline
    · exact ⟨e, List.mem_singleton.mp hline, he⟩

/-- What is read from such a text has the property. -/
theorem LogOf.response_readMocks (hcodec : codec.Lawful) {text : Text}
    (h : LogOf codec Q text) {key : MockKey} {e : MockEntry}
    (he : (readMocks codec text).lookup key = some e) : Q e.response := by
  rw [lookup_readMocks] at he
  have hmem := (List.mem_filter.mp (List.mem_of_getLast? he)).1
  obtain ⟨line, hline, hparse⟩ := List.mem_filterMap.mp hmem
  obtain ⟨e', rfl, he'⟩ := h.lines line hline
  rw [hcodec.parse_print, Option.some.injEq] at hparse
  exact hparse ▸ he'

/-- A compacted text is one of the entries that were read. -/
theorem LogOf.compact (hcodec : codec.Lawful) (rs : RandomState) {text : Text}
    (h : LogOf codec Q text) (hsize : (readMocks codec text).size ≠ 0) :
    LogOf codec Q (compact codec rs (readMocks codec text)) where
  terminated := newlineTerminated_compact rs _
  lines := by
    have hne : rs.values (readMocks codec text) ≠ [] := by
      rwa [Ne, ← List.length_eq_zero_iff, RandomState.values, List.length_map,
        rs.length_iter]
    intro line hline
    rw [GostlyProxy.compact, Text.lines_join ?_ (List.map_eq_nil_iff.not.mpr hne)] at hline
    · obtain ⟨e, he, rfl⟩ := List.mem_map.mp hline
      obtain ⟨entry, hentry, rfl⟩ := List.mem_map.mp he
      exact ⟨entry.2, rfl, h.response_readMocks hcodec (rs.mem_iter.mp hentry)⟩
    · intro l hl
      obtain ⟨e, -, rfl⟩ := List.mem_map.mp hl
      exact hcodec.isLine_print e

/-- Replacing one file by such a text. -/
theorem LogsOf.insert {name : Text → Text} {dir : Dir} (h : LogsOf codec Q name dir)
    (fname : Text) {text : Text} (htext : LogOf codec Q text) :
    LogsOf codec Q name (dir.insert fname text) := by
  intro svc
  by_cases hname : name svc = fname
  · rw [hname, Finmap.lookup_insert]
    exact htext
  · rw [Finmap.lookup_insert_of_ne _ hname]
    exact h svc

-- ============================================================== the reload

theorem LogsOf.loadOneSegment (hcodec : codec.Lawful) (rs : RandomState) {dir : Dir}
    (h : LogsOf codec Q mockFileName dir) (fname : Text) :
    LogsOf codec Q mockFileName (loadOneSegment codec rs dir fname).1 := by
  intro svc
  by_cases hf : mockFileName svc = fname
  · subst hf
    have hsvc := h svc
    unfold GostlyProxy.loadOneSegment
    rw [svcIdOf_mockFileName]
    cases hlook : dir.lookup (mockFileName svc) with
    | none => simpa [hlook] using hsvc
    | some content =>
        rw [hlook, Option.getD_some] at hsvc
        by_cases h0 : (readMocks codec content).size = 0
        · simpa [h0, hlook] using hsvc
        · simp only [if_neg h0, replaceFile, Finmap.lookup_insert, Option.getD_some]
          exact hsvc.compact hcodec rs h0
  · rw [loadOneSegment_fst_ne codec rs hf]
    exact h svc

theorem LogsOf.reloadFull (hcodec : codec.Lawful) (rs : RandomState) {dir : Dir}
    (h : LogsOf codec Q mockFileName dir) :
    LogsOf codec Q mockFileName (reloadFull codec rs dir).1 := by
  have hscan : ∀ (fnames : List Text) (acc : Dir × MockLibrary),
      LogsOf codec Q mockFileName acc.1 →
      LogsOf codec Q mockFileName (fnames.foldl (loadNext codec rs) acc).1 := by
    intro fnames
    induction fnames with
    | nil => exact fun _ hacc => hacc
    | cons fname fnames ih =>
        intro acc hacc
        apply ih
        rw [fst_loadNext]
        exact hacc.loadOneSegment hcodec rs fname
  exact hscan _ _ h

theorem LogsOf.reloadOneFile (hcodec : codec.Lawful) (rs : RandomState) {dir : Dir}
    (h : LogsOf codec Q mockFileName dir) (fname : Text) (lib : MockLibrary) :
    LogsOf codec Q mockFileName (reloadOneFile codec rs dir fname lib).1 := by
  rw [fst_reloadOneFile]
  exact h.loadOneSegment hcodec rs fname

end Logs

-- =============================================================== the tasks

/-- The entry a task appends to a log. -/
def Spawned.logged : Spawned → Option MockEntry
  | .appendMockLog _ entry => some entry
  | .appendTrafficLog _ entry => some entry
  | _ => none

/-- All entries the tasks append have the property. -/
def TasksOf (Q : MockResponse → Prop) (tasks : List Spawned) : Prop :=
  ∀ e ∈ tasks.filterMap Spawned.logged, Q e.response

section Tasks

variable {env : Externals} {cfg : Config} {codec : EntryCodec} {Q : MockResponse → Prop}

theorem TasksOf.append {tasks later : List Spawned} (h : TasksOf Q tasks)
    (hlater : TasksOf Q later) : TasksOf Q (tasks ++ later) := by
  unfold TasksOf
  rw [List.filterMap_append]
  exact List.forall_mem_append.mpr ⟨h, hlater⟩

/-- A recording appends its entry, to the traffic log under another id. -/
theorem tasksOf_learnSpawned {call : Call} {ctx : RequestContext} {seq : UInt64}
    {entry : MockEntry} {res : UpstreamResponse} (h : Q entry.response) :
    TasksOf Q (learnSpawned env cfg call ctx seq entry res) := by
  have hentries : (learnSpawned env cfg call ctx seq entry res).filterMap Spawned.logged
      = (ctx.resolved.serviceId.map fun _ => trafficEntry call seq entry).toList ++ [entry] := by
    unfold learnSpawned
    rw [List.filterMap_append, List.filterMap_append, List.filterMap_append,
      filterMap_learnCapture env call ctx res fun _ _ _ _ _ => rfl]
    cases cfg.observabilityEnabled <;> cases ctx.resolved.serviceId <;> rfl
  intro e he
  rw [hentries] at he
  rcases List.mem_append.mp he with he | he
  · obtain ⟨svcId, -, rfl⟩ := Option.map_eq_some_iff.mp (Option.mem_toList.mp he)
    exact h
  · rw [List.mem_singleton.mp he]
    exact h

-- ================================================================ the runs

variable (Q) in
/-- The calls whose entries have the property, given that recordings do. -/
def PostsOf : LiveCall → Prop
  | .publish (.createMock entry) => Q entry.response
  | _ => True

variable (codec Q) in
/-- The logs of a state, and the entries still to be appended. -/
structure LogsInv (s : LiveProxy) (spawned : List Spawned) : Prop where
  tasks : TasksOf Q spawned
  mock : LogsOf codec Q mockFileName s.mockDir
  traffic : LogsOf codec Q trafficFileName s.trafficDir

theorem logsInv_start (st : AppState) : LogsInv codec Q (LiveProxy.start st) [] where
  tasks := fun _ h => absurd h List.not_mem_nil
  mock := fun _ => logOf_nil
  traffic := fun _ => logOf_nil

theorem tasksOf_publishOp
    (hlearn : ∀ call ctx res, Q (learnEntry env cfg call ctx res).response) (s : LiveProxy)
    {p : Publish} (hp : PostsOf Q (.publish p)) : TasksOf Q (publishOp env cfg s p).2 := by
  have hcase := publishCase env cfg s p
  generalize publishOp env cfg s p = out at hcase ⊢
  cases hcase with
  | recorded r ctx res h => exact tasksOf_learnSpawned (hlearn r.call ctx res)
  | quiet r st hmocks => exact fun _ h => absurd h List.not_mem_nil
  | created entry =>
      intro e he
      rw [List.mem_singleton.mp he, acceptedEntry_response]
      exact hp

theorem logsInv_op (hcodec : codec.Lawful)
    (hlearn : ∀ call ctx res, Q (learnEntry env cfg call ctx res).response) {s : LiveProxy}
    {spawned : List Spawned} (h : LogsInv codec Q s spawned) {call : LiveCall}
    (hcall : PostsOf Q call) :
    LogsInv codec Q (liveOp env cfg codec s call).1
      (spawned ++ (liveOp env cfg codec s call).2) := by
  cases call with
  | publish p =>
      obtain ⟨published, hreturns⟩ := publishReturns env cfg s p
      refine ⟨h.tasks.append (tasksOf_publishOp hlearn s hcall), ?_, ?_⟩
      · exact hreturns.mockDir.symm ▸ h.mock
      · exact hreturns.trafficDir.symm ▸ h.traffic
  | reloadFull rs =>
      exact ⟨h.tasks.append fun _ h => absurd h List.not_mem_nil, h.mock.reloadFull hcodec rs,
        h.traffic⟩
  | reloadOneFile rs fname =>
      exact ⟨h.tasks.append fun _ h => absurd h List.not_mem_nil,
        h.mock.reloadOneFile hcodec rs fname s.state.mocks, h.traffic⟩

theorem logsInv_complete (hcodec : codec.Lawful) {s : LiveProxy} {spawned : List Spawned}
    (h : LogsInv codec Q s spawned) (now : Nat) {task : Spawned} (htask : task ∈ spawned) :
    LogsInv codec Q (completeTask codec s now task) spawned := by
  have hentry : ∀ e, task.logged = some e → Q e.response :=
    fun e he => h.tasks e (List.mem_filterMap.mpr ⟨task, htask, he⟩)
  cases task with
  | appendMockLog svc e =>
      unfold completeTask
      dsimp only
      split
      · exact ⟨h.tasks, h.mock.insert _ ((h.mock svc).append hcodec (hentry e rfl)), h.traffic⟩
      · exact h
  | appendTrafficLog svc e =>
      unfold completeTask
      dsimp only
      split
      · exact ⟨h.tasks, h.mock, h.traffic.insert _ ((h.traffic svc).append hcodec (hentry e rfl))⟩
      · exact h
  | appendWideEvent | captureCreate => exact ⟨h.tasks, h.mock, h.traffic⟩

theorem logsInv_exec (hcodec : codec.Lawful)
    (hlearn : ∀ call ctx res, Q (learnEntry env cfg call ctx res).response) {st : AppState}
    {run : List (Detached.Action LiveCall Nat)} {w : Detached.World LiveProxy Spawned}
    (hposts : ∀ call, .op call ∈ run → PostsOf Q call)
    (hrun : Machine.exec (Detached.step (liveOp env cfg codec) (completeTask codec))
      (Detached.World.start (LiveProxy.start st)) run = some w) :
    LogsInv codec Q w.state w.spawned := by
  refine Detached.exec_inv (I := fun s spawned _ => LogsInv codec Q s spawned) ?_ ?_
    (logsInv_start st) hposts hrun
  · exact fun _ _ _ call hcall h => logsInv_op hcodec hlearn h hcall
  · exact fun _ _ _ now task htask h => logsInv_complete hcodec h now htask

end Tasks

-- ============================================================= redaction

/-- Every header of the floor, in whatever case, has the redacted value. -/
def RedactedResponse (env : Externals) (r : MockResponse) : Prop :=
  ∀ name value, r.headers.lookup name = some value → env.toLowercase name ∈ redactFloor →
    value = redacted

theorem toLowercase_redactFloor (env : Externals) {name : Text} (h : name ∈ redactFloor) :
    env.toLowercase name = name := by
  have hascii : ∀ name ∈ redactFloor,
      (∀ c ∈ name, c.toNat < 128) ∧ name.map toAsciiLowercase = name := by decide
  rw [env.toLowercase_ascii name (hascii name h).1, (hascii name h).2]

/-- What a recording stores is redacted, whatever the upstream sent and the
routes configure. -/
theorem redacted_learnEntry (env : Externals) (cfg : Config) (call : Call)
    (ctx : RequestContext) (res : UpstreamResponse) :
    RedactedResponse env (learnEntry env cfg call ctx res).response := by
  intro name value hvalue hfloor
  have hredacted : isRedacted env cfg ctx name = true := by
    unfold isRedacted
    rw [List.any_eq_true]
    refine ⟨env.toLowercase name, List.mem_append_left _ (cfg.redact_floor _ hfloor), ?_⟩
    exact decide_eq_true (toLowercase_redactFloor env hfloor)
  unfold learnEntry at hvalue
  rw [HashMap.lookup_mapValues, Option.map_eq_some_iff] at hvalue
  obtain ⟨sent, -, rfl⟩ := hvalue
  exact if_pos hredacted

section Redaction

variable (env : Externals) (cfg : Config) (codec : EntryCodec)

/-- The text of a service's traffic log. -/
def trafficText (s : LiveProxy) (svc : Text) : Text :=
  (s.trafficDir.lookup (trafficFileName svc)).getD []

/-- In every line of every log the response headers of the floor are
redacted. -/
structure LogsRedacted (s : LiveProxy) : Prop where
  mock : ∀ svc, LinesOf codec (RedactedResponse env) (mockText s svc)
  traffic : ∀ svc, LinesOf codec (RedactedResponse env) (trafficText s svc)

/-- The logs are redacted in every state of the run. -/
def StayRedacted (st : AppState) (run : List (Detached.Action LiveCall Nat)) : Prop :=
  ∀ before w, before <+: run →
    Machine.exec (Detached.step (liveOp env cfg codec) (completeTask codec))
      (Detached.World.start (LiveProxy.start st)) before = some w →
    LogsRedacted env codec w.state

/-- Every entry that is posted is redacted. -/
def PostsRedacted (run : List (Detached.Action LiveCall Nat)) : Prop :=
  ∀ entry, .op (.publish (.createMock entry)) ∈ run → RedactedResponse env entry.response

variable {env cfg codec}

theorem stayRedacted_of_posts (hcodec : codec.Lawful) {st : AppState}
    {run : List (Detached.Action LiveCall Nat)} (hposts : PostsRedacted env run) :
    StayRedacted env cfg codec st run := by
  intro before w hinit hrun
  have hposts' : ∀ call, .op call ∈ before → PostsOf (RedactedResponse env) call := by
    intro call hcall
    cases call with
    | publish p =>
        cases p with
        | createMock entry => exact hposts entry (hinit.subset hcall)
        | request r => trivial
    | reloadFull rs => trivial
    | reloadOneFile rs fname => trivial
  have hinv := logsInv_exec hcodec (redacted_learnEntry env cfg) hposts' hrun
  exact ⟨fun svc => (hinv.mock svc).lines, fun svc => (hinv.traffic svc).lines⟩

/-- Once the append of a posted entry has run, its line is in the file. -/
theorem redacted_of_stays (hcodec : codec.Lawful) {st : AppState}
    {run : List (Detached.Action LiveCall Nat)} {w : Detached.World LiveProxy Spawned}
    (hrun : Machine.exec (Detached.step (liveOp env cfg codec) (completeTask codec))
      (Detached.World.start (LiveProxy.start st)) run = some w)
    (hquiet : w.Quiescent) (hstay : StayRedacted env cfg codec st run) {entry : MockEntry}
    (hpost : .op (.publish (.createMock entry)) ∈ run)
    (hname : isFileName (mockFileName (injectedService (acceptedEntry entry))) = true) :
    RedactedResponse env (acceptedEntry entry).response := by
  generalize hsvc : injectedService (acceptedEntry entry) = svc at hname
  generalize he : acceptedEntry entry = e at hsvc ⊢
  have hspawned : .appendMockLog svc e ∈ w.spawned := by
    obtain ⟨s, hs⟩ := Detached.mem_spawned_of_op hrun hpost
    apply hs
    subst he hsvc
    exact List.mem_singleton_self _
  have hcompleted := (Detached.completed_perm hrun hquiet).mem_iff.mpr hspawned
  obtain ⟨before, i, now, w₁, w₂, hinit, hbefore, hafter, hstate⟩ :=
    Detached.exists_completion hrun hcompleted
  have hterminated : Text.NewlineTerminated (mockText w₁.state svc) :=
    ((logsInv_exec (Q := fun _ => True) hcodec (fun _ _ _ => trivial)
      (fun call _ => by unfold PostsOf; split <;> trivial) hbefore).mock svc).terminated
  have hline : codec.print e ∈ Text.lines (mockText w₂.state svc) := by
    rw [hstate, mockText_completeTask, appendedText_self hname,
      Text.lines_append_line hterminated (hcodec.isLine_print e)]
    exact List.mem_append_right _ (List.mem_singleton_self _)
  obtain ⟨e', hprint, hredacted⟩ := (hstay _ _ hinit hafter).mock svc _ hline
  have hsame : e = e' := by
    rw [← Option.some.injEq, ← hcodec.parse_print e, ← hcodec.parse_print e', hprint]
  exact hsame ▸ hredacted

end Redaction

-- ============================================================ the theorem

/-- In every run of requests, posts and reloads the logs stay redacted when
every posted entry is. When all tasks of the run have completed, and the
posts are for services with a file, they stay so for no other posts. -/
theorem secrets_redacted_iff (env : Externals) (cfg : Config) (codec : EntryCodec)
    (hcodec : codec.Lawful) (st : AppState) (run : List (Detached.Action LiveCall Nat)) :
    (PostsRedacted env run → StayRedacted env cfg codec st run)
    ∧ ∀ w, Machine.exec (Detached.step (liveOp env cfg codec) (completeTask codec))
        (Detached.World.start (LiveProxy.start st)) run = some w →
      w.Quiescent →
      (∀ entry, .op (.publish (.createMock entry)) ∈ run →
        isFileName (mockFileName (injectedService (acceptedEntry entry))) = true) →
      (StayRedacted env cfg codec st run ↔ PostsRedacted env run) := by
  refine ⟨stayRedacted_of_posts hcodec, fun w hrun hquiet hplain => ⟨?_, ?_⟩⟩
  · intro hstay entry hpost
    rw [← acceptedEntry_response]
    exact redacted_of_stays hcodec hrun hquiet hstay hpost (hplain entry hpost)
  · exact stayRedacted_of_posts hcodec

-- ============================================================ two cookies

/-- A recorded GET whose response sets a cookie. -/
def cookieEntry (cookie : Text) : MockEntry :=
  { getEntry "/a" "hi" with
    response :=
      { status := 200
        headers := Finmap.singleton "set-cookie" cookie
        body := "hi"
        latencyMs := 0 } }

/-- The line the JSON library prints for it, when the cookie needs no
escapes. -/
def cookieLine (cookie : Text) : Text :=
  ("\x7b\"id\":\"1\",\"timestamp\":\"2024-01-01T00:00:00Z\",\"request\":\x7b\"method\":\"GET\",\"uri\":\"/a\",\"body\":\"\"\x7d,\"response\":\x7b\"status\":200,\"headers\":\x7b\"set-cookie\":\"" : Text)
  ++ cookie
  ++ ("\"\x7d,\"body\":\"hi\",\"latency_ms\":0\x7d,\"tenant\":\"_global\",\"workload_class\":\"unknown\"\x7d" : Text)

set_option maxRecDepth 4000 in
/-- The lines of the entry with a cookie and with the cookie redacted. -/
def twoCookies : LineTable :=
  .pair (cookieEntry "sid=1") (cookieEntry redacted) (cookieLine "sid=1")
    (cookieLine redacted) ⟨⟨by decide, by decide⟩, by decide⟩
    ⟨⟨by decide, by decide⟩, by decide⟩ (by decide)

/-- An entry is posted, and its append runs. -/
def onePost (entry : MockEntry) : List (Detached.Action LiveCall Nat) :=
  [.op (.publish (.createMock entry)), .complete 0 0]

theorem lookup_cookie (cookie : Text) {name : Text} (hname : name = "set-cookie") :
    (cookieEntry cookie).response.headers.lookup name = some cookie := by
  rw [hname]
  exact Finmap.lookup_singleton_eq ..

theorem cookie_of_lookup {cookie name value : Text}
    (h : (cookieEntry cookie).response.headers.lookup name = some value) : value = cookie := by
  have hmem : name ∈ (cookieEntry cookie).response.headers :=
    Finmap.mem_of_lookup_eq_some h
  have hname : name = "set-cookie" := (Finmap.mem_singleton _ _ _).mp hmem
  rw [hname] at h
  exact Option.some.inj (h.symm.trans (lookup_cookie cookie rfl))

/-- The entry is posted and appended to the file of unrouted traffic. -/
theorem exec_onePost (codec : EntryCodec) (cookie : Text) :
    ∃ w, Machine.exec (Detached.step (liveOp default Config.new codec) (completeTask codec))
        (Detached.World.start (LiveProxy.start emptyProxy)) (onePost (cookieEntry cookie))
          = some w
      ∧ w.Quiescent
      ∧ mockText w.state globalTenant = codec.print (cookieEntry cookie) ++ ['\n'] := by
  refine ⟨_, rfl, rfl, ?_⟩
  refine (mockText_completeTask _ 0 (.appendMockLog globalTenant (cookieEntry cookie))
    globalTenant).trans ?_
  rw [appendedText_self (by decide)]
  rfl

theorem print_sid : twoCookies.codec.print (cookieEntry "sid=1") = cookieLine "sid=1" := by
  have hfind : (twoCookies.rows.find? fun r => r.1 = cookieEntry "sid=1")
      = some (cookieEntry "sid=1", cookieLine "sid=1") :=
    List.find?_cons_of_pos (decide_eq_true rfl)
  rw [twoCookies.print_codec, twoCookies.print_of_find hfind]

theorem print_redacted :
    twoCookies.codec.print (cookieEntry redacted) = cookieLine redacted := by
  have hne : cookieEntry "sid=1" ≠ cookieEntry redacted := by
    intro h
    have hlook := lookup_cookie "sid=1" rfl
    rw [h] at hlook
    exact absurd (cookie_of_lookup hlook) (by decide)
  have hfind : (twoCookies.rows.find? fun r => r.1 = cookieEntry redacted)
      = some (cookieEntry redacted, cookieLine redacted) :=
    (List.find?_cons_of_neg (by simpa using hne)).trans
      (List.find?_cons_of_pos (decide_eq_true rfl))
  rw [twoCookies.print_codec, twoCookies.print_of_find hfind]

/-- The entry is posted with its cookie redacted: its line is all there
is. -/
theorem redacted_cookie_stays :
    StayRedacted default Config.new twoCookies.codec emptyProxy
        (onePost (cookieEntry redacted))
      ∧ ∃ w, Machine.exec (Detached.step (liveOp default Config.new twoCookies.codec)
          (completeTask twoCookies.codec)) (Detached.World.start (LiveProxy.start emptyProxy))
          (onePost (cookieEntry redacted)) = some w
        ∧ mockText w.state globalTenant = cookieLine redacted ++ ['\n'] := by
  constructor
  · refine (secrets_redacted_iff default Config.new twoCookies.codec twoCookies.codec_lawful
      emptyProxy (onePost (cookieEntry redacted))).1 ?_
    intro entry hentry
    have hposted : entry = cookieEntry redacted := by
      simpa [onePost] using hentry
    rw [hposted]
    intro name value hvalue _
    exact cookie_of_lookup hvalue
  · obtain ⟨w, hrun, -, htext⟩ := exec_onePost twoCookies.codec redacted
    exact ⟨w, hrun, print_redacted ▸ htext⟩

/-- The entry is posted with the cookie: the cookie is in the file. -/
theorem posted_cookie_in_log :
    ∃ w, Machine.exec (Detached.step (liveOp default Config.new twoCookies.codec)
        (completeTask twoCookies.codec)) (Detached.World.start (LiveProxy.start emptyProxy))
        (onePost (cookieEntry "sid=1")) = some w
      ∧ mockText w.state globalTenant = cookieLine "sid=1" ++ ['\n']
      ∧ ¬ LogsRedacted default twoCookies.codec w.state := by
  obtain ⟨w, hrun, -, htext⟩ := exec_onePost twoCookies.codec "sid=1"
  refine ⟨w, hrun, print_sid ▸ htext, fun hlogs => ?_⟩
  have hline : twoCookies.codec.print (cookieEntry "sid=1")
      ∈ Text.lines (mockText w.state globalTenant) := by
    have happended := Text.lines_append_line (t := []) (Or.inl rfl)
      (twoCookies.codec_lawful.isLine_print (cookieEntry "sid=1"))
    rw [htext, ← List.nil_append (_ ++ ['\n']), happended]
    exact List.mem_singleton_self _
  obtain ⟨e, hprint, hredacted⟩ := hlogs.mock globalTenant _ hline
  have hsame : cookieEntry "sid=1" = e := twoCookies.print_injective hprint
  subst hsame
  have hvalue := hredacted "set-cookie" "sid=1" (lookup_cookie "sid=1" rfl)
    (by rw [toLowercase_redactFloor _ (by decide)]; decide)
  exact absurd hvalue (by decide)

end GostlyProxy
