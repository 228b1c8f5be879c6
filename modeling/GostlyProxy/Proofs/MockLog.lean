/-
Appends and reloads of one mock file, interleaved.

# The model

`append_to_mock_log` appends a complete line in one step.
`load_one_segment` takes three: read the whole file, write the compacted
text to the `.tmp` file, rename it over the file. All loads of one file
share one `.tmp` file. A load that finds no parseable line ends after the
read, and a rename that finds no `.tmp` file changes nothing.

# What is lost

A line appended after the read is not in the compacted text, so the rename
takes it away. Whose read counts is a matter of the shared `.tmp` file: that
of the load that wrote it last, which need not be the one that renames it.
When nothing is appended between that read and the rename, compaction has
kept the map and the rename is quiet (`Loads.quiet`). If that is so of every
rename of the schedule, the file's map is the initial one with every
appended entry inserted in order, in every state of the run, and no entry is
lost but to a later one of its key (`keeps_of_undisturbed`).
-/
import GostlyProxy.Lib.Machine
import GostlyProxy.Proofs.Codec
import GostlyProxy.Proofs.Disk

namespace GostlyProxy

open Lib

-- ============================================================== the model

/-- Where one `load_one_segment` stands. -/
inductive LoaderPhase where
  | idle
  | read (content : Text)
  | wrote
  | finished

/-- One mock file, its `.tmp` file and the loads of it; `appended` is the
history of the appends, oldest first. -/
structure LogState where
  file : Text
  tmp : Option Text
  loader : Nat → LoaderPhase
  appended : List MockEntry

def LogState.start (file : Text) : LogState where
  file := file
  tmp := none
  loader := fun _ => .idle
  appended := []

inductive LogAction where
  | append (e : MockEntry)
  | read (i : Nat)
  | write (i : Nat) (rs : RandomState)
  | rename (i : Nat)

section Log

variable (codec : EntryCodec)

def logStep (s : LogState) : LogAction → Option LogState
  | .append e =>
      some { s with
        file := s.file ++ (codec.print e ++ ['\n'])
        appended := s.appended ++ [e] }
  | .read i =>
      match s.loader i with
      | .idle => some { s with loader := Function.update s.loader i (.read s.file) }
      | _ => none
  | .write i rs =>
      match s.loader i with
      | .read content =>
          let svcMocks := readMocks codec content
          if svcMocks.size = 0 then
            some { s with loader := Function.update s.loader i .finished }
          else
            some { s with
              tmp := some (compact codec rs svcMocks)
              loader := Function.update s.loader i .wrote }
      | _ => none
  | .rename i =>
      match s.loader i with
      | .wrote =>
          some { s with
            file := s.tmp.getD s.file
            tmp := none
            loader := Function.update s.loader i .finished }
      | _ => none

/-- Every load that has begun has ended. -/
def LogState.Quiescent (s : LogState) : Prop :=
  ∀ i, s.loader i = .idle ∨ s.loader i = .finished

/-- For every appended entry the file's map holds it, or one appended later
under its key. -/
def KeepsAppended (s : LogState) : Prop :=
  ∀ before e after, s.appended = before ++ e :: after →
    ∃ e' ∈ e :: after, (readMocks codec s.file).lookup e.key = some e'

/-- A rename happens while the `.tmp` file says what the file says. -/
def Quiet (s : LogState) : LogAction → Prop
  | .rename _ => ∀ text, s.tmp = some text →
      readMocks codec text = readMocks codec s.file
  | _ => True

-- ============================================================ the schedules

/-- The load that was the last to write since the last rename, which takes
the `.tmp` file away. -/
def lastWriter : List LogAction → Option Nat :=
  List.foldl (fun last a => match a with
    | .write i _ => some i
    | .rename _ => none
    | _ => last) none

/-- Something was appended after the load's read. -/
def appendedSinceRead (i : Nat) : List LogAction → Bool :=
  List.foldl (fun appended a => match a with
    | .append _ => true
    | .read j => if j = i then false else appended
    | _ => appended) false

/-- Nothing was appended since the load that was the last to write has
read the file, unless there is nothing to rename. -/
def Undisturbed (past : List LogAction) : Prop :=
  ∀ i, lastWriter past = some i → appendedSinceRead i past = false

/-- The schedule comes to each of its renames undisturbed. -/
def UndisturbedRenames (schedule : List LogAction) : Prop :=
  ∀ past i later, schedule = past ++ .rename i :: later → Undisturbed past

-- ================================================== the steps and the code

/-- An append is `append_to_mock_log` of the entry's line. -/
theorem append_step_eq_appendToMockLog {s : LogState} (dir : Dir) (svcId : Text)
    (e : MockEntry) (h : dir.lookup (mockFileName svcId) = some s.file) :
    ∃ s', logStep codec s (.append e) = some s'
      ∧ (appendToMockLog dir svcId (codec.print e)).lookup (mockFileName svcId)
        = some s'.file := by
  refine ⟨_, rfl, ?_⟩
  unfold appendToMockLog
  rw [Finmap.lookup_insert, h]
  rfl

/-- The three steps of a load in a row are `load_one_segment`. -/
theorem load_steps_eq_loadOneSegment (rs : RandomState) (dir : Dir) (svcId text : Text)
    (h : dir.lookup (mockFileName svcId) = some text) (i : Nat) :
    ∃ s, Machine.exec (logStep codec) (LogState.start text)
        (if (readMocks codec text).size = 0 then [.read i, .write i rs]
          else [.read i, .write i rs, .rename i]) = some s
      ∧ (loadOneSegment codec rs dir (mockFileName svcId)).1.lookup (mockFileName svcId)
        = some s.file := by
  unfold loadOneSegment
  rw [svcIdOf_mockFileName]
  simp only [h]
  by_cases h0 : (readMocks codec text).size = 0
  · rw [if_pos h0, if_pos h0]
    refine ⟨{ LogState.start text with
      loader := Function.update (Function.update (fun _ => .idle) i (.read text)) i
        .finished }, ?_, h⟩
    simp [Machine.exec, logStep, LogState.start, h0]
  · rw [if_neg h0, if_neg h0]
    refine ⟨{ LogState.start text with
      file := compact codec rs (readMocks codec text)
      loader := Function.update (Function.update (Function.update (fun _ => .idle) i
        (.read text)) i .wrote) i .finished }, ?_, ?_⟩
    · simp [Machine.exec, logStep, LogState.start, h0]
    · unfold replaceFile
      rw [Finmap.lookup_insert]

-- ========================================================== the invariant

variable {codec}

theorem newlineTerminated_compact (rs : RandomState) (m : ServiceMocks) :
    Text.NewlineTerminated (compact codec rs m) := Or.inr ⟨_, rfl⟩

/-- The map after some appends to a map. -/
def insertAll (m : ServiceMocks) (es : List MockEntry) : ServiceMocks :=
  es.foldl (fun m e => m.insert e.key e) m

/-- Under an inserted key lies the last entry that carries it. -/
theorem lookup_insertAll_append {m : ServiceMocks} {before after : List MockEntry}
    {e : MockEntry} :
    ∃ e' ∈ e :: after, (insertAll m (before ++ e :: after)).lookup e.key = some e' := by
  unfold insertAll
  rw [List.foldl_append, List.foldl_cons]
  generalize before.foldl (fun m e => m.insert e.key e) m = m'
  -- After the entry itself, every later insert of the key is a later entry.
  have hlast : ∀ (later : List MockEntry) (m : ServiceMocks) (e₀ : MockEntry),
      m.lookup e.key = some e₀ → ∃ e' ∈ e₀ :: later,
        (later.foldl (fun m e => m.insert e.key e) m).lookup e.key = some e' := by
    intro later
    induction later with
    | nil => intro m e₀ h; exact ⟨e₀, List.mem_singleton_self _, h⟩
    | cons x later ih =>
        intro m e₀ h
        by_cases hk : x.key = e.key
        · obtain ⟨e', hmem, hlook⟩ := ih (m.insert x.key x) x
            (by rw [← hk, Finmap.lookup_insert])
          exact ⟨e', List.mem_cons_of_mem _ hmem, hlook⟩
        · obtain ⟨e', hmem, hlook⟩ := ih (m.insert x.key x) e₀
            (by rw [Finmap.lookup_insert_of_ne _ (Ne.symm hk), h])
          refine ⟨e', ?_, hlook⟩
          rcases List.mem_cons.mp hmem with rfl | hmem
          · exact List.mem_cons_self ..
          · exact List.mem_cons_of_mem _ (List.mem_cons_of_mem _ hmem)
  exact hlast after (m'.insert e.key e) e (Finmap.lookup_insert _)

/-- The file's map is the initial one with the appends inserted, and every
text that may become the file is complete. -/
structure LogInv (codec : EntryCodec) (initial : Text) (s : LogState) : Prop where
  terminated : Text.NewlineTerminated s.file
  tmpTerminated : ∀ text, s.tmp = some text → Text.NewlineTerminated text
  map : readMocks codec s.file = insertAll (readMocks codec initial) s.appended

theorem logInv_start {initial : Text} (h : Text.NewlineTerminated initial) :
    LogInv codec initial (LogState.start initial) where
  terminated := h
  tmpTerminated := by intro text htext; cases htext
  map := rfl

theorem logInv_step (hcodec : codec.Lawful) {initial : Text} {s s' : LogState}
    {a : LogAction} (h : LogInv codec initial s) (hquiet : Quiet codec s a)
    (hstep : logStep codec s a = some s') : LogInv codec initial s' := by
  cases a with
  | append e =>
      unfold logStep at hstep
      rw [Option.some.injEq] at hstep
      subst hstep
      refine ⟨Text.newlineTerminated_append_line _ _, h.tmpTerminated, ?_⟩
      dsimp only
      rw [readMocks_append hcodec h.terminated, h.map, insertAll, insertAll,
        List.foldl_append]
      rfl
  | read i =>
      rw [logStep] at hstep
      split at hstep
      case h_2 => cases hstep
      case h_1 =>
        cases hstep
        exact ⟨h.terminated, h.tmpTerminated, h.map⟩
  | write i rs =>
      rw [logStep] at hstep
      split at hstep
      case h_2 => cases hstep
      case h_1 content _ =>
        by_cases h0 : (readMocks codec content).size = 0
        · simp only [if_pos h0, Option.some.injEq] at hstep
          subst hstep
          exact ⟨h.terminated, h.tmpTerminated, h.map⟩
        · simp only [if_neg h0, Option.some.injEq] at hstep
          subst hstep
          refine ⟨h.terminated, fun text htext => ?_, h.map⟩
          cases htext
          exact newlineTerminated_compact rs _
  | rename i =>
      rw [logStep] at hstep
      split at hstep
      case h_2 => cases hstep
      case h_1 =>
        cases hstep
        have hnone : ∀ text : Text, (none : Option Text) = some text →
            Text.NewlineTerminated text := by intro text htext; cases htext
        cases htmp : s.tmp with
        | none => exact ⟨h.terminated, hnone, h.map⟩
        | some text =>
            refine ⟨h.tmpTerminated text htmp, hnone, ?_⟩
            exact (hquiet text htmp).trans h.map

theorem keepsAppended_of_logInv {initial : Text} {s : LogState}
    (h : LogInv codec initial s) : KeepsAppended codec s := by
  intro before e after happ
  rw [h.map, happ]
  exact lookup_insertAll_append

-- =============================================================== the loads

/-- Compaction keeps the map a load has read. -/
theorem compact_says_the_same (hcodec : codec.Lawful) (rs : RandomState) {content : Text}
    (h0 : (readMocks codec content).size ≠ 0) :
    readMocks codec (compact codec rs (readMocks codec content))
      = readMocks codec content :=
  readMocks_compact hcodec rs h0 fun _ _ => readMocks_key

theorem lastWriter_concat (past : List LogAction) (a : LogAction) :
    lastWriter (past ++ [a]) = match a with
      | .write i _ => some i
      | .rename _ => none
      | _ => lastWriter past := by
  rw [lastWriter, List.foldl_append]
  cases a <;> rfl

theorem appendedSinceRead_concat (i : Nat) (past : List LogAction) (a : LogAction) :
    appendedSinceRead i (past ++ [a]) = match a with
      | .append _ => true
      | .read j => if j = i then false else appendedSinceRead i past
      | _ => appendedSinceRead i past := by
  rw [appendedSinceRead, List.foldl_append]
  cases a <;> rfl

theorem undisturbedRenames_nil : UndisturbedRenames [] := by
  intro past i later h
  exact absurd h.symm (List.append_ne_nil_of_right_ne_nil _ (List.cons_ne_nil _ _))

theorem undisturbedRenames_concat {past : List LogAction} {a : LogAction} :
    UndisturbedRenames (past ++ [a])
      ↔ UndisturbedRenames past ∧ ∀ i, a = .rename i → Undisturbed past := by
  constructor
  · intro h
    refine ⟨fun before i later heq => ?_, fun i ha => h past i [] (by rw [ha])⟩
    exact h before i (later ++ [a]) (by rw [heq, List.append_assoc, List.cons_append])
  · rintro ⟨hpast, hlast⟩ before i later heq
    rcases List.eq_nil_or_concat later with rfl | ⟨later', b, rfl⟩
    · obtain ⟨rfl, hsame⟩ := List.append_inj' heq rfl
      cases hsame
      exact hlast i rfl
    · rw [List.concat_eq_append, ← List.cons_append, ← List.append_assoc] at heq
      obtain ⟨rfl, -⟩ := List.append_inj' heq rfl
      exact hpast before i later' rfl

/-- What a load has read, and what was written of it, says what the file
says as long as nothing has been appended. A load that has read nothing
leaves the `.tmp` file to the one that wrote it. -/
structure Loads (codec : EntryCodec) (s : LogState) (past : List LogAction) : Prop where
  read : ∀ i content, s.loader i = .read content → appendedSinceRead i past = false →
    readMocks codec content = readMocks codec s.file
  tmp : ∀ text, s.tmp = some text → ∃ i, lastWriter past = some i
    ∧ (appendedSinceRead i past = false → readMocks codec text = readMocks codec s.file)
  readNonempty : ∀ i content, s.loader i = .read content →
    (readMocks codec content).size ≠ 0 → (readMocks codec s.file).size ≠ 0
  tmpNonempty : ∀ text, s.tmp = some text → (readMocks codec s.file).size ≠ 0
  begun : ∀ i, lastWriter past = some i → s.loader i ≠ .idle

theorem loads_start (initial : Text) : Loads codec (LogState.start initial) [] where
  read := by
    intro i content h
    cases h
  tmp := by
    intro text h
    cases h
  readNonempty := by
    intro i content h
    cases h
  tmpNonempty := by
    intro text h
    cases h
  begun := by
    intro i h
    cases h

/-- An undisturbed rename is quiet. -/
theorem Loads.quiet {s : LogState} {past : List LogAction} {a : LogAction}
    (h : Loads codec s past) (ha : ∀ i, a = .rename i → Undisturbed past) : Quiet codec s a := by
  cases a with
  | rename i =>
      intro text htext
      obtain ⟨j, hwriter, htold⟩ := h.tmp text htext
      exact htold (ha i rfl j hwriter)
  | append e => trivial
  | read i => trivial
  | write i rs => trivial

/-- A load that has moved on from its read no longer holds a text. -/
theorem read_of_update {loader : Nat → LoaderPhase} {i j : Nat} {phase : LoaderPhase}
    {content : Text} (hphase : ∀ c, phase ≠ .read c)
    (h : Function.update loader i phase j = .read content) : loader j = .read content := by
  by_cases hji : j = i
  · rw [hji, Function.update_self] at h
    exact absurd h (hphase content)
  · rwa [Function.update_of_ne hji] at h

theorem update_ne_idle {loader : Nat → LoaderPhase} {i j : Nat} {phase : LoaderPhase}
    (hphase : phase ≠ .idle) (h : j ≠ i → loader j ≠ .idle) :
    Function.update loader i phase j ≠ .idle := by
  by_cases hji : j = i
  · rwa [hji, Function.update_self]
  · rw [Function.update_of_ne hji]
    exact h hji

theorem Loads.append (hcodec : codec.Lawful) {s : LogState} {past : List LogAction}
    (hterminated : Text.NewlineTerminated s.file) (h : Loads codec s past) (e : MockEntry) :
    Loads codec { s with
      file := s.file ++ (codec.print e ++ ['\n'])
      appended := s.appended ++ [e] } (past ++ [.append e]) := by
  have hsize := size_readMocks_append hcodec hterminated e
  refine ⟨fun i content _ hfresh => ?_, fun text htext => ?_, fun _ _ _ _ => hsize,
    fun _ _ => hsize, fun i hwriter => ?_⟩
  · rw [appendedSinceRead_concat] at hfresh
    cases hfresh
  · obtain ⟨i, hwriter, -⟩ := h.tmp text htext
    refine ⟨i, (lastWriter_concat ..).trans hwriter, fun hfresh => ?_⟩
    rw [appendedSinceRead_concat] at hfresh
    cases hfresh
  · rw [lastWriter_concat] at hwriter
    exact h.begun i hwriter

theorem Loads.readFile {s : LogState} {past : List LogAction} (h : Loads codec s past) {i : Nat}
    (hidle : s.loader i = .idle) :
    Loads codec { s with loader := Function.update s.loader i (.read s.file) }
      (past ++ [.read i]) := by
  -- of the loads that have read before, the step tells nothing new
  have hold : ∀ j, j ≠ i → appendedSinceRead j (past ++ [.read i]) = appendedSinceRead j past :=
    fun j hji => (appendedSinceRead_concat ..).trans (if_neg (Ne.symm hji))
  have hread : ∀ j content, Function.update s.loader i (.read s.file) j = .read content →
      (j = i ∧ content = s.file) ∨ (j ≠ i ∧ s.loader j = .read content) := by
    intro j content hj
    by_cases hji : j = i
    · rw [hji, Function.update_self, LoaderPhase.read.injEq] at hj
      exact Or.inl ⟨hji, hj.symm⟩
    · rw [Function.update_of_ne hji] at hj
      exact Or.inr ⟨hji, hj⟩
  refine ⟨fun j content hj hfresh => ?_, fun text htext => ?_, fun j content hj => ?_,
    h.tmpNonempty, fun j hwriter => ?_⟩
  · rcases hread j content hj with ⟨-, rfl⟩ | ⟨hji, hj⟩
    · rfl
    · exact h.read j content hj ((hold j hji).symm.trans hfresh)
  · obtain ⟨j, hwriter, htold⟩ := h.tmp text htext
    have hji : j ≠ i := fun hji => h.begun j hwriter (hji ▸ hidle)
    exact ⟨j, (lastWriter_concat ..).trans hwriter,
      fun hfresh => htold ((hold j hji).symm.trans hfresh)⟩
  · rcases hread j content hj with ⟨-, rfl⟩ | ⟨-, hj⟩
    · exact id
    · exact h.readNonempty j content hj
  · rw [lastWriter_concat] at hwriter
    exact update_ne_idle nofun fun _ => h.begun j hwriter

/-- The step that writes what was read; nothing is written of a text without
entries. -/
theorem Loads.write (hcodec : codec.Lawful) {s : LogState} {past : List LogAction}
    (h : Loads codec s past) {i : Nat} (rs : RandomState) {content : Text}
    (hread : s.loader i = .read content) {tmp : Option Text} {phase : LoaderPhase}
    (hphase : (∀ c, phase ≠ .read c) ∧ phase ≠ .idle)
    (htmp : tmp = if (readMocks codec content).size = 0 then s.tmp
      else some (compact codec rs (readMocks codec content))) :
    Loads codec { s with tmp := tmp, loader := Function.update s.loader i phase }
      (past ++ [.write i rs]) := by
  have hsame : ∀ j, appendedSinceRead j (past ++ [.write i rs]) = appendedSinceRead j past :=
    fun j => appendedSinceRead_concat ..
  refine ⟨fun j c hj hfresh => ?_, fun text htext => ?_, fun j c hj => ?_,
    fun text htext => ?_, fun j hwriter => ?_⟩
  · exact h.read j c (read_of_update hphase.1 hj) ((hsame j).symm.trans hfresh)
  · refine ⟨i, lastWriter_concat .., fun hfresh => ?_⟩
    have htold := h.read i content hread ((hsame i).symm.trans hfresh)
    dsimp only at htext
    rw [htmp] at htext
    by_cases h0 : (readMocks codec content).size = 0
    · -- the file has no entries either, and then nothing was ever written
      rw [if_pos h0] at htext
      rw [htold] at h0
      exact absurd h0 (h.tmpNonempty text htext)
    · rw [if_neg h0, Option.some.injEq] at htext
      rw [← htext, compact_says_the_same hcodec rs h0, htold]
  · exact h.readNonempty j c (read_of_update hphase.1 hj)
  · dsimp only at htext
    rw [htmp] at htext
    by_cases h0 : (readMocks codec content).size = 0
    · rw [if_pos h0] at htext
      exact h.tmpNonempty text htext
    · exact h.readNonempty i content hread h0
  · rw [lastWriter_concat, Option.some.injEq] at hwriter
    exact update_ne_idle hphase.2 fun hji => absurd hwriter.symm hji

theorem Loads.rename {s : LogState} {past : List LogAction} (h : Loads codec s past) {i : Nat}
    (hquiet : Quiet codec s (.rename i)) :
    Loads codec { s with
      file := s.tmp.getD s.file
      tmp := none
      loader := Function.update s.loader i .finished } (past ++ [.rename i]) := by
  have hmap : readMocks codec (s.tmp.getD s.file) = readMocks codec s.file := by
    cases htmp : s.tmp with
    | none => rfl
    | some text => exact hquiet text htmp
  have hnoread : ∀ c, LoaderPhase.finished ≠ .read c := nofun
  refine ⟨fun j c hj hfresh => ?_, fun text htext => ?_, fun j c hj => ?_,
    fun text htext => ?_, fun j hwriter => ?_⟩
  · rw [appendedSinceRead_concat] at hfresh
    exact (h.read j c (read_of_update hnoread hj) hfresh).trans hmap.symm
  · cases htext
  · rw [hmap]
    exact h.readNonempty j c (read_of_update hnoread hj)
  · cases htext
  · rw [lastWriter_concat] at hwriter
    cases hwriter

theorem loads_step (hcodec : codec.Lawful) {s s' : LogState} {past : List LogAction}
    {a : LogAction} (hterminated : Text.NewlineTerminated s.file) (h : Loads codec s past)
    (hquiet : Quiet codec s a) (hstep : logStep codec s a = some s') :
    Loads codec s' (past ++ [a]) := by
  cases a with
  | append e =>
      rw [logStep, Option.some.injEq] at hstep
      exact hstep ▸ h.append hcodec hterminated e
  | read i =>
      rw [logStep] at hstep
      split at hstep
      case h_2 => cases hstep
      case h_1 hidle =>
        cases hstep
        exact h.readFile hidle
  | write i rs =>
      rw [logStep] at hstep
      split at hstep
      case h_2 => cases hstep
      case h_1 content hread =>
        by_cases h0 : (readMocks codec content).size = 0
        · simp only [if_pos h0, Option.some.injEq] at hstep
          subst hstep
          exact h.write hcodec rs hread ⟨nofun, nofun⟩ (if_pos h0).symm
        · simp only [if_neg h0, Option.some.injEq] at hstep
          subst hstep
          exact h.write hcodec rs hread ⟨nofun, nofun⟩ (if_neg h0).symm
  | rename i =>
      rw [logStep] at hstep
      split at hstep
      case h_2 => cases hstep
      case h_1 =>
        cases hstep
        exact h.rename hquiet

/-- A schedule that comes to its renames undisturbed keeps both
invariants. -/
theorem logInv_exec (hcodec : codec.Lawful) {initial : Text}
    (hinitial : Text.NewlineTerminated initial) {schedule : List LogAction} {s : LogState}
    (hundisturbed : UndisturbedRenames schedule)
    (hrun : Machine.exec (logStep codec) (LogState.start initial) schedule = some s) :
    LogInv codec initial s ∧ Loads codec s schedule := by
  refine Machine.exec_history (I := fun s past => UndisturbedRenames past →
    LogInv codec initial s ∧ Loads codec s past) ?_ ?_ hrun hundisturbed
  · intro s past a s' hinv hstep hrenames
    obtain ⟨hpast, hlast⟩ := undisturbedRenames_concat.mp hrenames
    obtain ⟨hlog, hloads⟩ := hinv hpast
    have hquiet := hloads.quiet hlast
    exact ⟨logInv_step hcodec hlog hquiet hstep,
      loads_step hcodec hlog.terminated hloads hquiet hstep⟩
  · exact fun _ => ⟨logInv_start hinitial, loads_start initial⟩

variable (codec)

/-- When nothing is appended between the read by the load that wrote the
`.tmp` file and a rename, no appended entry is lost but to a later one of
its key, in every state reached. -/
theorem keeps_of_undisturbed (hcodec : codec.Lawful) (initial : Text)
    (hinitial : Text.NewlineTerminated initial) (schedule : List LogAction) (s : LogState)
    (hundisturbed : UndisturbedRenames schedule)
    (hrun : Machine.exec (logStep codec) (LogState.start initial) schedule = some s) :
    KeepsAppended codec s :=
  keepsAppended_of_logInv (logInv_exec hcodec hinitial hundisturbed hrun).1

end Log

-- ======================================================== two appends, one load

/-- The file after the first append. -/
noncomputable def textA : Text := sampleCodec.print entryA ++ ['\n']

theorem readMocks_textA : readMocks sampleCodec textA = Finmap.insert entryA.key entryA ∅ :=
  readMocks_append sampleCodec_lawful (Or.inl rfl) entryA

theorem size_readMocks_textA : (readMocks sampleCodec textA).size ≠ 0 :=
  size_readMocks_append sampleCodec_lawful (Or.inl rfl) entryA

/-- Two loads that overlap, and an append before the second one is done. -/
noncomputable def overlappingLoads : List LogAction :=
  [.append entryA, .read 0, .read 1, .write 0 default, .write 1 default, .rename 0,
    .append entryB, .rename 1]

theorem undisturbed_overlappingLoads : UndisturbedRenames overlappingLoads := by
  show UndisturbedRenames (((((((([] ++ [.append entryA]) ++ [.read 0]) ++ [.read 1])
    ++ [.write 0 default]) ++ [.write 1 default]) ++ [.rename 0]) ++ [.append entryB])
    ++ [.rename 1])
  simp only [undisturbedRenames_concat, undisturbedRenames_nil, reduceCtorEq, false_implies,
    implies_true, and_true, true_and]
  constructor
  · intro _ _ j hwriter
    obtain rfl : 1 = j := Option.some.inj hwriter
    rfl
  · intro _ _ j hwriter
    rw [lastWriter_concat, lastWriter_concat] at hwriter
    cases hwriter

/-- The first load renames what the second one wrote, and the second one
finds nothing to rename: both entries stay. -/
theorem keeps_overlappingLoads :
    ∃ s, Machine.exec (logStep sampleCodec) (LogState.start []) overlappingLoads = some s
      ∧ s.appended = [entryA, entryB] ∧ KeepsAppended sampleCodec s := by
  have h0 := size_readMocks_textA
  unfold textA at h0
  have hrun : ∃ s, Machine.exec (logStep sampleCodec) (LogState.start []) overlappingLoads
      = some s ∧ s.appended = [entryA, entryB] := by
    simp [overlappingLoads, Machine.exec, logStep, LogState.start, h0]
  obtain ⟨s, hs, happended⟩ := hrun
  exact ⟨s, hs, happended, keeps_of_undisturbed sampleCodec sampleCodec_lawful [] (Or.inl rfl)
    overlappingLoads s undisturbed_overlappingLoads hs⟩

/-- One load, with the second append between its read and its rename. -/
theorem overtaken_run :
    ∃ s, Machine.exec (logStep sampleCodec) (LogState.start [])
        [.append entryA, .read 0, .append entryB, .write 0 default, .rename 0] = some s
      ∧ s.Quiescent ∧ s.appended = [entryA, entryB]
      ∧ readMocks sampleCodec s.file = readMocks sampleCodec textA := by
  have h0 := size_readMocks_textA
  refine ⟨{
    file := compact sampleCodec default (readMocks sampleCodec textA)
    tmp := none
    loader := Function.update (Function.update (Function.update (fun _ => .idle) 0
      (.read textA)) 0 .wrote) 0 .finished
    appended := [entryA, entryB] }, ?_, ?_, rfl, ?_⟩
  · unfold textA at h0 ⊢
    simp [Machine.exec, logStep, LogState.start, h0]
  · intro i
    by_cases hi : i = 0
    · exact Or.inr (by simp [hi])
    · exact Or.inl (by simp [hi])
  · exact compact_says_the_same sampleCodec_lawful default h0

/-- An append between a load's read and its rename: the entry is gone. -/
theorem overtaken_reload_loses_an_entry :
    ¬ ∀ (codec : EntryCodec), codec.Lawful → ∀ (initial : Text),
      Text.NewlineTerminated initial → ∀ (schedule : List LogAction) (s : LogState),
      Machine.exec (logStep codec) (LogState.start initial) schedule = some s →
      s.Quiescent → KeepsAppended codec s := by
  intro h
  obtain ⟨s, hrun, hquiet, happended, hmap⟩ := overtaken_run
  have hkeeps := h sampleCodec sampleCodec_lawful [] (Or.inl rfl) _ s hrun hquiet
  obtain ⟨e', -, hlook⟩ := hkeeps [entryA] entryB [] happended
  have hne : entryB.key ≠ entryA.key := by decide
  rw [hmap, readMocks_textA, Finmap.lookup_insert_of_ne _ hne, Finmap.lookup_empty]
    at hlook
  cases hlook

end GostlyProxy
