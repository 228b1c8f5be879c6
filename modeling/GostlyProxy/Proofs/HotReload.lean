/-
Hot reload: whatever happens to the mock directory, the library catches up.

# The model

As in `Watcher.lean`, a file created, modified, renamed or removed is one
event, and the `fs_watch` loop reloads file by file, in rounds. Here the
directory is also written by everything else that writes it: operators save
and remove files with any content, and recordings are published at once and
appended later. A `reload_one_file` takes three steps, and all of this can
come between them: it loads the library, reads the file, and writes the
compacted file and stores its copy of the library. (The rename and the
store are one step: what could come between them looks at the directory or
at the library only.) A publish is one step, and there is no full reload:
what a stale store of one of these does is in `Publishers.lean`.

# The argument

The library is right about a service (`Means`), or something is owed to
the service: its file has an event waiting, or an append of it is still to
run, or a reload is under way that has read nothing else than what is
there. Every step keeps that (`caughtUp_run`). Once nobody writes any more,
the loop is a worker that takes rounds from the queue of events
(`Lib/Rounds.lean`), a path being clean when the library is right about its
file. So the loop, which never comes to rest, has nothing left to change
after as many rounds as there were events, or when it rests
(`hot_reload_converges`): a save or an append that a rewrite took away is
gone from the library as from the disk.
-/
import GostlyProxy.Lib.Rounds
import GostlyProxy.Model.Tasks
import GostlyProxy.Proofs.Reload
import GostlyProxy.Proofs.Watcher

namespace GostlyProxy

open Lib

-- ============================================================== the model

/-- A `reload_one_file` on its way: its service, the library it has loaded,
and the file as it has read it. -/
structure SegmentReload where
  svcId : Text
  current : MockLibrary
  content : Option (Option Text)

/-- The directory, the library, the appends that were spawned, the events
that wait, the paths of the current round still to reload, and the reload
under way. -/
structure HotReload where
  dir : Dir
  library : MockLibrary
  appends : List (Text × MockEntry)
  events : List Text
  pending : List Text
  reloading : Option SegmentReload

def HotReload.start (s : Dir × MockLibrary) : HotReload where
  dir := s.1
  library := s.2
  appends := []
  events := []
  pending := []
  reloading := none

inductive HotReloadAction where
  /-- An operator saves a mock file. -/
  | save (svcId content : Text)
  /-- An operator removes a mock file. -/
  | remove (svcId : Text)
  /-- A recording or an injected mock is published. -/
  | record (svcId : Text) (entry : MockEntry)
  /-- The append of a recording runs. -/
  | append (i : Nat)
  /-- The first event, and as many more as arrive in the debounce window. -/
  | wake (more : Nat) (rs : RandomState)
  /-- `reload_one_file` on the next path of the round: `load_full`. -/
  | load
  /-- `load_one_segment` reads the file. -/
  | read
  /-- It writes the compacted file, and the library is stored. -/
  | store (rs : RandomState)

/-- A step of the `fs_watch` loop. -/
def HotReloadAction.isLoop : HotReloadAction → Bool
  | .wake _ _ | .load | .read | .store _ => true
  | _ => false

def HotReloadAction.isWake : HotReloadAction → Bool
  | .wake _ _ => true
  | _ => false

section HotReload

variable (codec : EntryCodec)

/-- What `load_one_segment` writes after it has read `content`, with the
events of that. -/
def rewriteFile (rs : RandomState) (dir : Dir) (svcId : Text) :
    Option Text → Dir × List Text
  | none => (dir, [])
  | some content =>
      let svcMocks := readMocks codec content
      let fname := mockFileName svcId
      if svcMocks.size = 0 then (dir, [])
      else (replaceFile dir fname (compact codec rs svcMocks), [tmpName fname, fname])

def hotReloadStep (s : HotReload) : HotReloadAction → Option HotReload
  | .save svcId content =>
      some { s with
        dir := s.dir.insert (mockFileName svcId) content
        events := s.events ++ [mockFileName svcId] }
  | .remove svcId =>
      some { s with
        dir := s.dir.erase (mockFileName svcId)
        events := s.events ++ [mockFileName svcId] }
  | .record svcId entry =>
      some { s with
        library := s.library.publish svcId entry
        appends := s.appends ++ [(svcId, entry)] }
  | .append i =>
      s.appends[i]?.map fun (svcId, entry) =>
        if isFileName (mockFileName svcId) then
          { s with
            dir := appendToMockLog s.dir svcId (codec.print entry)
            appends := s.appends.eraseIdx i
            events := s.events ++ [mockFileName svcId] }
        else { s with appends := s.appends.eraseIdx i }
  | .wake more rs =>
      if s.reloading = none ∧ s.pending = [] ∧ s.events ≠ [] then
        some { s with
          events := s.events.drop (more + 1)
          pending := pathSet rs (s.events.take (more + 1)) }
      else none
  | .load =>
      match s.reloading, s.pending with
      | none, path :: rest =>
          some { s with
            pending := rest
            reloading := (svcIdOf path).map fun svcId => ⟨svcId, s.library, none⟩ }
      | _, _ => none
  | .read =>
      match s.reloading with
      | some ⟨svcId, current, none⟩ =>
          some { s with
            reloading := some ⟨svcId, current, some (s.dir.lookup (mockFileName svcId))⟩ }
      | _ => none
  | .store rs =>
      match s.reloading with
      | some ⟨svcId, current, some content⟩ =>
          let (dir, events) := rewriteFile codec rs s.dir svcId content
          some { s with
            dir := dir
            library := current.setSegment svcId (content.bind (segmentOf codec svcId))
            events := s.events ++ events
            reloading := none }
      | _ => none

variable {codec}

/-- What is read and written in a row is one load. -/
theorem rewriteFile_lookup (rs : RandomState) (dir : Dir) (svcId : Text) :
    rewriteFile codec rs dir svcId (dir.lookup (mockFileName svcId))
      = ((loadOneSegment codec rs dir (mockFileName svcId)).1,
        loadEvents codec rs dir (mockFileName svcId)) := by
  unfold rewriteFile loadEvents loadOneSegment
  rw [svcIdOf_mockFileName]
  cases hlook : dir.lookup (mockFileName svcId) with
  | none => simp
  | some content => by_cases h0 : (readMocks codec content).size = 0 <;> simp [h0]

/-- The three steps in a row are `reload_one_file`. -/
theorem reload_steps_eq_reloadOneFile (rs : RandomState) (s : HotReload) {svcId : Text}
    {rest : List Text} (hidle : s.reloading = none)
    (hpending : s.pending = mockFileName svcId :: rest) :
    ∃ s', Machine.exec (hotReloadStep codec) s [.load, .read, .store rs] = some s'
      ∧ (s'.dir, s'.library) = reloadOneFile codec rs s.dir (mockFileName svcId) s.library
      ∧ s'.events = s.events ++ loadEvents codec rs s.dir (mockFileName svcId) := by
  have hexec : Machine.exec (hotReloadStep codec) s [.load, .read, .store rs]
      = some { s with
          dir := (loadOneSegment codec rs s.dir (mockFileName svcId)).1
          library := s.library.setSegment svcId
            ((s.dir.lookup (mockFileName svcId)).bind (segmentOf codec svcId))
          events := s.events ++ loadEvents codec rs s.dir (mockFileName svcId)
          pending := rest
          reloading := none } := by
    simp only [Machine.exec, hotReloadStep, hidle, hpending, svcIdOf_mockFileName,
      Option.map_some, rewriteFile_lookup, Option.bind_some]
  refine ⟨_, hexec, ?_, rfl⟩
  rw [Prod.ext_iff, fst_reloadOneFile, reloadOneFile_snd]
  exact ⟨rfl, rfl⟩

-- ========================================================= being caught up

/-- The library is right about the service's file. -/
def HotReload.Right (codec : EntryCodec) (s : HotReload) (svc : Text) : Prop :=
  Means codec (s.dir, s.library) svc

/-- A reload of the service is under way. -/
def HotReload.UnderWay (s : HotReload) (svc : Text) : Prop :=
  ∃ r, s.reloading = some r ∧ r.svcId = svc

/-- The reload under way will not put back anything old of the service: if
it is its own, what it has read is what is there, and if it is another's,
its library is right. -/
def HotReload.Fresh (codec : EntryCodec) (s : HotReload) (svc : Text) : Prop :=
  ∀ r, s.reloading = some r →
    (r.svcId = svc → ∀ c, r.content = some c →
      c.bind (segmentOf codec svc) = meaning codec s.dir svc)
    ∧ (r.svcId ≠ svc → Means codec (s.dir, r.current) svc)

/-- The service's file will be looked at. -/
def HotReload.Owed (s : HotReload) (svc : Text) : Prop :=
  mockFileName svc ∈ s.events ∨ mockFileName svc ∈ s.pending ∨ ∃ e, (svc, e) ∈ s.appends

/-- The `fs_watch` loop waits for an event. -/
def HotReload.AtRest (s : HotReload) : Prop :=
  s.events = [] ∧ s.pending = [] ∧ s.reloading = none

def HotReload.CaughtUp (codec : EntryCodec) (s : HotReload) (svc : Text) : Prop :=
  s.Owed svc ∨ s.Fresh codec svc ∧ (s.Right codec svc ∨ s.UnderWay svc)

theorem HotReload.fresh_of_idle {s : HotReload} {svc : Text} (h : s.reloading = none) :
    s.Fresh codec svc := by
  intro r hr
  rw [h] at hr
  cases hr

theorem HotReload.not_underWay {s : HotReload} {svc : Text} (h : s.reloading = none) :
    ¬ s.UnderWay svc := by
  rintro ⟨r, hr, _⟩
  rw [h] at hr
  cases hr

/-- A step that leaves the service's file, segment and debts alone. -/
theorem HotReload.CaughtUp.frame {s s' : HotReload} {svc : Text} (h : s.CaughtUp codec svc)
    (hdir : s'.dir.lookup (mockFileName svc) = s.dir.lookup (mockFileName svc))
    (hlibrary : s'.library.segments.lookup svc = s.library.segments.lookup svc)
    (hreloading : s'.reloading = s.reloading) (howed : s.Owed svc → s'.Owed svc) :
    s'.CaughtUp codec svc := by
  have hmeaning : meaning codec s'.dir svc = meaning codec s.dir svc := by
    unfold meaning
    rw [hdir]
  rcases h with h | ⟨hfresh, h⟩
  · exact Or.inl (howed h)
  · apply Or.inr
    unfold Fresh Right UnderWay Means at *
    simp only [hreloading, hmeaning, hlibrary]
    exact ⟨hfresh, h⟩

-- ===================================================== the steps of the loop

theorem reloading_of_wake {s s' : HotReload} {more : Nat} {rs : RandomState}
    (hstep : hotReloadStep codec s (.wake more rs) = some s') :
    s.reloading = none ∧ s.pending = [] ∧ s' = { s with
      events := s.events.drop (more + 1)
      pending := pathSet rs (s.events.take (more + 1)) } := by
  simp only [hotReloadStep] at hstep
  split at hstep
  · next h => exact ⟨h.1, h.2.1, (Option.some.inj hstep).symm⟩
  · cases hstep

theorem reloading_of_load {s s' : HotReload}
    (hstep : hotReloadStep codec s .load = some s') :
    s.reloading = none ∧ ∃ path, s.pending = path :: s'.pending ∧ s' = { s with
      pending := s'.pending
      reloading := (svcIdOf path).map fun svcId => ⟨svcId, s.library, none⟩ } := by
  simp only [hotReloadStep] at hstep
  split at hstep
  · next path rest hidle hpending =>
      cases hstep
      exact ⟨hidle, path, hpending, rfl⟩
  · cases hstep

theorem reloading_of_read {s s' : HotReload}
    (hstep : hotReloadStep codec s .read = some s') :
    ∃ svcId current, s.reloading = some ⟨svcId, current, none⟩ ∧ s' = { s with
      reloading := some ⟨svcId, current, some (s.dir.lookup (mockFileName svcId))⟩ } := by
  simp only [hotReloadStep] at hstep
  split at hstep
  · next svcId current h => exact ⟨svcId, current, h, (Option.some.inj hstep).symm⟩
  · cases hstep

theorem reloading_of_store {s s' : HotReload} {rs : RandomState}
    (hstep : hotReloadStep codec s (.store rs) = some s') :
    ∃ svcId current content, s.reloading = some ⟨svcId, current, some content⟩
      ∧ s' = { s with
        dir := (rewriteFile codec rs s.dir svcId content).1
        library := current.setSegment svcId (content.bind (segmentOf codec svcId))
        events := s.events ++ (rewriteFile codec rs s.dir svcId content).2
        reloading := none } := by
  simp only [hotReloadStep] at hstep
  split at hstep
  · next svcId current content h =>
      exact ⟨svcId, current, content, h, (Option.some.inj hstep).symm⟩
  · cases hstep

/-- What was read is what the file means after it is written again, if it
was before. -/
theorem meaning_rewriteFile_self (hcodec : codec.Lawful) (rs : RandomState) {dir : Dir}
    {svc : Text} {content : Option Text}
    (h : content.bind (segmentOf codec svc) = meaning codec dir svc) :
    meaning codec (rewriteFile codec rs dir svc content).1 svc
      = content.bind (segmentOf codec svc) := by
  cases content with
  | none => exact h.symm
  | some content =>
      unfold rewriteFile
      by_cases h0 : (readMocks codec content).size = 0
      · simp only [if_pos h0]
        exact h.symm
      · simp only [if_neg h0, meaning, replaceFile, Finmap.lookup_insert, Option.bind_some]
        exact segmentOf_compact hcodec rs svc h0

theorem meaning_rewriteFile_ne (rs : RandomState) (dir : Dir) {svc svc' : Text}
    (content : Option Text) (h : svc ≠ svc') :
    meaning codec (rewriteFile codec rs dir svc' content).1 svc = meaning codec dir svc := by
  cases content with
  | none => rfl
  | some content =>
      unfold rewriteFile meaning
      by_cases h0 : (readMocks codec content).size = 0
      · simp only [if_pos h0]
      · simp only [if_neg h0]
        rw [lookup_replaceFile_ne (mockFileName_injective.ne h)
          (tmpName_ne_mockFileName _ _).symm]

/-- What was just read is what is there. -/
theorem fresh_of_read {s s' : HotReload} {svc : Text} (hfresh : s.Fresh codec svc)
    (hstep : hotReloadStep codec s .read = some s') : s'.Fresh codec svc := by
  obtain ⟨svcId, current, hreloading, rfl⟩ := reloading_of_read hstep
  intro r hr
  cases hr
  refine ⟨?_, (hfresh _ hreloading).2⟩
  rintro rfl c hc
  cases hc
  rfl

/-- A fresh reload that ends leaves the library right. -/
theorem right_of_store (hcodec : codec.Lawful) {s s' : HotReload} {rs : RandomState}
    {svc : Text} (hfresh : s.Fresh codec svc)
    (hstep : hotReloadStep codec s (.store rs) = some s') : s'.Right codec svc := by
  obtain ⟨svcId, current, content, hreloading, rfl⟩ := reloading_of_store hstep
  obtain ⟨hself, hother⟩ := hfresh _ hreloading
  unfold HotReload.Right Means
  rw [lookup_setSegment]
  by_cases hsvc : svc = svcId
  · subst hsvc
    rw [if_pos rfl]
    exact (meaning_rewriteFile_self hcodec rs (hself rfl content rfl)).symm
  · rw [if_neg hsvc]
    show _ = meaning codec (rewriteFile codec rs s.dir svcId content).1 svc
    rw [meaning_rewriteFile_ne rs s.dir content hsvc]
    exact hother (Ne.symm hsvc)

/-- The loop keeps the library right. -/
theorem right_of_loop (hcodec : codec.Lawful) {s s' : HotReload} {a : HotReloadAction}
    (ha : a.isLoop = true) (hstep : hotReloadStep codec s a = some s') {svc : Text}
    (hfresh : s.Fresh codec svc) (h : s.Right codec svc) :
    s'.Fresh codec svc ∧ s'.Right codec svc := by
  cases a with
  | save | remove | record | append => cases ha
  | wake more rs =>
      obtain ⟨_, _, rfl⟩ := reloading_of_wake hstep
      exact ⟨hfresh, h⟩
  | load =>
      obtain ⟨_, path, _, hs'⟩ := reloading_of_load hstep
      rw [hs']
      refine ⟨fun r hr => ?_, h⟩
      obtain ⟨svcId, _, rfl⟩ := Option.map_eq_some_iff.mp hr
      exact ⟨fun _ c hc => absurd hc (Option.some_ne_none c).symm, fun _ => h⟩
  | read =>
      refine ⟨fresh_of_read hfresh hstep, ?_⟩
      obtain ⟨_, _, _, rfl⟩ := reloading_of_read hstep
      exact h
  | store rs =>
      refine ⟨HotReload.fresh_of_idle ?_, right_of_store hcodec hfresh hstep⟩
      obtain ⟨_, _, _, _, rfl⟩ := reloading_of_store hstep
      rfl

/-- A fresh reload of the service goes on until the library is right. -/
theorem underWay_of_loop (hcodec : codec.Lawful) {s s' : HotReload} {a : HotReloadAction}
    (ha : a.isLoop = true) (hstep : hotReloadStep codec s a = some s') {svc : Text}
    (hfresh : s.Fresh codec svc) (h : s.UnderWay svc) :
    s'.Fresh codec svc ∧ (s'.Right codec svc ∨ s'.UnderWay svc) := by
  cases a with
  | save | remove | record | append => cases ha
  | wake more rs => exact absurd h (HotReload.not_underWay (reloading_of_wake hstep).1)
  | load => exact absurd h (HotReload.not_underWay (reloading_of_load hstep).1)
  | read =>
      refine ⟨fresh_of_read hfresh hstep, Or.inr ?_⟩
      obtain ⟨svcId, current, hreloading, rfl⟩ := reloading_of_read hstep
      obtain ⟨r, hr, hsvc⟩ := h
      rw [hreloading] at hr
      cases hr
      exact ⟨_, rfl, hsvc⟩
  | store rs =>
      refine ⟨HotReload.fresh_of_idle ?_, Or.inl (right_of_store hcodec hfresh hstep)⟩
      obtain ⟨_, _, _, _, rfl⟩ := reloading_of_store hstep
      rfl

-- ================================================================= the runs

/-- Every step keeps a service with a file caught up. -/
theorem caughtUp_step (hcodec : codec.Lawful) {s s' : HotReload} {a : HotReloadAction}
    (hstep : hotReloadStep codec s a = some s') {svc : Text}
    (hfile : isFileName (mockFileName svc) = true) (h : s.CaughtUp codec svc) :
    s'.CaughtUp codec svc := by
  -- A step of the loop: what is owed stays owed, or its reload begins.
  have hloop : a.isLoop = true → (s.Owed svc → s'.CaughtUp codec svc) →
      s'.CaughtUp codec svc := by
    intro ha howed
    rcases h with h | ⟨hfresh, h | h⟩
    · exact howed h
    · obtain ⟨hfresh', h'⟩ := right_of_loop hcodec ha hstep hfresh h
      exact Or.inr ⟨hfresh', Or.inl h'⟩
    · exact Or.inr (underWay_of_loop hcodec ha hstep hfresh h)
  cases a with
  | save svcId content =>
      cases hstep
      by_cases hsvc : svcId = svc
      · subst hsvc
        exact Or.inl (Or.inl (by simp))
      · refine h.frame ?_ rfl rfl (Or.imp_left (List.mem_append_left _))
        exact Finmap.lookup_insert_of_ne _ (mockFileName_injective.ne (Ne.symm hsvc))
  | remove svcId =>
      cases hstep
      by_cases hsvc : svcId = svc
      · subst hsvc
        exact Or.inl (Or.inl (by simp))
      · refine h.frame ?_ rfl rfl (Or.imp_left (List.mem_append_left _))
        exact Finmap.lookup_erase_ne (mockFileName_injective.ne (Ne.symm hsvc))
  | record svcId entry =>
      cases hstep
      by_cases hsvc : svcId = svc
      · subst hsvc
        exact Or.inl (Or.inr (Or.inr ⟨entry, by simp⟩))
      · refine h.frame rfl ?_ rfl ?_
        · show (s.library.publish svcId entry).segments.lookup svc = _
          rw [MockLibrary.publish_segments, Finmap.lookup_insert_of_ne _ (Ne.symm hsvc)]
        · exact Or.imp_right (Or.imp_right fun ⟨e, he⟩ => ⟨e, List.mem_append_left _ he⟩)
  | append i =>
      obtain ⟨⟨svcId, entry⟩, hi, hs'⟩ := Option.map_eq_some_iff.mp hstep
      dsimp only at hs'
      by_cases hsvc : svcId = svc
      · subst hsvc
        rw [← hs', if_pos hfile]
        exact Or.inl (Or.inl (by simp))
      · have hkept : ∀ e, (svc, e) ∈ s.appends → (svc, e) ∈ s.appends.eraseIdx i := by
          intro e he
          obtain ⟨j, hj⟩ := List.mem_iff_getElem?.mp he
          refine List.mem_eraseIdx_iff_getElem?.mpr ⟨j, ?_, hj⟩
          rintro rfl
          rw [hi, Option.some.injEq, Prod.mk.injEq] at hj
          exact hsvc hj.1
        by_cases hname : isFileName (mockFileName svcId) = true
        · rw [← hs', if_pos hname]
          refine h.frame ?_ rfl rfl ?_
          · exact Finmap.lookup_insert_of_ne _ (mockFileName_injective.ne (Ne.symm hsvc))
          · exact Or.imp (List.mem_append_left _)
              (Or.imp_right fun ⟨e, he⟩ => ⟨e, hkept e he⟩)
        · rw [← hs', if_neg hname]
          refine h.frame rfl rfl rfl ?_
          exact Or.imp_right (Or.imp_right fun ⟨e, he⟩ => ⟨e, hkept e he⟩)
  | wake more rs =>
      refine hloop rfl fun howed => Or.inl ?_
      obtain ⟨_, hpending, rfl⟩ := reloading_of_wake hstep
      rcases howed with he | hp | ha
      · rw [← List.take_append_drop (more + 1) s.events, List.mem_append] at he
        exact he.symm.imp_right fun he => Or.inl (mem_pathSet.mpr he)
      · rw [hpending] at hp
        cases hp
      · exact Or.inr (Or.inr ha)
  | load =>
      refine hloop rfl fun howed => ?_
      obtain ⟨_, path, hpending, hs'⟩ := reloading_of_load hstep
      rcases howed with he | hp | ha
      · rw [hs']
        exact Or.inl (Or.inl he)
      · rw [hpending, List.mem_cons] at hp
        rcases hp with rfl | hp
        · rw [hs', svcIdOf_mockFileName]
          refine Or.inr ⟨fun r hr => ?_, Or.inr ⟨_, rfl, rfl⟩⟩
          cases hr
          exact ⟨fun _ c hc => absurd hc (Option.some_ne_none c).symm,
            fun hne => absurd rfl hne⟩
        · exact Or.inl (Or.inr (Or.inl hp))
      · rw [hs']
        exact Or.inl (Or.inr (Or.inr ha))
  | read =>
      refine hloop rfl fun howed => Or.inl ?_
      obtain ⟨_, _, _, rfl⟩ := reloading_of_read hstep
      exact howed
  | store rs =>
      refine hloop rfl fun howed => Or.inl ?_
      obtain ⟨_, _, _, _, rfl⟩ := reloading_of_store hstep
      exact howed.imp_left (List.mem_append_left _)

/-- Every service with a file is caught up in every state of every run. -/
theorem caughtUp_run (hcodec : codec.Lawful) (rs : RandomState) (dir : Dir)
    {actions : List HotReloadAction} {s : HotReload}
    (hrun : Machine.exec (hotReloadStep codec)
      (HotReload.start (loadAllServiceMocks codec rs dir)) actions = some s)
    {svc : Text} (hfile : isFileName (mockFileName svc) = true) : s.CaughtUp codec svc := by
  refine Machine.exec_invariant (I := fun s : HotReload => s.CaughtUp codec svc)
    (fun _ _ _ h hstep => caughtUp_step hcodec hstep hfile h) ?_ hrun
  refine Or.inr ⟨HotReload.fresh_of_idle rfl, Or.inl ?_⟩
  show (loadAllServiceMocks codec rs dir).2.segments.lookup svc
    = meaning codec (loadAllServiceMocks codec rs dir).1 svc
  rw [means_loadAll, meaning_loadAll hcodec]

/-- The loop as a worker: a path is clean when the library is right about
its file. -/
def HotReload.rounds (codec : EntryCodec) (s : HotReload) : Rounds Text where
  queue := s.events
  pending fname := fname ∈ s.pending
    ∨ ∃ svc, fname = mockFileName svc ∧ s.Fresh codec svc ∧ s.UnderWay svc
  clean fname := isFileName fname = true →
    ∀ svc, fname = mockFileName svc → s.Fresh codec svc ∧ s.Right codec svc

theorem clean_of_loop (hcodec : codec.Lawful) {s s' : HotReload} {a : HotReloadAction}
    (ha : a.isLoop = true) (hstep : hotReloadStep codec s a = some s') (fname : Text)
    (h : (s.rounds codec).clean fname) : (s'.rounds codec).clean fname := by
  intro hfile svc hsvc
  obtain ⟨hfresh, hright⟩ := h hfile svc hsvc
  exact right_of_loop hcodec ha hstep hfresh hright

/-- A wake-up begins a round. -/
theorem take_of_wake (hcodec : codec.Lawful) {s s' : HotReload} {more : Nat}
    {rs : RandomState} (hstep : hotReloadStep codec s (.wake more rs) = some s') :
    (s.rounds codec).Take (s'.rounds codec) := by
  refine ⟨?_, ?_, clean_of_loop hcodec rfl hstep⟩
  · obtain ⟨hidle, hpending, _⟩ := reloading_of_wake hstep
    rintro fname (h | ⟨svc, _, _, h⟩)
    · rw [hpending] at h
      cases h
    · exact HotReload.not_underWay hidle h
  · obtain ⟨_, _, rfl⟩ := reloading_of_wake hstep
    exact ⟨more, rfl, fun fname h => Or.inl (mem_pathSet.mpr h)⟩

/-- Every other step of the loop works the round off. -/
theorem work_of_loop (hcodec : codec.Lawful) {s s' : HotReload} {a : HotReloadAction}
    (ha : a.isLoop = true) (hwake : a.isWake = false)
    (hstep : hotReloadStep codec s a = some s') :
    (s.rounds codec).Work (s'.rounds codec) := by
  have hunderWay : ∀ fname svc, fname = mockFileName svc → s.Fresh codec svc →
      s.UnderWay svc → (s'.rounds codec).pending fname ∨ (s'.rounds codec).clean fname := by
    intro fname svc hname hfresh h
    obtain ⟨hfresh', h' | h'⟩ := underWay_of_loop hcodec ha hstep hfresh h
    · refine Or.inr fun _ svc' hname' => ?_
      rw [mockFileName_injective (hname'.symm.trans hname)]
      exact ⟨hfresh', h'⟩
    · exact Or.inl (Or.inr ⟨svc, hname, hfresh', h'⟩)
  refine ⟨?_, ?_, clean_of_loop hcodec ha hstep⟩
  · cases a with
    | save | remove | record | append => cases ha
    | wake => cases hwake
    | load =>
        obtain ⟨_, path, _, hs'⟩ := reloading_of_load hstep
        rw [hs']
        exact List.prefix_rfl
    | read =>
        obtain ⟨_, _, _, rfl⟩ := reloading_of_read hstep
        exact List.prefix_rfl
    | store rs =>
        obtain ⟨_, _, _, _, rfl⟩ := reloading_of_store hstep
        exact List.prefix_append _ _
  · rintro fname (h | ⟨svc, hname, hfresh, h⟩)
    · cases a with
      | save | remove | record | append => cases ha
      | wake => cases hwake
      | load =>
          obtain ⟨_, path, hpending, hs'⟩ := reloading_of_load hstep
          rw [hpending, List.mem_cons] at h
          rcases h with rfl | h
          · cases hsvc : svcIdOf fname with
            | none =>
                refine Or.inr fun _ svc hname => ?_
                rw [hname, svcIdOf_mockFileName] at hsvc
                cases hsvc
            | some svc =>
                refine Or.inl (Or.inr ⟨svc, eq_mockFileName_of_svcIdOf hsvc, ?_, ?_⟩)
                · rw [hs', hsvc]
                  intro r hr
                  cases hr
                  exact ⟨fun _ c hc => absurd hc (Option.some_ne_none c).symm,
                    fun hne => absurd rfl hne⟩
                · rw [hs', hsvc]
                  exact ⟨_, rfl, rfl⟩
          · exact Or.inl (Or.inl h)
      | read =>
          obtain ⟨_, _, _, rfl⟩ := reloading_of_read hstep
          exact Or.inl (Or.inl h)
      | store rs =>
          obtain ⟨_, _, _, _, rfl⟩ := reloading_of_store hstep
          exact Or.inl (Or.inl h)
    · exact hunderWay fname svc hname hfresh h

/-- A stretch of the loop is a run of the worker. -/
theorem rounds_of_loop (hcodec : codec.Lawful) {actions : List HotReloadAction} :
    ∀ {s s' : HotReload}, (∀ a ∈ actions, a.isLoop = true) →
      Machine.exec (hotReloadStep codec) s actions = some s' →
      Rounds.Run (s.rounds codec) (actions.countP HotReloadAction.isWake)
        (s'.rounds codec) := by
  induction actions with
  | nil =>
      intro s s' _ hrun
      cases hrun
      exact Rounds.Run.nil _
  | cons a actions ih =>
      intro s s' hall hrun
      obtain ⟨t, hstep, hrest⟩ := Machine.exec_cons.mp hrun
      have ha := hall a List.mem_cons_self
      have htail := ih (fun b hb => hall b (List.mem_cons_of_mem a hb)) hrest
      cases hwake : a.isWake with
      | false =>
          rw [List.countP_cons_of_neg (by simp [hwake])]
          exact Rounds.Run.work (work_of_loop hcodec ha hwake hstep) htail
      | true =>
          rw [List.countP_cons_of_pos hwake]
          cases a with
          | wake more rs => exact Rounds.Run.take (take_of_wake hcodec hstep) htail
          | save | remove | record | append | load | read | store => cases hwake

/-- Caught up with nothing left to append: everything that is not clean has
an event waiting or a reload under way. -/
theorem covered_of_caughtUp {s : HotReload} (happends : s.appends = [])
    (h : ∀ svc, isFileName (mockFileName svc) = true → s.CaughtUp codec svc) :
    (s.rounds codec).Covered := by
  intro fname
  by_contra hnot
  obtain ⟨hclean, hevents, hpending⟩ := not_or.mp hnot |>.imp_right not_or.mp
  refine hclean fun hfile svc hname => ?_
  subst hname
  rcases h svc hfile with (he | hp | ⟨e, he⟩) | ⟨hfresh, hright | hunderWay⟩
  · exact absurd he hevents
  · exact absurd (Or.inl hp) hpending
  · rw [happends] at he
    cases he
  · exact ⟨hfresh, hright⟩
  · exact absurd (Or.inr ⟨svc, rfl, hfresh, hunderWay⟩) hpending

/-- Start from a loaded directory; let operators save and remove mock
files, recordings be published and appended, and the watcher reload, in any
interleaving. Once every append has run and nobody writes any more, the
library of every service with a file is that of a restart, in every state
at rest and in every state after more rounds than events were waiting. -/
theorem hot_reload_converges (hcodec : codec.Lawful) (rs rs' : RandomState) (dir : Dir)
    {before after : List HotReloadAction} {s s' : HotReload}
    (hbefore : Machine.exec (hotReloadStep codec)
      (HotReload.start (loadAllServiceMocks codec rs dir)) before = some s)
    (happends : s.appends = []) (hloop : ∀ a ∈ after, a.isLoop = true)
    (hafter : Machine.exec (hotReloadStep codec) s after = some s')
    (hdone : s'.AtRest ∨ s.events.length < after.countP HotReloadAction.isWake)
    (svcId : Text) (hfile : isFileName (mockFileName svcId) = true) :
    s'.library.segments.lookup svcId
      = (loadAllServiceMocks codec rs' s'.dir).2.segments.lookup svcId := by
  have hrun := rounds_of_loop hcodec hloop hafter
  have hcovered := covered_of_caughtUp happends fun svc hsvc =>
    caughtUp_run hcodec rs dir hbefore hsvc
  have hclean : (s'.rounds codec).clean (mockFileName svcId) := by
    rcases hdone with ⟨hevents, hpending, hreloading⟩ | hrounds
    · apply Rounds.clean_of_idle (hrun.covered hcovered) hevents
      rintro fname (h | ⟨svc, _, _, h⟩)
      · rw [hpending] at h
        cases h
      · exact HotReload.not_underWay hreloading h
    · exact Rounds.clean_of_rounds hrun hcovered hrounds _
  obtain ⟨_, hright⟩ := hclean hfile svcId rfl
  rw [means_loadAll]
  exact hright

end HotReload

theorem pathSet_pair (rs : RandomState) (fname : Text) :
    pathSet rs [fname, fname] = [fname] := by
  have hcollect : HashMap.collect [(fname, ()), (fname, ())] = Finmap.singleton fname () := by
    apply Finmap.ext_lookup
    intro k
    by_cases hk : k = fname
    · subst hk
      simp [HashMap.collect]
    · have hnone : (Finmap.singleton fname () : HashMap Text Unit).lookup k = none := by
        rw [Finmap.lookup_eq_none, Finmap.mem_singleton]
        exact hk
      rw [hnone]
      simp [HashMap.collect, hk]
  unfold pathSet
  simp only [List.map_cons, List.map_nil, hcollect, RandomState.iter_singleton]

/-- The reload of a file that is gone. -/
theorem exec_reload_removed (codec : EntryCodec) (rs : RandomState) {dir : Dir}
    (library : MockLibrary) {svcId : Text} (h : dir.lookup (mockFileName svcId) = none) :
    Machine.exec (hotReloadStep codec)
        ⟨dir, library, [], [mockFileName svcId, mockFileName svcId], [], none⟩
        [.wake 1 rs, .load, .read, .store rs]
      = some ⟨dir, library.setSegment svcId none, [], [], [], none⟩ := by
  simp [Machine.exec, hotReloadStep, pathSet_pair, svcIdOf_mockFileName, h, rewriteFile]

/-- A recording is appended, and its file is removed in the same debounce
window. -/
theorem hot_reload_converges_removed :
    ∃ s', Machine.exec (hotReloadStep sampleCodec)
        (HotReload.start (loadAllServiceMocks sampleCodec default ∅))
        [.record "a" entryA, .append 0, .remove "a",
          .wake 1 default, .load, .read, .store default] = some s'
      ∧ s'.library.segments.lookup ("a" : Text)
        = (loadAllServiceMocks sampleCodec default s'.dir).2.segments.lookup ("a" : Text) := by
  let loaded := loadAllServiceMocks sampleCodec default ∅
  let dir := (appendToMockLog loaded.1 "a" (sampleCodec.print entryA)).erase (mockFileName "a")
  let library := loaded.2.publish "a" entryA
  have hbefore : Machine.exec (hotReloadStep sampleCodec) (HotReload.start loaded)
      [.record "a" entryA, .append 0, .remove "a"]
      = some ⟨dir, library, [], [mockFileName "a", mockFileName "a"], [], none⟩ := rfl
  have hafter := exec_reload_removed sampleCodec default library
    (show dir.lookup (mockFileName "a") = none from Finmap.lookup_erase _ _)
  refine ⟨_, ?_, hot_reload_converges sampleCodec_lawful default default ∅ hbefore rfl ?_ hafter
    (Or.inl ⟨rfl, rfl, rfl⟩) "a" (by decide)⟩
  · show Machine.exec (hotReloadStep sampleCodec) (HotReload.start loaded)
      ([.record "a" entryA, .append 0, .remove "a"]
        ++ [.wake 1 default, .load, .read, .store default]) = _
    rw [Machine.exec_append, hbefore]
    exact hafter
  · simp [HotReloadAction.isLoop]

end GostlyProxy
