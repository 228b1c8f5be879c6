/-
The `fs_watch` loop: it never comes to rest.

# The model

Every file created, modified or renamed in the mock directory is one event
with the resulting path. The loop waits for an event, drains those that
have arrived within the debounce window into a set, and calls
`reload_one_file` for each path of the set. An operator may save a mock
file at any time; a save leaves at least one line that parses.

# Why it does not rest

`load_one_segment` rewrites its file whenever a line parses, also when
there is nothing to drop, and the rewrite is a rename onto the watched
path. `Busy` says that some parseable mock file has an event waiting:
every save makes the loop busy, every step keeps it busy, and a busy loop
always has a reload ahead of it. So the loop makes boundedly many reloads
only if nobody ever saves a file (`quiesces_iff_no_edit`).
-/
import GostlyProxy.Lib.Machine
import GostlyProxy.Proofs.Codec
import GostlyProxy.Proofs.Disk

namespace GostlyProxy

open Lib

-- ============================================================== the model

/-- The watcher: the directory, the library it publishes to, the events
that wait, the paths of the current round still to reload, and how many
calls of `reload_one_file` there have been. -/
structure WatchState where
  dir : Dir
  library : MockLibrary
  events : List Text
  pending : List Text
  reloads : Nat

def WatchState.start (dir : Dir) (library : MockLibrary) : WatchState where
  dir := dir
  library := library
  events := []
  pending := []
  reloads := 0

inductive WatchAction where
  /-- An operator saves a mock file. -/
  | edit (svcId content : Text)
  /-- The first event, and as many more as arrive in the debounce window. -/
  | wake (more : Nat) (rs : RandomState)
  /-- `reload_one_file` on the next path of the round. -/
  | reload (rs : RandomState)

def WatchAction.isEdit : WatchAction → Bool
  | .edit _ _ => true
  | _ => false

/-- A set of paths in the order its iteration visits them. -/
def pathSet (rs : RandomState) (paths : List Text) : List Text :=
  (rs.iter (HashMap.collect (paths.map fun p => (p, ())))).map (·.1)

section Watch

variable (codec : EntryCodec)

/-- The events of one load: the `.tmp` file is written, then renamed. -/
def loadEvents (rs : RandomState) (dir : Dir) (fname : Text) : List Text :=
  if (loadOneSegment codec rs dir fname).2.isSome then [tmpName fname, fname] else []

def watchStep (s : WatchState) : WatchAction → Option WatchState
  | .edit svcId content =>
      if (readMocks codec content).size = 0 then none
      else some { s with
        dir := s.dir.insert (mockFileName svcId) content
        events := s.events ++ [mockFileName svcId] }
  | .wake more rs =>
      if s.pending = [] ∧ s.events ≠ [] then
        some { s with
          events := s.events.drop (more + 1)
          pending := pathSet rs (s.events.take (more + 1)) }
      else none
  | .reload rs =>
      match s.pending with
      | [] => none
      | path :: rest =>
          let (dir, library) := reloadOneFile codec rs s.dir path s.library
          some { dir := dir
                 library := library
                 events := s.events ++ loadEvents codec rs s.dir path
                 pending := rest
                 reloads := s.reloads + 1 }

/-- No more saves: however the loop goes on, its calls of
`reload_one_file` stay below some bound. -/
def Quiesces (s : WatchState) : Prop :=
  ∃ bound, ∀ actions s', (∀ a ∈ actions, a.isEdit = false) →
    Machine.exec (watchStep codec) s actions = some s' → s'.reloads ≤ bound

-- ============================================================ a busy loop

/-- Some mock file with a line that parses has an event waiting. -/
def Busy (s : WatchState) : Prop :=
  ∃ svcId content, s.dir.lookup (mockFileName svcId) = some content
    ∧ (readMocks codec content).size ≠ 0
    ∧ mockFileName svcId ∈ s.events ++ s.pending

theorem mem_pathSet {rs : RandomState} {paths : List Text} {p : Text} :
    p ∈ pathSet rs paths ↔ p ∈ paths := by
  unfold pathSet
  rw [List.mem_map]
  constructor
  · rintro ⟨⟨k, u⟩, hmem, rfl⟩
    have hin := HashMap.mem_of_lookup_collect (rs.mem_iter.mp hmem)
    obtain ⟨p', hp', heq⟩ := List.mem_map.mp hin
    cases heq
    exact hp'
  · intro hp
    have hkey : p ∈ (paths.map fun p => (p, ())).map (·.1) := by
      rw [List.map_map]
      exact List.mem_map.mpr ⟨p, hp, rfl⟩
    obtain ⟨u, hu⟩ := Option.isSome_iff_exists.mp (HashMap.isSome_lookup_collect.mpr hkey)
    exact ⟨⟨p, u⟩, rs.mem_iter.mpr hu, rfl⟩

variable {codec}

/-- A save makes the loop busy. -/
theorem busy_of_edit {s s' : WatchState} {svcId content : Text}
    (hstep : watchStep codec s (.edit svcId content) = some s') : Busy codec s' := by
  rw [watchStep] at hstep
  by_cases h0 : (readMocks codec content).size = 0
  · rw [if_pos h0] at hstep
    cases hstep
  · rw [if_neg h0] at hstep
    cases hstep
    refine ⟨svcId, content, Finmap.lookup_insert _, h0, ?_⟩
    simp

/-- A reloaded mock file with a line that parses is written again, with
the same map. -/
theorem reload_rewrites (hcodec : codec.Lawful) (rs : RandomState) {dir : Dir}
    {svcId content : Text} (hlook : dir.lookup (mockFileName svcId) = some content)
    (h0 : (readMocks codec content).size ≠ 0) :
    mockFileName svcId ∈ loadEvents codec rs dir (mockFileName svcId)
      ∧ ∃ content', (loadOneSegment codec rs dir (mockFileName svcId)).1.lookup
          (mockFileName svcId) = some content'
        ∧ (readMocks codec content').size ≠ 0 := by
  have hload : loadOneSegment codec rs dir (mockFileName svcId)
      = (replaceFile dir (mockFileName svcId)
          (compact codec rs (readMocks codec content)),
        some (svcId, ⟨Finmap.singleton svcId (readMocks codec content)⟩)) := by
    unfold loadOneSegment
    rw [svcIdOf_mockFileName]
    simp only [hlook, if_neg h0]
  refine ⟨?_, compact codec rs (readMocks codec content), ?_, ?_⟩
  · unfold loadEvents
    rw [hload]
    simp
  · rw [hload]
    exact Finmap.lookup_insert _
  · rw [readMocks_compact hcodec rs h0 fun _ _ => readMocks_key]
    exact h0

/-- What a reload does to the directory. -/
theorem reloadOneFile_fst (rs : RandomState) (dir : Dir) (fname : Text)
    (lib : MockLibrary) :
    (reloadOneFile codec rs dir fname lib).1 = (loadOneSegment codec rs dir fname).1 := by
  rw [reloadOneFile]
  cases hsvc : svcIdOf fname with
  | none => rw [loadOneSegment_of_not_mock codec rs hsvc]
  | some svcId => rfl

theorem busy_reload (hcodec : codec.Lawful) {s s' : WatchState} {rs : RandomState}
    (h : Busy codec s) (hstep : watchStep codec s (.reload rs) = some s') :
    Busy codec s' := by
  obtain ⟨svcId, content, hlook, h0, hwait⟩ := h
  rw [watchStep] at hstep
  split at hstep
  case h_1 => cases hstep
  case h_2 path rest hpending =>
    rw [Option.some.injEq] at hstep
    subst hstep
    by_cases hpath : path = mockFileName svcId
    · subst hpath
      obtain ⟨hevent, content', hlook', h0'⟩ := reload_rewrites hcodec rs hlook h0
      refine ⟨svcId, content', ?_, h0', ?_⟩
      · rw [reloadOneFile_fst]
        exact hlook'
      · exact List.mem_append_left _ (List.mem_append_right _ hevent)
    · refine ⟨svcId, content, ?_, h0, ?_⟩
      · rw [reloadOneFile_fst]
        exact (loadOneSegment_fst_ne codec rs (Ne.symm hpath)).trans hlook
      · rw [hpending, List.mem_append, List.mem_cons] at hwait
        rcases hwait with hwait | hwait | hwait
        · exact List.mem_append_left _ (List.mem_append_left _ hwait)
        · exact absurd hwait.symm hpath
        · exact List.mem_append_right _ hwait

/-- A busy loop stays busy. -/
theorem busy_step (hcodec : codec.Lawful) {s s' : WatchState} {a : WatchAction}
    (h : Busy codec s) (hstep : watchStep codec s a = some s') : Busy codec s' := by
  cases a with
  | edit svcId content => exact busy_of_edit hstep
  | reload rs => exact busy_reload hcodec h hstep
  | wake more rs =>
      obtain ⟨svcId, content, hlook, h0, hwait⟩ := h
      rw [watchStep] at hstep
      by_cases hok : s.pending = [] ∧ s.events ≠ []
      · rw [if_pos hok] at hstep
        cases hstep
        refine ⟨svcId, content, hlook, h0, ?_⟩
        rw [hok.1, List.append_nil, ← List.take_append_drop (more + 1) s.events,
          List.mem_append] at hwait
        rcases hwait with hwait | hwait
        · exact List.mem_append_right _ (mem_pathSet.mpr hwait)
        · exact List.mem_append_left _ hwait
      · rw [if_neg hok] at hstep
        cases hstep

variable (codec) in
theorem reload_enabled {s : WatchState} (hpending : s.pending ≠ []) :
    ∃ s', watchStep codec s (.reload default) = some s' ∧ s'.reloads = s.reloads + 1 := by
  obtain ⟨path, rest, hp⟩ := List.exists_cons_of_ne_nil hpending
  unfold watchStep
  rw [hp]
  exact ⟨_, rfl, rfl⟩

variable (codec) in
theorem wake_enabled {s : WatchState} (hpending : s.pending = []) (hevents : s.events ≠ []) :
    ∃ s', watchStep codec s (.wake 0 default) = some s' ∧ s'.reloads = s.reloads
      ∧ s'.pending ≠ [] := by
  obtain ⟨path, rest, hp⟩ := List.exists_cons_of_ne_nil hevents
  rw [watchStep, if_pos ⟨hpending, hevents⟩]
  refine ⟨_, rfl, rfl, ?_⟩
  have hmem : path ∈ pathSet default (s.events.take 1) := by
    refine mem_pathSet.mpr ?_
    rw [hp]
    exact List.mem_cons_self ..
  exact List.ne_nil_of_mem hmem

theorem Busy.events {s : WatchState} (h : Busy codec s) (hpending : s.pending = []) :
    s.events ≠ [] := by
  obtain ⟨svcId, content, -, -, hwait⟩ := h
  intro he
  rw [he, hpending] at hwait
  cases hwait

/-- A busy loop has a reload ahead of it. -/
theorem busy_reloads_again (hcodec : codec.Lawful) {s : WatchState}
    (h : Busy codec s) :
    ∃ actions s', (∀ a ∈ actions, a.isEdit = false)
      ∧ Machine.exec (watchStep codec) s actions = some s'
      ∧ s'.reloads = s.reloads + 1 ∧ Busy codec s' := by
  by_cases hpending : s.pending = []
  · obtain ⟨s₁, hs₁, hcount₁, hpending₁⟩ := wake_enabled codec hpending
      (h.events hpending)
    have hbusy₁ := busy_step hcodec h hs₁
    obtain ⟨s₂, hs₂, hcount₂⟩ := reload_enabled codec hpending₁
    refine ⟨[.wake 0 default, .reload default], s₂, ?_, ?_, ?_, busy_step hcodec hbusy₁ hs₂⟩
    · intro a ha
      simp only [List.mem_cons, List.not_mem_nil, or_false] at ha
      rcases ha with rfl | rfl <;> rfl
    · unfold Machine.exec
      rw [hs₁, Option.bind_some, Machine.exec, hs₂]
      rfl
    · rw [hcount₂, hcount₁]
  · obtain ⟨s₁, hs₁, hcount⟩ := reload_enabled codec hpending
    refine ⟨[.reload default], s₁, ?_, ?_, hcount, busy_step hcodec h hs₁⟩
    · intro a ha
      rw [List.mem_singleton] at ha
      subst ha
      rfl
    · unfold Machine.exec
      rw [hs₁]
      rfl

/-- A busy loop makes any number of reloads. -/
theorem busy_reloads_more (hcodec : codec.Lawful) (n : Nat) {s : WatchState}
    (h : Busy codec s) :
    ∃ actions s', (∀ a ∈ actions, a.isEdit = false)
      ∧ Machine.exec (watchStep codec) s actions = some s' ∧ n ≤ s'.reloads := by
  induction n generalizing s with
  | zero => exact ⟨[], s, by simp, rfl, Nat.zero_le _⟩
  | succ n ih =>
      by_cases hn : n + 1 ≤ s.reloads
      · exact ⟨[], s, by simp, rfl, hn⟩
      · obtain ⟨as₁, s₁, hedit₁, hrun₁, hle⟩ := ih h
        have hbusy₁ : Busy codec s₁ :=
          Machine.exec_invariant (fun _ _ _ hb hstep => busy_step hcodec hb hstep) h hrun₁
        obtain ⟨as₂, s₂, hedit₂, hrun₂, hcount, -⟩ := busy_reloads_again hcodec hbusy₁
        refine ⟨as₁ ++ as₂, s₂, ?_, ?_, by omega⟩
        · intro a ha
          rcases List.mem_append.mp ha with ha | ha
          · exact hedit₁ a ha
          · exact hedit₂ a ha
        · rw [Machine.exec_append, hrun₁]
          exact hrun₂

theorem not_quiesces_of_busy (hcodec : codec.Lawful) {s : WatchState}
    (h : Busy codec s) : ¬ Quiesces codec s := by
  rintro ⟨bound, hbound⟩
  obtain ⟨actions, s', hedit, hrun, hle⟩ := busy_reloads_more hcodec (bound + 1) h
  have := hbound actions s' hedit hrun
  omega

-- =========================================================== an idle loop

/-- No event waits and no round is under way. -/
def Idle (s : WatchState) : Prop := s.events = [] ∧ s.pending = []

/-- An idle loop does nothing by itself. -/
theorem idle_step {s s' : WatchState} {a : WatchAction} (h : Idle s)
    (hedit : a.isEdit = false) (hstep : watchStep codec s a = some s') : False := by
  cases a with
  | edit svcId content => cases hedit
  | wake more rs =>
      rw [watchStep, if_neg (fun hok => hok.2 h.1)] at hstep
      cases hstep
  | reload rs =>
      unfold watchStep at hstep
      rw [h.2] at hstep
      cases hstep

theorem quiesces_of_idle {s : WatchState} (h : Idle s) : Quiesces codec s := by
  refine ⟨s.reloads, fun actions s' hedit hrun => ?_⟩
  cases actions with
  | nil =>
      unfold Machine.exec at hrun
      rw [Option.some.injEq] at hrun
      rw [hrun]
  | cons a as =>
      obtain ⟨t, ht, -⟩ := Machine.exec_cons.mp hrun
      exact (idle_step h (hedit a (List.mem_cons_self ..)) ht).elim

/-- After any run from rest the loop is idle if there was no save, and busy
if there was one. -/
theorem idle_or_busy (hcodec : codec.Lawful) {s₀ s : WatchState} (h₀ : Idle s₀)
    {schedule : List WatchAction}
    (hrun : Machine.exec (watchStep codec) s₀ schedule = some s) :
    ((∀ a ∈ schedule, a.isEdit = false) ∧ Idle s)
      ∨ ((∃ a ∈ schedule, a.isEdit = true) ∧ Busy codec s) := by
  cases schedule with
  | nil =>
      unfold Machine.exec at hrun
      rw [Option.some.injEq] at hrun
      subst hrun
      exact Or.inl ⟨by simp, h₀⟩
  | cons a as =>
      obtain ⟨t, ht, hrest⟩ := Machine.exec_cons.mp hrun
      -- At rest only a save can come first.
      cases ha : a.isEdit with
      | false => exact (idle_step h₀ ha ht).elim
      | true =>
          refine Or.inr ⟨⟨a, List.mem_cons_self .., ha⟩, ?_⟩
          have hbusy : Busy codec t := by
            cases a with
            | edit svcId content => exact busy_of_edit ht
            | wake more rs => cases ha
            | reload rs => cases ha
          exact Machine.exec_invariant
            (fun _ _ _ hb hstep => busy_step hcodec hb hstep) hbusy hrest

variable (codec)

/-- After a save the loop never blocks again: however it goes on, an event
waits or a round is under way. -/
theorem never_idle_after_edit (hcodec : codec.Lawful) {dir : Dir} {library : MockLibrary}
    {schedule more : List WatchAction} {s s' : WatchState}
    (hrun : Machine.exec (watchStep codec) (WatchState.start dir library) schedule
      = some s)
    (hedit : ∃ a ∈ schedule, a.isEdit = true)
    (hmore : Machine.exec (watchStep codec) s more = some s') : ¬ Idle s' := by
  rcases idle_or_busy hcodec ⟨rfl, rfl⟩ hrun with ⟨hnone, -⟩ | ⟨-, hbusy⟩
  · obtain ⟨a, ha, hsome⟩ := hedit
    rw [hnone a ha] at hsome
    cases hsome
  · obtain ⟨svcId, content, -, -, hwait⟩ := Machine.exec_invariant
      (fun _ _ _ hb hstep => busy_step hcodec hb hstep) hbusy hmore
    rintro ⟨hevents, hpending⟩
    rw [hevents, hpending] at hwait
    cases hwait

/-- From rest, whatever was saved and however the loop ran so far: the loop
comes to rest if and only if nothing was saved. -/
theorem quiesces_iff_no_edit (hcodec : codec.Lawful) (dir : Dir) (library : MockLibrary)
    (schedule : List WatchAction) (s : WatchState)
    (hrun : Machine.exec (watchStep codec) (WatchState.start dir library) schedule
      = some s) :
    Quiesces codec s ↔ ∀ a ∈ schedule, a.isEdit = false := by
  rcases idle_or_busy hcodec ⟨rfl, rfl⟩ hrun with ⟨hnone, hidle⟩ | ⟨⟨a, ha, hsome⟩, hbusy⟩
  · exact ⟨fun _ => hnone, fun _ => quiesces_of_idle hidle⟩
  · constructor
    · intro hq
      exact absurd hq (not_quiesces_of_busy hcodec hbusy)
    · intro hnone
      rw [hnone a ha] at hsome
      cases hsome

end Watch

-- =============================================================== one save

theorem size_readMocks_line (e : MockEntry) :
    (readMocks sampleCodec (sampleCodec.print e ++ ['\n'])).size ≠ 0 :=
  size_readMocks_append sampleCodec_lawful (Or.inl rfl) e

/-- One save of one line in an empty directory, and one round. -/
theorem quiesces_iff_no_edit_one_save :
    ∃ s, Machine.exec (watchStep sampleCodec) (WatchState.start ∅ MockLibrary.new)
        [.edit globalTenant (sampleCodec.print entryA ++ ['\n'])] = some s
      ∧ (Quiesces sampleCodec s ↔
        ∀ a ∈ [WatchAction.edit globalTenant (sampleCodec.print entryA ++ ['\n'])],
          a.isEdit = false) := by
  have hrun : ∃ s, Machine.exec (watchStep sampleCodec)
      (WatchState.start ∅ MockLibrary.new)
      [.edit globalTenant (sampleCodec.print entryA ++ ['\n'])] = some s := by
    rw [Machine.exec, watchStep, if_neg (size_readMocks_line entryA)]
    exact ⟨_, rfl⟩
  obtain ⟨s, hs⟩ := hrun
  exact ⟨s, hs, quiesces_iff_no_edit sampleCodec sampleCodec_lawful ∅ MockLibrary.new
    _ s hs⟩

/-- One save is enough to keep the loop reloading for ever. -/
theorem one_save_never_quiesces :
    ¬ ∀ (codec : EntryCodec), codec.Lawful → ∀ (dir : Dir) (library : MockLibrary)
      (schedule : List WatchAction) (s : WatchState),
      Machine.exec (watchStep codec) (WatchState.start dir library) schedule = some s →
      Quiesces codec s := by
  intro h
  obtain ⟨s, hs⟩ : ∃ s, watchStep sampleCodec (WatchState.start ∅ MockLibrary.new)
      (.edit globalTenant (sampleCodec.print entryA ++ ['\n'])) = some s := by
    rw [watchStep, if_neg (size_readMocks_line entryA)]
    exact ⟨_, rfl⟩
  refine not_quiesces_of_busy sampleCodec_lawful (busy_of_edit hs)
    (h sampleCodec sampleCodec_lawful ∅ MockLibrary.new
      [.edit globalTenant (sampleCodec.print entryA ++ ['\n'])] s ?_)
  unfold Machine.exec
  rw [hs]
  rfl

end GostlyProxy
