/-
The segmented library refines a flat map, over every run of its writers.

# The two machines

`libraryStep` is the program: a request handled to its end, a mock
injected, another admin call, a full reload, a reload of one file. The
operator may change mode and routes between requests, and the directory may
hold anything when a reload reads it.

The flat map is read off the history of what was written, newest first:
`lastWrite` stops at the first write that decides about a key. A publish
decides about its own key; a reloaded file decides about every key of its
service, by the last of its lines that carries the key; a full reload
decides about everything.

`libraryStep_refines` is the step lemma and `library_refines_flatMap` the
result over runs.
-/
import GostlyProxy.Lib.Machine
import GostlyProxy.Model.Admin
import GostlyProxy.Proofs.Disk
import GostlyProxy.Proofs.Handler

namespace GostlyProxy

open Lib

-- ========================================================= the flat map

/-- One write to the library, as its history records it. -/
inductive LibraryWrite where
  | publish (svcId : Text) (entry : MockEntry)
  | loadFile (svcId : Text) (content : Option Text)
  | loadDir (dir : Dir)

/-- The last line of a file that carries a key; nothing without a file. -/
def lastLine (codec : EntryCodec) (content : Option Text) (key : MockKey) :
    Option MockEntry :=
  content.bind fun text =>
    ((parseLines codec text).filter fun e => e.key = key).getLast?

/-- The flat map of a history, newest write first. -/
def lastWrite (codec : EntryCodec) :
    List LibraryWrite → Text → MockKey → Option MockEntry
  | [], _, _ => none
  | .publish svcId entry :: older, s, key =>
      if s = svcId ∧ key = entry.key then some entry else lastWrite codec older s key
  | .loadFile svcId content :: older, s, key =>
      if s = svcId then lastLine codec content key else lastWrite codec older s key
  | .loadDir dir :: _, s, key => lastLine codec (dir.lookup (mockFileName s)) key

-- ============================================================ the program

/-- One operation on the live library. -/
inductive LibraryAction where
  | request (mode : Mode) (upstreams : List UpstreamRoute) (call : Call)
  | createMock (entry : MockEntry)
  | admin (call : AdminCall)
  | reloadFull (rs : RandomState) (dir : Dir)
  | reloadOneFile (rs : RandomState) (dir : Dir) (fname : Text)

section Runs

variable (env : Externals) (cfg : Config) (codec : EntryCodec)

def libraryStep (st : AppState) : LibraryAction → AppState
  | .request mode upstreams call =>
      (handle env cfg { st with mode := mode, upstreams := upstreams } call).1
  | .createMock entry => (handleCreateMock st entry).1
  | .admin call => (handleAdmin st call).1
  | .reloadFull rs dir => { st with mocks := (reloadFull codec rs dir).2 }
  | .reloadOneFile rs dir fname =>
      { st with mocks := (reloadOneFile codec rs dir fname st.mocks).2 }

variable {env cfg} in
theorem wellFormed_handle {st : AppState} {call : Call} (hwf : st.mocks.WellFormed) :
    (handle env cfg st call).1.mocks.WellFormed := by
  rw [handle_mocks]
  cases published env cfg st call with
  | none => exact hwf
  | some p => exact hwf.publish p.1 p.2

/-- What an operation writes. -/
def libraryWrite (st : AppState) : LibraryAction → Option LibraryWrite
  | .request mode upstreams call =>
      (published env cfg { st with mode := mode, upstreams := upstreams } call).map
        fun p => .publish p.1 p.2
  | .createMock entry =>
      let entry := acceptedEntry entry
      some (.publish (injectedService entry) entry)
  | .admin _ => none
  | .reloadFull _ dir => some (.loadDir dir)
  | .reloadOneFile _ dir fname =>
      (svcIdOf fname).map fun s => .loadFile s (dir.lookup fname)

/-- The program with its history, newest write first. -/
def recordedStep (s : AppState × List LibraryWrite) (a : LibraryAction) :
    AppState × List LibraryWrite :=
  (libraryStep env cfg codec s.1 a, (libraryWrite env cfg s.1 a).toList ++ s.2)

/-- The library the program starts with: empty, or loaded from disk. -/
def bootLibrary : Option (RandomState × Dir) → MockLibrary
  | none => MockLibrary.new
  | some (rs, dir) => (loadAllServiceMocks codec rs dir).2

def bootWrites : Option (RandomState × Dir) → List LibraryWrite
  | none => []
  | some (_, dir) => [.loadDir dir]

-- ========================================================= the refinement

/-- The library is well formed and its flat view is the flat map. -/
structure Refines (lib : MockLibrary) (history : List LibraryWrite) : Prop where
  wellFormed : lib.WellFormed
  lookup : ∀ s key, (lib.mocksOf s).lookup key = lastWrite codec history s key

variable {codec}

theorem lookup_mocksOf_content (content : Option Text) (key : MockKey) :
    (((content.map (readMocks codec)).getD ∅).lookup key) = lastLine codec content key := by
  cases content with
  | none => exact Finmap.lookup_empty _
  | some text =>
      rw [Option.map_some, Option.getD_some, lookup_readMocks]
      rfl

theorem Refines.publish {lib : MockLibrary} {history : List LibraryWrite}
    (h : Refines codec lib history) (svcId : Text) (e : MockEntry) :
    Refines codec (lib.publish svcId e) (.publish svcId e :: history) where
  wellFormed := h.wellFormed.publish svcId e
  lookup := by
    intro s key
    rw [MockLibrary.mocksOf_publish, lastWrite]
    by_cases hs : s = svcId
    · subst hs
      by_cases hk : key = e.key
      · subst hk
        rw [if_pos rfl, if_pos ⟨rfl, rfl⟩, Finmap.lookup_insert]
      · rw [if_pos rfl, if_neg (fun hc => hk hc.2), Finmap.lookup_insert_of_ne _ hk,
          h.lookup]
    · rw [if_neg hs, if_neg (fun hc => hs hc.1), h.lookup]

theorem refines_loadAll (rs : RandomState) (dir : Dir) (history : List LibraryWrite) :
    Refines codec (loadAllServiceMocks codec rs dir).2 (.loadDir dir :: history) where
  wellFormed := wellFormed_loadAll codec rs dir
  lookup := by
    intro s key
    rw [mocksOf_loadAll, lookup_mocksOf_content]
    rfl

theorem Refines.reloadOneFile {lib : MockLibrary} {history : List LibraryWrite}
    (h : Refines codec lib history) (rs : RandomState) (dir : Dir) (s : Text) :
    Refines codec (reloadOneFile codec rs dir (mockFileName s) lib).2
      (.loadFile s (dir.lookup (mockFileName s)) :: history) where
  wellFormed := wellFormed_reloadOneFile codec rs h.wellFormed dir _
  lookup := by
    intro s' key
    rw [mocksOf_reloadOneFile, lastWrite]
    by_cases hs : s' = s
    · rw [if_pos hs, if_pos hs, lookup_mocksOf_content]
    · rw [if_neg hs, if_neg hs, h.lookup]

/-- In every hash order the exact lookup is the flat map's. -/
theorem Refines.findExact {lib : MockLibrary} {history : List LibraryWrite}
    (h : Refines codec lib history) (rs : RandomState) (s m u t : Text) :
    lib.findExact rs s m u t = lastWrite codec history s (m, u, t) := by
  rw [MockLibrary.findExact_eq h.wellFormed, h.lookup]

/-- In every hash order a tenant's entries of a service are the flat map's. -/
theorem Refines.mem_entriesForService {lib : MockLibrary}
    {history : List LibraryWrite} (h : Refines codec lib history) {rs : RandomState}
    {s t : Text} {e : MockEntry} :
    e ∈ lib.entriesForService rs s (some t)
      ↔ e.tenant = t ∧ ∃ key, lastWrite codec history s key = some e := by
  rw [MockLibrary.mem_entriesForService h.wellFormed]
  constructor
  · rintro ⟨ht, hlook⟩
    exact ⟨ht, e.key, by rw [← h.lookup]; exact hlook⟩
  · rintro ⟨ht, key, hlook⟩
    rw [← h.lookup] at hlook
    rw [h.wellFormed.mocksOf_key hlook]
    exact ⟨ht, hlook⟩

theorem refines_boot (boot : Option (RandomState × Dir)) :
    Refines codec (bootLibrary codec boot) (bootWrites boot) := by
  cases boot with
  | none =>
      refine ⟨MockLibrary.wellFormed_new, fun s key => ?_⟩
      unfold bootLibrary
      rw [MockLibrary.mocksOf_new]
      exact Finmap.lookup_empty _
  | some b => exact refines_loadAll b.1 b.2 []

/-- The other admin routes leave the library alone. -/
theorem mocks_handleAdmin (st : AppState) (call : AdminCall) :
    (handleAdmin st call).1.mocks = st.mocks := by
  cases call <;> rfl

/-- One operation keeps the refinement. -/
theorem libraryStep_refines (s : AppState × List LibraryWrite) (a : LibraryAction)
    (h : Refines codec s.1.mocks s.2) :
    Refines codec (recordedStep env cfg codec s a).1.mocks
      (recordedStep env cfg codec s a).2 := by
  cases a with
  | request mode upstreams call =>
      rw [recordedStep, libraryStep, libraryWrite, handle_mocks]
      cases published env cfg { s.1 with mode := mode, upstreams := upstreams } call with
      | none => exact h
      | some p => exact h.publish p.1 p.2
  | createMock entry =>
      unfold recordedStep libraryStep libraryWrite
      exact h.publish (injectedService (acceptedEntry entry)) (acceptedEntry entry)
  | admin call =>
      unfold recordedStep libraryStep libraryWrite
      rw [mocks_handleAdmin]
      exact h
  | reloadFull rs dir => exact refines_loadAll rs dir s.2
  | reloadOneFile rs dir fname =>
      rw [recordedStep, libraryStep, libraryWrite]
      cases hsvc : svcIdOf fname with
      | none =>
          rw [reloadOneFile_of_not_mock codec rs hsvc]
          exact h
      | some svc =>
          rw [eq_mockFileName_of_svcIdOf hsvc]
          exact h.reloadOneFile rs dir svc

theorem run_refines (st : AppState) (boot : Option (RandomState × Dir))
    (actions : List LibraryAction) :
    let s := Machine.run (recordedStep env cfg codec)
      ({ st with mocks := bootLibrary codec boot }, bootWrites boot) actions
    Refines codec s.1.mocks s.2 :=
  Machine.run_invariant (I := fun s : AppState × List LibraryWrite =>
      Refines codec s.1.mocks s.2)
    (libraryStep_refines env cfg) (refines_boot boot) actions

/-- A proxy that replays nothing yet. -/
def emptyProxy : AppState :=
  AppState.boot .mock MockLibrary.new [] (ResourceStore.new none)

variable (codec) in
/-- The states the program can be in: a booted library, then any
operations. -/
inductive Reachable : AppState → Prop
  | boot (st : AppState) (source : Option (RandomState × Dir)) :
      Reachable { st with mocks := bootLibrary codec source }
  | step {st : AppState} (h : Reachable st) (action : LibraryAction) :
      Reachable (libraryStep env cfg codec st action)

theorem Reachable.handle {st : AppState} (h : Reachable env cfg codec st) (call : Call) :
    Reachable env cfg codec (handle env cfg st call).1 :=
  h.step (.request st.mode st.upstreams call)

theorem Reachable.setMode {st : AppState} (h : Reachable env cfg codec st) (mode : Mode) :
    Reachable env cfg codec { st with mode := mode } := h.step (.admin (.setMode mode))

/-- In every reachable state the library is the flat map of some history. -/
theorem Reachable.refines {st : AppState} (h : Reachable env cfg codec st) :
    ∃ history, Refines codec st.mocks history := by
  induction h with
  | boot st source => exact ⟨_, refines_boot source⟩
  | step _ action ih =>
      obtain ⟨history, hst⟩ := ih
      exact ⟨_, libraryStep_refines env cfg (_, history) action hst⟩

theorem Reachable.wellFormed {st : AppState} (h : Reachable env cfg codec st) :
    st.mocks.WellFormed := by
  obtain ⟨history, hst⟩ := h.refines
  exact hst.wellFormed

/-- Over every run: one service per segment under the segment's name, every
mock under its own key, and in every hash order the exact lookup, the
entries of a service and the total count are those of the flat map. -/
theorem library_refines_flatMap (codec : EntryCodec) (st : AppState)
    (boot : Option (RandomState × Dir)) (actions : List LibraryAction) :
    let s := Machine.run (recordedStep env cfg codec)
      ({ st with mocks := bootLibrary codec boot }, bootWrites boot) actions
    let lib := s.1.mocks
    let flat := lastWrite codec s.2
    (∀ k seg svc mocks, lib.segments.lookup k = some seg →
        seg.services.lookup svc = some mocks → svc = k)
      ∧ (∀ k seg svc mocks m u t e, lib.segments.lookup k = some seg →
        seg.services.lookup svc = some mocks → mocks.lookup (m, u, t) = some e →
        m = e.request.method ∧ u = e.request.uri ∧ t = e.tenant)
      ∧ (∀ rs svc m u t, lib.findExact rs svc m u t = flat svc (m, u, t))
      ∧ (∀ rs svc t, (lib.entriesForService rs svc (some t)).Nodup
        ∧ ∀ e, e ∈ lib.entriesForService rs svc (some t)
          ↔ e.tenant = t ∧ ∃ key, flat svc key = some e)
      ∧ (∀ rs rs', lib.totalCount rs = (lib.allEntries rs' none).length) := by
  intro s lib flat
  have h : Refines codec lib s.2 := run_refines env cfg st boot actions
  refine ⟨fun k seg svc mocks hseg hsvc => h.wellFormed.service hseg hsvc, ?_,
    h.findExact, fun rs svc t => ⟨?_, fun e => h.mem_entriesForService⟩,
    fun rs rs' => lib.totalCount_eq rs rs'⟩
  · intro k seg svc mocks m u t e hseg hsvc he
    have hkey := h.wellFormed.key hseg hsvc he
    unfold MockEntry.key at hkey
    rw [Prod.mk.injEq, Prod.mk.injEq] at hkey
    exact ⟨hkey.1.symm, hkey.2.1.symm, hkey.2.2.symm⟩
  · exact MockLibrary.nodup_entriesForService h.wellFormed rs svc _

end Runs

end GostlyProxy
