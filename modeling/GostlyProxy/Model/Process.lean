/-
The proxy as a process: its state, the files it is started from
(`run_proxy` in `main.rs`), and what the calls write to these files.

A call runs to its end, with the tasks it has spawned, before the next one.
What calls do to each other's files when they overlap is in `Proofs`, file
by file; here they are put together. The traffic log and the wide events are
not read at boot, and left out with their appends. The services named in a
call are those of the directories' files: a service whose name is a path has
no file. Routes carry no chaos configuration; its Markov state is in no file.

# Boot

`runProxy` reads the mode, the mocks, the sequences and the captured
resources, with the order of the source, and goes on with what it read;
loading compacts files. A restart is a boot from the files as they are.
-/
import GostlyProxy.Model.Tasks

namespace GostlyProxy

open Lib

/-- The files that are read at boot. -/
structure DataFiles where
  mode : Option Text
  mockDir : Dir
  sequenceDir : Dir
  resourceDir : Dir

/-- A fresh installation. -/
def DataFiles.fresh : DataFiles where
  mode := none
  mockDir := ∅
  sequenceDir := ∅
  resourceDir := ∅

structure Process where
  state : AppState
  files : DataFiles

/-- What a process is started with: the JSON library on the records,
`SEQUENCE_FILE_PATH`, and `INITIAL_MODE` in upper case. -/
structure Startup where
  entries : EntryCodec
  sequences : SequenceCodec
  resources : ResourceCodec
  sequenceFilePath : Text
  initialMode : Text

/-- The mode of `INITIAL_MODE`. -/
def modeOfVariable (value : Text) : Option Mode :=
  if value = "MOCK" then some .mock
  else if value = "PASSTHROUGH" then some .passthrough
  else if value = "LEARN" then some .learn
  else none

/-- The mode to boot in, by the one read from the mode file. -/
def initialMode (startup : Startup) (saved : Option Mode) : Mode :=
  (saved.or (modeOfVariable startup.initialMode)).getD .learn

section Process

variable (env : Externals) (cfg : Config) (startup : Startup)

-- ================================================================== boot

/-- `run_proxy`, up to where it serves. -/
def runProxy (rs : RandomState) (files : DataFiles) : Process :=
  let mode := initialMode startup (readModeFromFile env files.mode)
  let (mockDir, library) := loadAllServiceMocks startup.entries rs files.mockDir
  let sequences := loadSequences startup.sequences files.sequenceDir startup.sequenceFilePath
  let (resourceDir, resourceStore) :=
    (ResourceStore.new (some withBundledFixtures)).loadFromDisk startup.resources rs
      files.resourceDir
  { state := AppState.boot mode library sequences resourceStore
    files := { files with mockDir := mockDir, resourceDir := resourceDir } }

-- ============================================================== requests

/-- The key of the resource that an answered transition has moved. -/
def movedResource (st : AppState) (call : Call) : Answer → Option (Text × Text × Text)
  | .served .resourceTransition _ =>
      ((collectBody cfg call.request.body).bind (requestContext env cfg st call.request)).bind
        fun ctx => (transitionTarget env ctx).map fun (coll, id, _) => (ctx.svcKey, coll, id)
  | _ => none

/-- `apply_transition` reads the resource again, and appends it. -/
def persistMoved (store : ResourceStore) (dir : Dir) : Option (Text × Text × Text) → Dir
  | none => dir
  | some (svc, coll, id) =>
      match store.lookup svc coll id with
      | none => dir
      | some snapshot => persistJsonl startup.resources dir svc snapshot

/-- Run one spawned task to its end. -/
def completeOnDisk (now : Nat) (s : Process) : Spawned → Process
  | .appendMockLog svcId entry =>
      if isFileName (mockFileName svcId) then
        { s with files := { s.files with
            mockDir := appendToMockLog s.files.mockDir svcId (startup.entries.print entry) } }
      else s
  | .captureCreate svcKey coll body contentType status =>
      match s.state.resourceStore.captureCreate svcKey coll body none contentType status now with
      | (_, .error _) => s
      | (store, .ok id) =>
          let state := ResourceStore.captured s.state.resourceStore.registry coll id body
            contentType status now
          { state := { s.state with resourceStore := store }
            files := { s.files with
              resourceDir := persistJsonl startup.resources s.files.resourceDir svcKey state } }
  | _ => s

def serveRequest (s : Process) (call : Call) : Process × Answer :=
  let (st, answer, spawned) := proxyHandler env cfg s.state call
  let files := { s.files with
    resourceDir := persistMoved startup st.resourceStore s.files.resourceDir
      (movedResource env cfg s.state call answer) }
  (spawned.foldl (completeOnDisk startup call.systemTime) { state := st, files := files }, answer)

-- ================================================================= admin

/-- What an admin call writes; `st` is the state after it. -/
def adminFiles (files : DataFiles) (st : AppState) : AdminCall → DataFiles
  | .setMode mode => { files with mode := writeModeToFile files.mode mode }
  | .createSequence _ | .deleteSequence _ =>
      { files with
        sequenceDir :=
          saveSequences startup.sequences files.sequenceDir startup.sequenceFilePath
            st.sequences }
  | _ => files

inductive ProcessAction where
  | request (call : Call)
  | createMock (entry : MockEntry)
  | admin (call : AdminCall)
  /-- A full reload by a reload route, or of one file by the watcher. -/
  | reloadFull (rs : RandomState)
  | reloadOneFile (rs : RandomState) (fname : Text)
  /-- The process is stopped, and started again. -/
  | restart (rs : RandomState)

/-- One action, and the answer if it is a request. -/
def processStep (s : Process) : ProcessAction → Process × Option Answer
  | .request call =>
      let (s', answer) := serveRequest env cfg startup s call
      (s', some answer)
  | .createMock entry =>
      let (st, _, spawned) := handleCreateMock s.state entry
      (spawned.foldl (completeOnDisk startup 0) { s with state := st }, none)
  | .admin call =>
      let st := (handleAdmin s.state call).1
      ({ state := st, files := adminFiles startup s.files st call }, none)
  | .reloadFull rs =>
      let (dir, library) := reloadFull startup.entries rs s.files.mockDir
      ({ state := { s.state with mocks := library }, files := { s.files with mockDir := dir } },
        none)
  | .reloadOneFile rs fname =>
      let (dir, library) := reloadOneFile startup.entries rs s.files.mockDir fname s.state.mocks
      ({ state := { s.state with mocks := library }, files := { s.files with mockDir := dir } },
        none)
  | .restart rs => (runProxy env startup rs s.files, none)

end Process

end GostlyProxy
